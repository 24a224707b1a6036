import SmartGroup.Group.Effects

/-! Where a stream is sent: the list of repeaters that a header leaves, compared with
the repeaters of the listeners. -/
namespace SmartGroup
open Bytes Sweep

/-- The user has a known address and is reached through the repeater `k`. -/
def Env.ReachedAt (env : Env) (c k : Str) : Prop :=
  (env.findUserData c).addr ≠ [] ∧ (env.findUserData c).rptr = k

namespace GroupHandler

section Fill

variable {env : Env} {users : Users} {skip : Str → Bool}

theorem addRepeater_eq {c : Str} {r : Nat} (filed : users.find c = some r)
    (repeaters : OrdMap Str SGSRepeater) :
    addRepeater env users skip repeaters (c, r) =
      if (env.findUserData c).addr = [] ∨ skip (env.findUserData c).rptr then repeaters
      else if (env.findUserData c).rptr ∈ repeaters then repeaters
      else repeaters.insert (env.findUserData c).rptr (repeaterOf (env.findUserData c)) := by
  obtain ⟨u, held, rfl⟩ := Users.find_cell filed
  simp only [addRepeater, held]

theorem mem_addRepeater {c : Str} {r : Nat} (filed : users.find c = some r)
    (repeaters : OrdMap Str SGSRepeater) (k : Str) :
    k ∈ addRepeater env users skip repeaters (c, r) ↔
      k ∈ repeaters ∨ ¬skip k ∧ env.ReachedAt c k := by
  rw [addRepeater_eq filed]
  unfold Env.ReachedAt
  split
  · rename_i passed
    constructor
    · exact .inl
    · rintro (there | ⟨wanted, known, rfl⟩)
      · exact there
      · exact absurd passed (by simp [known, wanted])
  · rename_i taken
    rw [not_or] at taken
    split
    · rename_i there
      constructor
      · exact .inl
      · rintro (there' | ⟨-, -, rfl⟩)
        · exact there'
        · exact there
    · rw [Std.ExtTreeMap.mem_insert, Std.LawfulEqCmp.compare_eq_iff_eq]
      constructor
      · rintro (rfl | there)
        · exact .inr ⟨taken.2, taken.1, rfl⟩
        · exact .inl there
      · rintro (there | ⟨-, -, rfl⟩)
        · exact .inr there
        · exact .inl rfl

theorem get_addRepeater {c : Str} {r : Nat} (filed : users.find c = some r)
    {repeaters : OrdMap Str SGSRepeater} {k : Str} {v : SGSRepeater}
    (got : (addRepeater env users skip repeaters (c, r))[k]? = some v) :
    repeaters[k]? = some v ∨
      ¬skip k ∧ env.ReachedAt c k ∧ v = repeaterOf (env.findUserData c) := by
  rw [addRepeater_eq filed] at got
  split at got
  · exact .inl got
  · rename_i taken
    rw [not_or] at taken
    split at got
    · exact .inl got
    · rw [Std.ExtTreeMap.getElem?_insert] at got
      split at got
      · rename_i same
        rw [Std.LawfulEqCmp.compare_eq_iff_eq] at same
        subst same
        exact .inr ⟨taken.2, ⟨taken.1, rfl⟩, (Option.some.inj got).symm⟩
      · exact .inl got

end Fill

/-- The keys after the loop: what was there and the repeaters of the listeners. -/
theorem mem_fillRepeaters (env : Env) (g : GroupHandler) (skip : Str → Bool) (k : Str) :
    k ∈ g.fillRepeaters env skip ↔
      k ∈ g.repeaters ∨ ¬skip k ∧ ∃ c, g.users.Subscribed c ∧ env.ReachedAt c k := by
  have loop : ∀ (l : List (Str × Nat)) (repeaters : OrdMap Str SGSRepeater),
      (∀ c r, (c, r) ∈ l → g.users.find c = some r) →
      (k ∈ l.foldl (addRepeater env g.users skip) repeaters ↔
        k ∈ repeaters ∨ ¬skip k ∧ ∃ c r, (c, r) ∈ l ∧ env.ReachedAt c k) := by
    intro l
    induction l with
    | nil => simp
    | cons entry l ih =>
        intro repeaters filed
        obtain ⟨c, r⟩ := entry
        rw [List.foldl_cons, ih _ fun c' r' member => filed c' r' (List.mem_cons_of_mem _ member),
          mem_addRepeater (filed c r List.mem_cons_self)]
        simp only [List.mem_cons, Prod.mk.injEq]
        constructor
        · rintro ((there | ⟨wanted, reached⟩) | ⟨wanted, c', r', member, reached⟩)
          · exact .inl there
          · exact .inr ⟨wanted, c, r, .inl ⟨rfl, rfl⟩, reached⟩
          · exact .inr ⟨wanted, c', r', .inr member, reached⟩
        · rintro (there | ⟨wanted, c', r', ⟨rfl, rfl⟩ | member, reached⟩)
          · exact .inl (.inl there)
          · exact .inl (.inr ⟨wanted, reached⟩)
          · exact .inr ⟨wanted, c', r', member, reached⟩
  rw [fillRepeaters, loop _ _ fun c r => Users.mem_entries.mp]
  simp only [Users.mem_entries, Users.subscribed_iff]
  constructor
  · rintro (there | ⟨wanted, c, r, filed, reached⟩)
    · exact .inl there
    · exact .inr ⟨wanted, c, ⟨r, filed⟩, reached⟩
  · rintro (there | ⟨wanted, c, ⟨r, filed⟩, reached⟩)
    · exact .inl there
    · exact .inr ⟨wanted, c, r, filed, reached⟩

/-- An entry after the loop was there before or is a listener's. -/
theorem get_fillRepeaters {env : Env} {g : GroupHandler} {skip : Str → Bool} {k : Str}
    {v : SGSRepeater} (got : (g.fillRepeaters env skip)[k]? = some v) :
    g.repeaters[k]? = some v ∨ ¬skip k ∧ ∃ c, g.users.Subscribed c ∧ env.ReachedAt c k ∧
      v = repeaterOf (env.findUserData c) := by
  have loop : ∀ (l : List (Str × Nat)) (repeaters : OrdMap Str SGSRepeater),
      (∀ c r, (c, r) ∈ l → g.users.find c = some r) →
      (l.foldl (addRepeater env g.users skip) repeaters)[k]? = some v →
      repeaters[k]? = some v ∨ ¬skip k ∧ ∃ c, g.users.Subscribed c ∧ env.ReachedAt c k ∧
        v = repeaterOf (env.findUserData c) := by
    intro l
    induction l with
    | nil => exact fun repeaters _ got => .inl got
    | cons entry l ih =>
        intro repeaters filed got
        obtain ⟨c, r⟩ := entry
        rcases ih _ (fun c' r' member => filed c' r' (List.mem_cons_of_mem _ member)) got with
          earlier | later
        · rcases get_addRepeater (filed c r List.mem_cons_self) earlier with there | here
          · exact .inl there
          · exact .inr ⟨here.1, c, Users.subscribed_iff.mpr ⟨r, filed c r List.mem_cons_self⟩, here.2⟩
        · exact .inr later
  exact loop _ _ (fun c r => Users.mem_entries.mp) got

/-- Who listens once the header is recorded: the subscribers and the sender. -/
theorem HeaderCase.subscribed_iff {env : Env} {g g' : GroupHandler} {header : HeaderData}
    {go : Option Bool} (case : HeaderCase env g header go g')
    (subscribe : header.yourCall = g.groupCallsign) (c : Str) :
    g'.users.Subscribed c ↔ g.users.Subscribed c ∨ c = header.myCall1 := by
  cases case with
  | login _ absent =>
      simp only [Users.Subscribed, Users.find_login, SGSUser.new]
      split
      · rename_i same
        simp [same]
      · rename_i other
        simp [Ne.symm other]
  | duplicate r tx _ filed _ | again r _ filed _ =>
      simp only [Users.Subscribed, Users.find_reset, iff_self_or]
      rintro rfl
      simp [filed]
  | unknown other _ | logoff r other _ => exact absurd subscribe other

/-- `k` is the repeater of a listener with a known address. -/
def ListensAt (env : Env) (g : GroupHandler) (header : HeaderData) (k : Str) : Prop :=
  ∃ c, (g.users.Subscribed c ∨ c = header.myCall1) ∧ env.ReachedAt c k

/-- The keys of the list that a header opening a stream leaves. -/
theorem HeaderCase.mem_openStream {env : Env} {g g₁ : GroupHandler} {header : HeaderData}
    {go : Option Bool} (case : HeaderCase env g header go g₁) (opens : g.Opens header)
    (empty : g.repeaters = ∅) (islogin : Bool) (k : Str) :
    k ∈ (g₁.openStream env header islogin).1.repeaters ↔
      g.ListensAt env header k ∧ k ≠ env.findUserRepeater header.myCall1 := by
  rw [openStream, mem_fillRepeaters, case.frame.2.1, empty]
  simp only [case.subscribed_iff opens.1, Std.ExtTreeMap.not_mem_empty, false_or, decide_eq_true_eq]
  exact and_comm

theorem mem_processHeader (env : Env) {g : GroupHandler} {header : HeaderData}
    (empty : g.repeaters = ∅) (opens : g.Opens header) (k : Str) :
    k ∈ (g.processHeader env header).1.repeaters ↔
      g.ListensAt env header k ∧ k ≠ env.findUserRepeater header.myCall1 := by
  obtain ⟨go, g₁, case, ⟨islogin, -, -, opened, -⟩ | ⟨closed, -⟩⟩ := processHeader_case env g header
  · rw [opened]
    exact case.mem_openStream opens empty islogin k
  · exact absurd opens closed

/-- The first cache names a repeater of the sender without an address, the second
one names another repeater, and one of the two is a listener's. -/
def StaleSender (env : Env) (g : GroupHandler) (header : HeaderData) : Prop :=
  ∃ irc1, env.irc1 = some irc1 ∧ env.irc0.cache.findUserRepeater header.myCall1 ≠ [] ∧
    env.irc0.cache.findUserAddr header.myCall1 = [] ∧
    env.irc0.cache.findUserRepeater header.myCall1 ≠ irc1.cache.findUserRepeater header.myCall1 ∧
    (g.ListensAt env header (env.irc0.cache.findUserRepeater header.myCall1) ∨
      g.ListensAt env header (irc1.cache.findUserRepeater header.myCall1))

/-- The repeater left out is the one of the sender's relay record, unless the caches
disagree about a sender without an address in the first. -/
theorem findUserRepeater_cases (env : Env) (user : Str) :
    env.findUserRepeater user = (env.findUserData user).rptr ∨
      ∃ irc1, env.irc1 = some irc1 ∧ env.irc0.cache.findUserRepeater user ≠ [] ∧
        env.irc0.cache.findUserAddr user = [] ∧
        env.findUserRepeater user = env.irc0.cache.findUserRepeater user ∧
        (env.findUserData user).rptr = irc1.cache.findUserRepeater user := by
  unfold Env.findUserRepeater Env.findUserData
  cases env.irc1 with
  | none => exact .inl rfl
  | some irc1 =>
      by_cases unnamed : env.irc0.cache.findUserRepeater user = []
      · have unknown := env.irc0.cache.findUserAddr_of_no_repeater unnamed
        simp [unnamed, unknown]
      · by_cases unknown : env.irc0.cache.findUserAddr user = []
        · exact .inr ⟨irc1, rfl, unnamed, unknown, by simp [unnamed], by simp [unknown]⟩
        · left
          simp [unnamed, unknown]

/-- The list is exact where and only where the sender is not stale. -/
theorem processHeader_routes_iff (env : Env) (g : GroupHandler) (header : HeaderData)
    (empty : g.repeaters = ∅) (opens : g.Opens header) :
    (∀ k, k ∈ (g.processHeader env header).1.repeaters ↔
        g.ListensAt env header k ∧ k ≠ (env.findUserData header.myCall1).rptr) ↔
      ¬g.StaleSender env header := by
  simp only [mem_processHeader env empty opens]
  rcases findUserRepeater_cases env header.myCall1 with
    same | ⟨irc1, second, named, unknown, excluded, own⟩
  · rw [same]
    simp only [iff_self, implies_true, true_iff]
    rintro ⟨irc1, second, named, unknown, differ, -⟩
    have record : (env.findUserData header.myCall1).rptr =
        irc1.cache.findUserRepeater header.myCall1 := by
      simp [Env.findUserData, second, unknown]
    have first : env.findUserRepeater header.myCall1 =
        env.irc0.cache.findUserRepeater header.myCall1 := by
      simp [Env.findUserRepeater, second, named]
    exact differ (first.symm.trans (same.trans record))
  · rw [excluded, own]
    constructor
    · rintro exact_list ⟨irc1', second', -, -, differ, listens⟩
      have same : irc1' = irc1 := Option.some.inj (second'.symm.trans second)
      subst same
      rcases listens with first | other
      · exact ((exact_list _).mpr ⟨first, differ⟩).2 rfl
      · exact ((exact_list _).mp ⟨other, Ne.symm differ⟩).2 rfl
    · intro fresh k
      refine and_congr_right fun listens => not_congr ?_
      by_cases agree : env.irc0.cache.findUserRepeater header.myCall1 =
          irc1.cache.findUserRepeater header.myCall1
      · rw [agree]
      · have away (k' : Str) (at_k' : g.ListensAt env header k')
            (one : k' = env.irc0.cache.findUserRepeater header.myCall1 ∨
              k' = irc1.cache.findUserRepeater header.myCall1) : False := by
          refine fresh ⟨irc1, second, named, unknown, agree, ?_⟩
          rcases one with rfl | rfl
          · exact .inl at_k'
          · exact .inr at_k'
        exact ⟨fun h => (away k listens (.inl h)).elim, fun h => (away k listens (.inr h)).elim⟩

section Stale
open Sample

/-- One user is subscribed and the group is idle. -/
def oneUser : GroupHandler := { init config with users := Users.empty.login (.new userA 1800 0) }

/-- The first cache holds an old repeater of the user, the second one the present one. -/
def movedEnv : Env :=
  { env with
    irc0 := ⟨CacheManager.empty.updateUser userA (str "RPTR0  B") [] [] [], 7⟩
    irc1 := some ⟨CacheManager.empty.updateUser userA (str "RPTR1  B") (str "RPTR1  G")
      (str "44.0.0.1") [], 7⟩ }

theorem oneUser_opens : oneUser.Opens (call userA smart 2) :=
  ⟨by decide, rfl, .inr fun tx pending => by simp [Pending, oneUser, init, new] at pending⟩

/-- A second user is subscribed, too. -/
def twoUsers : GroupHandler :=
  { init config with users := (Users.empty.login (.new userA 1800 0)).login (.new userB 1800 0) }

/-- Both caches have the first user at one repeater, but only the second one has its address, and
the second user. -/
def agreeingEnv : Env :=
  { env with
    irc0 := ⟨CacheManager.empty.updateUser userA (str "RPTR1  B") [] [] [], 7⟩
    irc1 := some ⟨(CacheManager.empty.updateUser userA (str "RPTR1  B") (str "RPTR1  G")
      (str "44.0.0.1") []).updateUser userB (str "RPTR2  B") (str "RPTR2  G") (str "44.0.0.2") [], 7⟩ }

theorem twoUsers_opens : twoUsers.Opens (call userA smart 2) :=
  ⟨by decide, rfl, .inr fun tx pending => by simp [Pending, twoUsers, init, new] at pending⟩

/-- Where both caches agree, the list of the user's own stream is exact: the other user's
repeater. -/
theorem sender_routed : twoUsers.repeaters = ∅ ∧
    (twoUsers.processHeader agreeingEnv (call userA smart 2)).1.repeaters.keys = [str "RPTR2  B"] ∧
    ∀ k, k ∈ (twoUsers.processHeader agreeingEnv (call userA smart 2)).1.repeaters ↔
      twoUsers.ListensAt agreeingEnv (call userA smart 2) k ∧
        k ≠ (agreeingEnv.findUserData (call userA smart 2).myCall1).rptr := by
  refine ⟨rfl, by decide +kernel, (processHeader_routes_iff agreeingEnv twoUsers _ rfl twoUsers_opens).mpr ?_⟩
  rintro ⟨irc1, second, -, -, differ, -⟩
  have same : irc1 = agreeingEnv.irc1.get rfl := Option.some.inj (second.symm.trans (Option.some_get rfl).symm)
  subst same
  exact differ (by decide +kernel)

/-- The user's stream is sent back to its sender. -/
theorem sender_echoed :
    oneUser.repeaters = ∅ ∧ oneUser.Opens (call userA smart 2) ∧
      ¬∀ k, k ∈ (oneUser.processHeader movedEnv (call userA smart 2)).1.repeaters ↔
        oneUser.ListensAt movedEnv (call userA smart 2) k ∧
          k ≠ (movedEnv.findUserData (call userA smart 2).myCall1).rptr := by
  refine ⟨rfl, oneUser_opens, fun exact_list => ?_⟩
  have echoed : str "RPTR1  B" ∈
      (oneUser.processHeader movedEnv (call userA smart 2)).1.repeaters := by
    decide +kernel
  have own : (movedEnv.findUserData (call userA smart 2).myCall1).rptr = str "RPTR1  B" := by
    decide +kernel
  exact ((exact_list _).mp echoed).2 own.symm

end Stale

end GroupHandler
end SmartGroup
