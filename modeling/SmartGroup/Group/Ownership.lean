import SmartGroup.Group.StepCase

/-! What the entries of `m_ids` point to: a `CSGSId`, and through it a user. -/
namespace SmartGroup
open Bytes Sweep Objects Machine

namespace GroupHandler

/-! Null entries. -/

/-- No entry of `m_ids` is null. -/
def NullFree (g : GroupHandler) : Prop := ∀ k : Nat, g.ids[k]? ≠ some none

/-- A reflector packet that is taken carries an id that has an entry already. -/
def KnownId : GroupHandler → GroupEvent → Prop
  | g, .reflectorHeader _ header => g.id = 0 → header.getId ∈ g.ids
  | g, .reflectorAMBE _ data => data.getId = g.id → data.getId ∈ g.ids
  | _, _ => True

instance : ∀ (g : GroupHandler) (e : GroupEvent), Decidable (KnownId g e)
  | _, .reflectorHeader _ _ => inferInstanceAs (Decidable (_ → _))
  | _, .reflectorAMBE _ _ => inferInstanceAs (Decidable (_ → _))
  | _, .g2Header _ _ | _, .g2AMBE _ _ | _, .logoffUser _ | _, .clock _ _ | _, .relink _ =>
      inferInstanceAs (Decidable True)

/-- `m_ids[k]` for reading: it creates a null entry where there is none. -/
theorem nullFree_touch {g : GroupHandler} (free : g.NullFree) (k : Nat) :
    (∀ k' : Nat, (g.ids.insert k ((g.ids[k]?).getD none))[k']? ≠ some none) ↔ k ∈ g.ids := by
  simp only [get_insert]
  constructor
  · intro all
    have here := all k
    rw [if_pos rfl] at here
    by_contra absent
    exact here (by simp [Std.ExtTreeMap.getElem?_eq_none absent])
  · intro present k'
    split
    · obtain ⟨held, there⟩ :=
        Option.isSome_iff_exists.mp (Std.ExtTreeMap.mem_iff_isSome_getElem?.mp present)
      rw [there, Option.getD_some]
      exact there ▸ free k
    · exact free k'

theorem nullFree_insert {g : GroupHandler} (free : g.NullFree) (k : Nat) (tx : SGSId) (k' : Nat) :
    (g.ids.insert k (some tx))[k']? ≠ some none := by
  rw [get_insert]
  split
  · simp
  · exact free k'

theorem nullFree_erase {g : GroupHandler} (free : g.NullFree) (k k' : Nat) :
    (g.ids.erase k)[k']? ≠ some none := by
  rw [get_erase]
  split
  · simp
  · exact free k'

theorem HeaderCase.nullFree {env : Env} {g g' : GroupHandler} {header : HeaderData}
    {go : Option Bool} (case : HeaderCase env g header go g') (free : g.NullFree) : g'.NullFree := by
  cases case with
  | login _ _ | again _ _ _ _ | logoff _ _ _ => exact nullFree_insert free _ _
  | duplicate _ _ _ _ _ => exact free
  | unknown _ _ => exact free

theorem AMBECase.nullFree {env : Env} {g g' : GroupHandler} {data : AMBEData}
    (case : AMBECase env g data g') (free : g.NullFree) : g'.NullFree := by
  cases case with
  | unknown _ => exact free
  | going tx _ _ => exact nullFree_insert free _ _
  | login tx _ _ _ | logoff tx _ _ _ _ _ _ =>
      exact nullFree_insert (g := { g with ids := g.ids.insert g.id (some tx.reset) })
        (nullFree_insert free _ _) _ _
  | relay tx _ _ _ =>
      exact nullFree_erase (g := { g with ids := g.ids.insert g.id (some tx.reset) })
        (nullFree_insert free _ _) _

theorem LogoffCase.nullFree {g g' : GroupHandler} {c : Str} (case : LogoffCase g c g')
    (free : g.NullFree) : g'.NullFree := by
  cases case with
  | all _ | last _ _ _ _ => exact fun k => by simp
  | absent _ _ => exact free
  | one r _ _ _ =>
      unfold dropFirstId
      split
      · exact nullFree_erase free _
      · exact free

theorem Tick.nullFree {env : Env} {ms : Nat} {g g' : GroupHandler} {outs : List Output}
    (tick : Tick env ms g outs g') (free : g.NullFree) : g'.NullFree := by
  intro k
  rw [tick.ids]
  cases held : g.ids[k]? with
  | none => simp
  | some entry =>
      cases entry with
      | none => exact absurd held (free k)
      | some tx => cases left : tx.after ms <;> simp [idAfter, left]

/-- A step keeps the map free of null entries where and only where the id is known. -/
theorem nullFree_turn {g g' : GroupHandler} {e : GroupEvent} {outs : List Output}
    (free : g.NullFree) (h : step g e = .ok (g', outs)) : g'.NullFree ↔ KnownId g e := by
  cases step_case h with
  | refused env header _ => exact iff_of_true free trivial
  | opened env header islogin g₁ _ _ case => exact iff_of_true (case.nullFree free) trivial
  | recorded env header go _ _ _ case => exact iff_of_true (case.nullFree free) trivial
  | skipped env data _ => exact iff_of_true free trivial
  | voice env data _ _ _ case _ => exact iff_of_true (case.nullFree free) trivial
  | reflectorHeader env header _ case =>
      cases case with
      | busy stream => exact iff_of_true free fun idle => absurd idle stream
      | idle stream =>
          apply (nullFree_touch free header.getId).trans
          simp [KnownId, stream]
  | reflectorAMBE env data _ _ case _ =>
      cases case with
      | other stream => exact iff_of_true free fun current => absurd current stream
      | going stream _ | last stream _ =>
          apply (nullFree_touch free g.id).trans
          simp [KnownId, stream]
  | logoffUser c _ _ case _ => exact iff_of_true (case.nullFree free) trivial
  | clock env ms _ _ tick => exact iff_of_true (tick.nullFree free) trivial
  | relink info => exact iff_of_true free trivial

/-- A voice frame meets a null entry where and only where its id has one. -/
theorem processAMBE_null_iff (env : Env) (g : GroupHandler) (data : AMBEData) :
    g.processAMBE env data = .error .nullDeref ↔ g.ids[data.getId]? = some none := by
  unfold processAMBE
  dsimp only
  split
  · rename_i absent
    simp [absent]
  · rename_i null
    simp [null]
  · rename_i tx pending
    rw [pending]
    refine iff_of_false ?_ (by simp)
    split
    · simp
    · split
      · split
        · simp
        · split <;> simp
      · simp

theorem init_ids (c : Config) (k : Nat) : (init c).ids[k]? = none := by simp [init, new]

/-- No entry is ever null, and no voice frame meets one, exactly when every reflector
packet that is taken carries a known id. -/
theorem nullFree_iff {c : Config} {tr : List GroupEntry} {g : GroupHandler} (run : GroupRun c tr g) :
    ((∀ x ∈ tr, x.post.NullFree) ↔ Under KnownId tr) ∧
      (Under KnownId tr → ∀ env data, g.processAMBE env data ≠ .error .nullDeref) := by
  have start : (init c).NullFree := fun k => by simp [init_ids]
  constructor
  · exact run.all_post_iff (I := fun _ => True) trivial start (fun _ _ => trivial)
      fun _ free h => nullFree_turn free h
  · intro known env data null
    have free := run.invariant start (fun free met h => (nullFree_turn free h).mpr met) known
    exact free _ ((processAMBE_null_iff env g data).mp null)

section
open Sample

/-- The reflector's stream has the id of a login that is still pending. -/
theorem knownId_nullFree : ∃ tr g, GroupRun config tr g ∧ tr.length = 3 ∧
    ∀ x ∈ tr, x.post.NullFree := by
  obtain ⟨tr, g, run, accepted⟩ := Sample.run
    [.g2Header env (call userA smart 5), .g2AMBE env (lastFrame 5),
      .reflectorHeader env (call userB smart 5)]
    (fun tr _ => decide (tr.length = 3 ∧ Under KnownId tr)) (by decide +kernel)
  obtain ⟨length, known⟩ := of_decide_eq_true accepted
  exact ⟨tr, g, run, length, (nullFree_iff run).1.mpr known⟩

/-- A reflector stream, and a voice frame with the same id on the G2 port. -/
theorem reflector_nullDeref :
    ∃ tr g, GroupRun config tr g ∧ step g (.g2AMBE env (frame 5)) = .error .nullDeref := by
  obtain ⟨tr, g, run, accepted⟩ := Sample.run [.reflectorHeader env (call userB smart 5)]
    (fun _ g => decide ((frame 5).getId = g.id ∧ g.ids[(frame 5).getId]? = some none))
    (by decide +kernel)
  obtain ⟨current, null⟩ := of_decide_eq_true accepted
  refine ⟨tr, g, run, ?_⟩
  simp only [step, current, if_true]
  exact (processAMBE_null_iff env g (frame 5)).mpr null

end

/-! Dead owners. -/

/-- The owner of every pending id is alive. -/
def Owned (g : GroupHandler) : Prop := ∀ k tx, g.Pending k tx → g.users.heap.Alive tx.user

/-- A user who is logged off while others stay owns one pending id at most, and a
user who times out owns none that the tick leaves. -/
def OwnerKept : GroupHandler → GroupEvent → Prop
  | g, .logoffUser c => c ≠ allUsers → ∀ r, g.users.find c = some r →
      (∃ c', g.users.Subscribed c' ∧ c' ≠ c) →
      ∀ k tx k' tx', g.Pending k tx → g.Pending k' tx' → tx.user = r → tx'.user = r → k = k'
  | g, .clock env ms => ∀ c r, g.users.find c = some r → g.TimesOut env ms c →
      ∀ k tx, g.Pending k tx → tx.user = r → tx.after ms = none
  | _, _ => True

theorem pending_insert {g : GroupHandler} {k k' : Nat} {tx tx' : SGSId}
    (pending : (g.ids.insert k (some tx))[k']? = some (some tx')) :
    tx' = tx ∨ g.Pending k' tx' := by
  rw [get_insert] at pending
  split at pending
  · exact .inl (Option.some.inj (Option.some.inj pending)).symm
  · exact .inr pending

theorem pending_touch {g : GroupHandler} {k k' : Nat} {tx : SGSId}
    (pending : (g.ids.insert k ((g.ids[k]?).getD none))[k']? = some (some tx)) :
    g.Pending k' tx := by
  rw [get_insert] at pending
  split at pending
  · rename_i same
    subst same
    cases held : g.ids[k]? with
    | none => simp [held] at pending
    | some entry =>
        rw [held] at pending
        exact held.trans pending
  · exact pending

theorem pending_erase {g : GroupHandler} {k k' : Nat} {tx : SGSId} :
    (g.ids.erase k)[k']? = some (some tx) ↔ k ≠ k' ∧ g.Pending k' tx := by
  rw [get_erase]
  split
  · rename_i same
    simp [same]
  · rename_i other
    simp [other, Pending]

theorem HeaderCase.owned {env : Env} {g g' : GroupHandler} {header : HeaderData}
    {go : Option Bool} (case : HeaderCase env g header go g') (owned : g.Owned) : g'.Owned := by
  cases case with
  | login _ _ =>
      intro k tx pending
      rcases pending_insert pending with rfl | before
      · simp [Users.login, SGSId.new, SGSId.setLogin]
      · exact (Heap.alive_alloc _ _ _).mpr (.inr (owned k tx before))
  | duplicate r _ _ _ _ =>
      intro k tx pending
      exact (Heap.alive_modify _ _ _ _).mpr (owned k tx pending)
  | again r _ filed _ =>
      intro k tx pending
      apply (Heap.alive_modify _ _ _ _).mpr
      rcases pending_insert pending with rfl | before
      · obtain ⟨u, held, -⟩ := Users.find_cell filed
        exact (Heap.alive_iff _ _).mpr ⟨u, held⟩
      · exact owned k tx before
  | unknown _ _ => exact owned
  | logoff r _ filed =>
      intro k tx pending
      show g.users.heap.Alive tx.user
      rcases pending_insert pending with rfl | before
      · obtain ⟨u, held, -⟩ := Users.find_cell filed
        exact (Heap.alive_iff _ _).mpr ⟨u, held⟩
      · exact owned k tx before

theorem AMBECase.owned {env : Env} {g g' : GroupHandler} {data : AMBEData}
    (case : AMBECase env g data g') (owned : g.Owned) : g'.Owned := by
  have reset (tx : SGSId) (pending : g.Pending g.id tx) :
      Owned { g with
        ids := g.ids.insert g.id (some tx.reset)
        users := g.users.reset tx.user env.now } := by
    intro k tx' pending'
    apply (Heap.alive_modify _ _ _ _).mpr
    rcases pending_insert pending' with rfl | before
    · exact owned g.id tx pending
    · exact owned k tx' before
  cases case with
  | unknown _ => exact owned
  | going tx pending _ => exact reset tx pending
  | login tx pending _ _ =>
      intro k tx' pending'
      rcases pending_insert (g := { g with ids := g.ids.insert g.id (some tx.reset) }) pending' with
        rfl | before
      · exact reset tx pending g.id tx.reset (by simp [Pending])
      · exact reset tx pending k tx' before
  | logoff tx user pending _ _ _ _ =>
      intro k tx' pending'
      rcases pending_insert (g := { g with ids := g.ids.insert g.id (some tx.reset) }) pending' with
        rfl | before
      · exact reset tx pending g.id tx.reset (by simp [Pending])
      · exact reset tx pending k tx' before
  | relay tx pending _ _ =>
      intro k tx' pending'
      have before := (pending_erase (g := { g with
        ids := g.ids.insert g.id (some tx.reset) })).mp pending'
      exact reset tx pending k tx' before.2

/-- Dropping the first id of a user leaves none of them exactly when there is one at most. -/
theorem dropFirstId_unowned_iff (g : GroupHandler) (r : Nat) :
    (∀ k tx, (g.dropFirstId r).Pending k tx → tx.user ≠ r) ↔
      ∀ k tx k' tx', g.Pending k tx → g.Pending k' tx' → tx.user = r → tx'.user = r → k = k' := by
  unfold dropFirstId
  split
  · rename_i k₀ tx₀ found
    obtain ⟨pending₀, owner₀⟩ := firstOwned_some found
    constructor
    · intro left k tx k' tx' pending pending' owner owner'
      have first (k : Nat) (tx : SGSId) (pending : g.Pending k tx) (owner : tx.user = r) : k₀ = k := by
        by_contra other
        exact left k tx (pending_erase.mpr ⟨other, pending⟩) owner
      exact (first k tx pending owner).symm.trans (first k' tx' pending' owner')
    · intro single k tx pending owner
      obtain ⟨other, pending⟩ := pending_erase.mp pending
      exact other (single k₀ tx₀ k tx pending₀ pending owner₀ owner)
  · rename_i absent
    constructor
    · intro left k tx _ _ pending _ owner
      exact absurd owner (left k tx pending)
    · exact fun _ k tx pending => firstOwned_none absent pending

theorem dropFirstId_pending {g : GroupHandler} {r k : Nat} {tx : SGSId}
    (pending : (g.dropFirstId r).Pending k tx) : g.Pending k tx := by
  unfold dropFirstId at pending
  split at pending
  · exact (pending_erase.mp pending).2
  · exact pending

theorem LogoffCase.owned_iff {g g' : GroupHandler} {c : Str} (case : LogoffCase g c g')
    (owned : g.Owned) : g'.Owned ↔ OwnerKept g (.logoffUser c) := by
  have nothing (k : Nat) (tx : SGSId) : ¬(∅ : OrdMap Nat (Option SGSId))[k]? = some (some tx) := by
    simp
  cases case with
  | all everyone =>
      exact iff_of_true (fun k tx pending => absurd pending (nothing k tx)) fun single =>
        absurd everyone single
  | absent single absent =>
      exact iff_of_true owned fun _ r filed => by simp [absent] at filed
  | last r single filed alone =>
      refine iff_of_true (fun k tx pending => absurd pending (nothing k tx)) ?_
      rintro - r' - ⟨c', subscribed, other⟩
      exact absurd (alone c' subscribed) other
  | one r single filed others =>
      have deleted : (g.users.delete c).heap = g.users.heap.free r := by
        rw [Users.delete_of_find filed]
        rfl
      have clear : Owned { g.dropFirstId r with users := g.users.delete c } ↔
          ∀ k tx, (g.dropFirstId r).Pending k tx → tx.user ≠ r := by
        constructor
        · intro kept k tx pending
          have alive : (g.users.delete c).heap.Alive tx.user := kept k tx pending
          rw [deleted, Heap.alive_free] at alive
          exact alive.1
        · intro left k tx pending
          show (g.users.delete c).heap.Alive tx.user
          rw [deleted, Heap.alive_free]
          exact ⟨left k tx pending, owned k tx (dropFirstId_pending pending)⟩
      rw [clear, dropFirstId_unowned_iff]
      constructor
      · intro single_id _ r' filed' _
        have own : r = r' := Option.some.inj (filed.symm.trans filed')
        exact own ▸ single_id
      · exact fun kept => kept single r filed others

theorem Tick.owned_iff {env : Env} {ms : Nat} {g g' : GroupHandler} {outs : List Output}
    (tick : Tick env ms g outs g') (owned : g.Owned) : g'.Owned ↔ OwnerKept g (.clock env ms) := by
  have stays {k : Nat} {tx tx' : SGSId} (pending : g.Pending k tx) (left : tx.after ms = some tx') :
      g'.Pending k tx' := by
    rw [Pending, tick.ids, pending]
    simp [idAfter, left]
  constructor
  · intro kept c r filed out k tx pending owner
    cases left : tx.after ms with
    | none => rfl
    | some tx' =>
        have alive := (tick.alive _).mp (kept k tx' (stays pending left))
        rw [SGSId.after_user left, owner] at alive
        exact absurd ⟨c, filed, out⟩ alive.2
  · intro kept k tx' pending'
    have before : g.ids[k]?.bind (idAfter ms) = some (some tx') := (tick.ids k).symm.trans pending'
    obtain ⟨entry, held, left⟩ := Option.bind_eq_some_iff.mp before
    cases entry with
    | none => simp [idAfter] at left
    | some tx =>
        obtain ⟨tx'', left, same⟩ := Option.map_eq_some_iff.mp left
        cases same
        rw [tick.alive, SGSId.after_user left]
        refine ⟨owned k tx held, ?_⟩
        rintro ⟨c, filed, out⟩
        have gone := kept c tx.user filed out k tx held rfl
        rw [gone] at left
        cases left

/-- A step keeps the owners alive where and only where the condition holds. -/
theorem owned_turn {g g' : GroupHandler} {e : GroupEvent} {outs : List Output} (owned : g.Owned)
    (h : step g e = .ok (g', outs)) : g'.Owned ↔ OwnerKept g e := by
  cases step_case h with
  | refused env header _ => exact iff_of_true owned trivial
  | opened env header islogin g₁ _ _ case => exact iff_of_true (case.owned owned) trivial
  | recorded env header go _ _ _ case => exact iff_of_true (case.owned owned) trivial
  | skipped env data _ => exact iff_of_true owned trivial
  | voice env data _ _ _ case _ => exact iff_of_true (case.owned owned) trivial
  | reflectorHeader env header _ case =>
      refine iff_of_true ?_ trivial
      cases case with
      | busy _ => exact owned
      | idle _ => exact fun k tx pending => owned k tx (pending_touch pending)
  | reflectorAMBE env data _ _ case _ =>
      refine iff_of_true ?_ trivial
      cases case with
      | other _ => exact owned
      | going _ _ | last _ _ => exact fun k tx pending => owned k tx (pending_touch pending)
  | logoffUser c _ _ case _ => exact case.owned_iff owned
  | clock env ms _ _ tick => exact tick.owned_iff owned
  | relink info => exact iff_of_true owned trivial

/-- A voice frame meets a deleted user where and only where it owns the frame's id. -/
theorem processAMBE_dangling_iff (env : Env) (g : GroupHandler) (data : AMBEData) :
    g.processAMBE env data = .error .useAfterDelete ↔
      ∃ tx, g.Pending data.getId tx ∧ ¬g.users.heap.Alive tx.user := by
  unfold processAMBE Pending
  dsimp only
  split
  · rename_i absent
    simp [absent]
  · rename_i null
    simp [null]
  · rename_i tx pending
    simp only [pending, Option.some.injEq, exists_eq_left']
    split
    · rename_i dead
      simp [Heap.Alive, dead]
    · rename_i user held
      refine iff_of_false ?_ (by simp [Heap.Alive, held])
      split
      · split
        · simp
        · split <;> simp
      · simp

/-- With the owners alive no tick faults. -/
theorem clockInt_completes (env : Env) (ms : Nat) {g : GroupHandler} (owned : g.Owned) :
    ∃ g' outs, g.clockInt env ms = .ok (g', outs) := by
  obtain ⟨users, ids, -⟩ := g.beforeIds_frame env ms
  obtain ⟨-, like, -, -⟩ := g.clockPing_spec env ms
  have before : ∀ k tx, (g.beforeIds env ms).Pending k tx →
      (g.beforeIds env ms).users.heap.Alive tx.user := by
    intro k tx pending
    rw [Pending, ids] at pending
    rw [users]
    exact (like.alive tx.user).mpr (owned k tx pending)
  obtain ⟨g₅, acks, loop⟩ := clockIds_completes env ms before
  unfold clockInt
  dsimp only
  rw [beforeIds] at loop
  rw [loop]
  exact ⟨_, _, rfl⟩

/-- The owners stay alive exactly when every step keeps them, and then neither a voice
frame nor a tick meets a deleted user. -/
theorem owners_alive_iff {c : Config} {tr : List GroupEntry} {g : GroupHandler}
    (run : GroupRun c tr g) :
    ((∀ x ∈ tr, x.post.Owned) ↔ Under OwnerKept tr) ∧
      (Under OwnerKept tr →
        (∀ env data, g.processAMBE env data ≠ .error .useAfterDelete) ∧
          ∀ env ms, g.clockInt env ms ≠ .error .useAfterDelete) := by
  have start : (init c).Owned := by
    intro k tx pending
    simp [Pending, init_ids] at pending
  constructor
  · exact run.all_post_iff (I := fun _ => True) trivial start (fun _ _ => trivial)
      fun _ owned h => owned_turn owned h
  · intro kept
    have owned := run.invariant start (fun owned met h => (owned_turn owned h).mpr met) kept
    refine ⟨fun env data fault => ?_, fun env ms fault => ?_⟩
    · obtain ⟨tx, pending, dead⟩ := (processAMBE_dangling_iff env g data).mp fault
      exact dead (owned data.getId tx pending)
    · obtain ⟨g', outs, completes⟩ := clockInt_completes env ms owned
      rw [completes] at fault
      cases fault

section
open Sample

/-- The only user is logged off with its login pending. -/
theorem only_user_owned : ∃ tr g, GroupRun config tr g ∧ tr.length = 2 ∧
    ∀ x ∈ tr, x.post.Owned := by
  obtain ⟨tr, g, run, accepted⟩ := Sample.run [.g2Header env (call userA smart 1), .logoffUser userA]
    (fun tr _ => decide (tr.length = 2) && tr.all fun x =>
      match x.event with
      | .logoffUser c => decide (∀ entry ∈ x.pre.users.entries, entry.1 = c)
      | .g2Header _ _ => true
      | _ => false) (by decide +kernel)
  rw [Bool.and_eq_true, decide_eq_true_eq, List.all_eq_true] at accepted
  obtain ⟨length, checked⟩ := accepted
  refine ⟨tr, g, run, length, (owners_alive_iff run).1.mpr fun x member => ?_⟩
  have ok := checked x member
  cases event : x.event with
  | logoffUser c =>
      rw [event, decide_eq_true_eq] at ok
      rintro - r filed ⟨c', subscribed, other⟩
      obtain ⟨r', filed'⟩ := Users.subscribed_iff.mp subscribed
      exact absurd (ok (c', r') (Users.mem_entries.mpr filed')) other
  | clock env ms => simp [event] at ok
  | g2Header _ _ | g2AMBE _ _ | reflectorHeader _ _ | reflectorAMBE _ _ | relink _ => exact trivial

/-- A user with a finished login and a running stream is logged off while another one
stays: the stream's owner is deleted. -/
theorem second_id_dangles :
    ∃ tr g, GroupRun config tr g ∧ step g (.g2AMBE env (frame 3)) = .error .useAfterDelete := by
  obtain ⟨tr, g, run, accepted⟩ := Sample.run
    [.g2Header env (call userA smart 1), .g2AMBE env (lastFrame 1),
      .g2Header env (call userB smart 2), .g2AMBE env (lastFrame 2),
      .g2Header env (call userA smart 3), .logoffUser userA]
    (fun _ g => decide ((frame 3).getId = g.id ∧
      ∃ tx ∈ (g.ids[(frame 3).getId]?).join, ¬g.users.heap.Alive tx.user)) (by decide +kernel)
  obtain ⟨current, tx, pending, dead⟩ := of_decide_eq_true accepted
  refine ⟨tr, g, run, ?_⟩
  simp only [step, current, if_true]
  rw [processAMBE_dangling_iff]
  exact ⟨tx, Option.join_eq_some_iff.mp pending, dead⟩

end

end GroupHandler
end SmartGroup
