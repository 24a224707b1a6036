import SmartGroup.Group.Step

/-! What the operations of a group do to its users, its pending ids, the current
stream and the list of repeaters. -/
namespace SmartGroup
open Bytes Sweep Objects

/-- The user is a key of the map. -/
def Users.Subscribed (t : Users) (c : Str) : Prop := (t.find c).isSome

instance (t : Users) (c : Str) : Decidable (t.Subscribed c) := inferInstanceAs (Decidable (_ = true))

theorem Users.subscribed_iff {t : Users} {c : Str} : t.Subscribed c ↔ ∃ r, t.find c = some r := by
  simp [Subscribed, Option.isSome_iff_exists]

/-- The stream id of a header handed to `sendToRepeaters`. -/
def Output.relayed : Output → Option Nat
  | .relayHeader header => some header.getId
  | _ => none

/-- The user that a tick reports as removed. -/
def Output.lost : Output → Option Str
  | .removing user .notFound => some user
  | .removing user .userTimeout => some user
  | _ => none

namespace GroupHandler

/-- A pending id: the entry of the map is there and not null. -/
def Pending (g : GroupHandler) (k : Nat) (tx : SGSId) : Prop := g.ids[k]? = some (some tx)

/-- The ways through the first half of `process(CHeaderData &)`. -/
inductive HeaderCase (env : Env) (g : GroupHandler) (header : HeaderData) :
    Option Bool → GroupHandler → Prop
  | login (subscribe : header.yourCall = g.groupCallsign) (absent : g.users.find header.myCall1 = none) :
      HeaderCase env g header (some true) { g with
        users := g.users.login (.new header.myCall1 (g.userTimeout * 60 % word) env.now)
        ids := g.ids.insert header.getId
          (some (SGSId.new header.getId messageDelay g.users.heap.next).setLogin) }
  | duplicate (r : Nat) (tx : SGSId) (subscribe : header.yourCall = g.groupCallsign)
      (filed : g.users.find header.myCall1 = some r) (pending : g.Pending header.getId tx) :
      HeaderCase env g header none { g with users := g.users.reset r env.now }
  | again (r : Nat) (subscribe : header.yourCall = g.groupCallsign)
      (filed : g.users.find header.myCall1 = some r) (idle : ∀ tx, ¬g.Pending header.getId tx) :
      HeaderCase env g header (some false) { g with
        users := g.users.reset r env.now
        ids := g.ids.insert header.getId (some (SGSId.new header.getId messageDelay r)) }
  | unknown (other : header.yourCall ≠ g.groupCallsign)
      (absent : g.users.find header.myCall1 = none) : HeaderCase env g header none g
  | logoff (r : Nat) (other : header.yourCall ≠ g.groupCallsign)
      (filed : g.users.find header.myCall1 = some r) :
      HeaderCase env g header none { g with
        users := g.users.erase header.myCall1
        ids := g.ids.insert header.getId
          (some (SGSId.new header.getId messageDelay r).setLogoff) }

theorem recordHeader_case (env : Env) (g : GroupHandler) (header : HeaderData) :
    HeaderCase env g header (g.recordHeader env header).1 (g.recordHeader env header).2.1 := by
  unfold recordHeader
  by_cases subscribe : header.yourCall = g.groupCallsign
  · cases filed : g.users.find header.myCall1 with
    | none => simpa only [subscribe, if_true, filed] using .login subscribe filed
    | some r =>
        simp only [subscribe, if_true, filed]
        split
        · rename_i tx pending
          exact .duplicate r tx subscribe filed pending
        · rename_i idle
          exact .again r subscribe filed idle
  · cases filed : g.users.find header.myCall1 with
    | none => simpa only [subscribe, if_false, filed] using .unknown subscribe filed
    | some r => simpa only [subscribe, if_false, filed] using .logoff r subscribe filed

/-- The header goes on to open a stream. -/
def Opens (g : GroupHandler) (header : HeaderData) : Prop :=
  header.yourCall = g.groupCallsign ∧ g.id = 0 ∧
    (¬g.users.Subscribed header.myCall1 ∨ ∀ tx, ¬g.Pending header.getId tx)

theorem not_pending_iff (g : GroupHandler) (k : Nat) :
    (∀ tx, ¬g.Pending k tx) ↔ (g.ids[k]?).join = none := by
  simp only [Pending, Option.eq_none_iff_forall_ne_some, ne_eq, Option.join_eq_some_iff]

instance (g : GroupHandler) (header : HeaderData) : Decidable (g.Opens header) :=
  have := decidable_of_iff _ (g.not_pending_iff header.getId).symm
  inferInstanceAs (Decidable (_ ∧ _ ∧ (_ ∨ _)))

theorem HeaderCase.opens_iff {env : Env} {g g' : GroupHandler} {header : HeaderData}
    {go : Option Bool} (case : HeaderCase env g header go g') :
    go.isSome ∧ g.id = 0 ↔ g.Opens header := by
  cases case with
  | login subscribe absent => simp [Opens, subscribe, Users.Subscribed, absent]
  | duplicate r tx subscribe filed pending =>
      simp only [Option.isSome_none, Bool.false_eq_true, false_and, false_iff]
      rintro ⟨-, -, absent | idle⟩
      · simp [Users.Subscribed, filed] at absent
      · exact idle tx pending
  | again r subscribe filed idle => simp [Opens, subscribe, idle]
  | unknown other absent => simp [Opens, other]
  | logoff r other filed => simp [Opens, other]

/-- The first half leaves the stream alone. -/
theorem HeaderCase.frame {env : Env} {g g' : GroupHandler} {header : HeaderData}
    {go : Option Bool} (case : HeaderCase env g header go g') :
    g'.id = g.id ∧ g'.repeaters = g.repeaters ∧ g'.listenOnly = g.listenOnly ∧
      g'.groupCallsign = g.groupCallsign := by
  cases case <;> exact ⟨rfl, rfl, rfl, rfl⟩

/-- Both halves of `process(CHeaderData &)`. -/
theorem processHeader_case (env : Env) (g : GroupHandler) (header : HeaderData) :
    ∃ go g₁, HeaderCase env g header go g₁ ∧
      ((∃ islogin, go = some islogin ∧ g.Opens header ∧
          (g.processHeader env header).1 = (g₁.openStream env header islogin).1 ∧
          (g.processHeader env header).2 =
            (g.recordHeader env header).2.2 ++ (g₁.openStream env header islogin).2) ∨
        ¬g.Opens header ∧
          g.processHeader env header = (g₁, (g.recordHeader env header).2.2)) := by
  have case := recordHeader_case env g header
  refine ⟨_, _, case, ?_⟩
  have idle := case.frame.1
  have opens := case.opens_iff
  unfold processHeader
  rcases taken : g.recordHeader env header with ⟨_ | islogin, g₁, outs⟩
  · right
    rw [taken] at opens
    exact ⟨fun h => by simpa using (opens.mpr h).1, rfl⟩
  · rw [taken] at opens idle
    dsimp only at opens idle ⊢
    by_cases busy : g.id = 0
    · left
      exact ⟨islogin, rfl, opens.mp ⟨rfl, busy⟩, by simp [idle, busy], by simp [idle, busy]⟩
    · right
      exact ⟨fun h => busy (opens.mpr h).2, by simp [idle, busy]⟩

theorem recordHeader_silent (env : Env) (g : GroupHandler) (header : HeaderData) :
    ∀ o ∈ (g.recordHeader env header).2.2, o.relayed = none ∧ o.lost = none := by
  have finds : ∀ o ∈ (if env.findUserAddr header.myCall1 = [] then
      env.ircs.map fun irc => Output.findUser irc.1 header.myCall1 else []),
      o.relayed = none ∧ o.lost = none := by
    intro o member
    split at member
    · obtain ⟨irc, -, rfl⟩ := List.mem_map.mp member
      exact ⟨rfl, rfl⟩
    · cases member
  intro o member
  unfold recordHeader at member
  dsimp only at member
  split at member
  · split at member
    · rcases List.mem_append.mp member with found | added
      · exact finds o found
      · rw [List.mem_singleton.mp added]
        exact ⟨rfl, rfl⟩
    · split at member <;> exact finds o member
  · split at member
    · exact finds o member
    · rcases List.mem_append.mp member with found | removed
      · exact finds o found
      · simp only [List.mem_cons, List.not_mem_nil, or_false] at removed
        rcases removed with rfl | rfl <;> exact ⟨rfl, rfl⟩

theorem textFrames_ne_nil (id : Nat) (text : Str) (n : Nat) : textFrames id text n ≠ [] := by
  simp [textFrames]

/-- The text is sent whatever the list of repeaters. -/
theorem sendFromText_ne_nil (env : Env) (g : GroupHandler) : g.sendFromText env ≠ [] := by
  obtain ⟨frame, member⟩ := List.exists_mem_of_ne_nil _
    (textFrames_ne_nil g.id (str "VIA SMARTGP " ++ g.groupCallsign) 20)
  exact List.ne_nil_of_mem (List.mem_flatMap.mpr ⟨frame, member, List.mem_cons_self⟩)

theorem sendFromText_silent (env : Env) (g : GroupHandler) :
    ∀ o ∈ g.sendFromText env, o.relayed = none ∧ o.lost = none := by
  intro o member
  obtain ⟨frame, -, sent⟩ := List.mem_flatMap.mp member
  rcases List.mem_cons.mp sent with rfl | written
  · exact ⟨rfl, rfl⟩
  · obtain ⟨entry, -, rfl⟩ := List.mem_map.mp written
    exact ⟨rfl, rfl⟩

theorem sendAMBEToRepeaters_silent (env : Env) (g : GroupHandler) (data : AMBEData) :
    ∀ o ∈ g.sendAMBEToRepeaters env data, o.relayed = none ∧ o.lost = none := by
  intro o member
  rcases List.mem_cons.mp member with rfl | written
  · exact ⟨rfl, rfl⟩
  · obtain ⟨entry, -, rfl⟩ := List.mem_map.mp written
    exact ⟨rfl, rfl⟩

theorem sendToRepeaters_relayed (env : Env) (g : GroupHandler) (header : HeaderData) :
    (g.sendToRepeaters env header).filterMap Output.relayed = [header.getId] ∧
      (g.sendToRepeaters env header).filterMap Output.lost = [] := by
  have written : ∀ o ∈ g.repeaters.toList.map (fun entry =>
      Output.writeHeader (env.server (isIPv4 entry.2.addr))
        (((header.setYourCall entry.2.dest).setDestination entry.2.addr
          (g2Port entry.2.addr)).setRepeaters entry.2.gate entry.1)),
      o.relayed = none ∧ o.lost = none := by
    intro o member
    obtain ⟨entry, -, rfl⟩ := List.mem_map.mp member
    exact ⟨rfl, rfl⟩
  constructor
  · have none_left := List.filterMap_eq_nil_iff.mpr fun o member => (written o member).1
    simp only [sendToRepeaters, List.filterMap_cons, Output.relayed, none_left]
  · have none_left := List.filterMap_eq_nil_iff.mpr fun o member => (written o member).2
    simp only [sendToRepeaters, List.filterMap_cons, Output.lost, none_left]

@[simp] theorem closeStream_ids (g : GroupHandler) (id : Nat) : (g.closeStream id).ids = g.ids := by
  unfold closeStream
  split <;> rfl

@[simp] theorem closeStream_users (g : GroupHandler) (id : Nat) :
    (g.closeStream id).users = g.users := by
  unfold closeStream
  split <;> rfl

/-! Voice frames of the current stream. -/

inductive AMBECase (env : Env) (g : GroupHandler) (data : AMBEData) : GroupHandler → Prop
  | unknown (absent : g.ids[g.id]? = none) : AMBECase env g data g
  | going (tx : SGSId) (pending : g.Pending g.id tx) (more : ¬data.isEnd) :
      AMBECase env g data { g with
        ids := g.ids.insert g.id (some tx.reset)
        users := g.users.reset tx.user env.now }
  | login (tx : SGSId) (pending : g.Pending g.id tx) (last : data.isEnd) (login : tx.login) :
      AMBECase env g data { g.clearStream with
        ids := (g.ids.insert g.id (some tx.reset)).insert g.id (some tx.reset.reset.setEnd)
        users := g.users.reset tx.user env.now }
  | logoff (tx : SGSId) (user : SGSUser) (pending : g.Pending g.id tx) (last : data.isEnd)
      (held : g.users.heap.cell tx.user = some user) (stays : ¬tx.login) (logoff : tx.logoff) :
      AMBECase env g data { g.clearStream with
        ids := (g.ids.insert g.id (some tx.reset)).insert g.id (some tx.reset.reset.setEnd)
        users := (g.users.reset tx.user env.now).erase user.callsign }
  | relay (tx : SGSId) (pending : g.Pending g.id tx) (last : data.isEnd)
      (stays : ¬tx.login ∧ ¬tx.logoff) :
      AMBECase env g data { g.clearStream with
        ids := (g.ids.insert g.id (some tx.reset)).erase tx.id
        users := g.users.reset tx.user env.now }

theorem processAMBE_case {env : Env} {g g' : GroupHandler} {data : AMBEData} {outs : List Output}
    (current : data.getId = g.id) (h : g.processAMBE env data = .ok (g', outs)) :
    AMBECase env g data g' ∧ ∀ o ∈ outs, o.relayed = none ∧ o.lost = none := by
  unfold processAMBE at h
  simp only [current, closeStream, if_true, true_and] at h
  split at h
  · rename_i absent
    simp only [Except.ok.injEq, Prod.mk.injEq] at h
    obtain ⟨rfl, rfl⟩ := h
    exact ⟨.unknown absent, by simp⟩
  · cases h
  · rename_i tx pending
    split at h
    · cases h
    · rename_i user held
      have sent : ∀ o ∈ (if ¬tx.reset.login ∧ ¬g.listenOnly then
          (if g.linkType = .none then [] else [Output.reflectorAMBE g.linkType data]) ++
            g.sendAMBEToRepeaters env data else []), o.relayed = none ∧ o.lost = none := by
        intro o member
        split at member
        · rcases List.mem_append.mp member with linked | relayed
          · split at linked
            · cases linked
            · rw [List.mem_singleton.mp linked]
              exact ⟨rfl, rfl⟩
          · exact sendAMBEToRepeaters_silent env g data o relayed
        · cases member
      split at h
      · rename_i last
        split at h
        · rename_i login
          simp only [Except.ok.injEq, Prod.mk.injEq] at h
          obtain ⟨rfl, rfl⟩ := h
          exact ⟨.login tx pending last login, sent⟩
        · rename_i stays
          split at h
          · rename_i logoff
            simp only [Except.ok.injEq, Prod.mk.injEq] at h
            obtain ⟨rfl, rfl⟩ := h
            exact ⟨.logoff tx user pending last held stays logoff, sent⟩
          · rename_i relay
            simp only [Except.ok.injEq, Prod.mk.injEq] at h
            obtain ⟨rfl, rfl⟩ := h
            exact ⟨.relay tx pending last ⟨stays, relay⟩, sent⟩
      · rename_i more
        simp only [Except.ok.injEq, Prod.mk.injEq] at h
        obtain ⟨rfl, rfl⟩ := h
        exact ⟨.going tx pending more, sent⟩

/-! The reflector side. -/

inductive ReflectorHeaderCase (env : Env) (g : GroupHandler) (header : HeaderData) :
    GroupHandler → Prop
  | busy (stream : g.id ≠ 0) : ReflectorHeaderCase env g header g
  | idle (stream : g.id = 0) :
      ReflectorHeaderCase env g header { g with
        id := header.getId
        linkTimer := g.linkTimer.start
        repeaters := g.fillRepeaters env fun _ => false
        ids := g.ids.insert header.getId ((g.ids[header.getId]?).getD none) }

theorem processReflectorHeader_case (env : Env) (g : GroupHandler) (header : HeaderData) :
    ReflectorHeaderCase env g header (g.processReflectorHeader env header).2.1 := by
  unfold processReflectorHeader
  split
  · rename_i stream
    exact .busy stream
  · rename_i stream
    exact .idle (not_not.mp stream)

inductive ReflectorAMBECase (g : GroupHandler) (data : AMBEData) : GroupHandler → Prop
  | other (stream : data.getId ≠ g.id) : ReflectorAMBECase g data g
  | going (stream : data.getId = g.id) (more : ¬data.isEnd) :
      ReflectorAMBECase g data { g with
        linkTimer := g.linkTimer.start
        ids := g.ids.insert g.id ((g.ids[g.id]?).getD none) }
  | last (stream : data.getId = g.id) (last : data.isEnd) :
      ReflectorAMBECase g data { g.clearStream with
        linkTimer := g.linkTimer.start.stop
        ids := g.ids.insert g.id ((g.ids[g.id]?).getD none) }

theorem processReflectorAMBE_case (env : Env) (g : GroupHandler) (data : AMBEData) :
    ReflectorAMBECase g data (g.processReflectorAMBE env data).2.1 ∧
      ∀ o ∈ (g.processReflectorAMBE env data).2.2, o.relayed = none ∧ o.lost = none := by
  unfold processReflectorAMBE
  by_cases stream : data.getId = g.id
  · simp only [stream, ne_eq, not_true_eq_false, if_false]
    have sent : ∀ o ∈ (if ((g.ids[g.id]?).getD none).any (·.login) then []
        else g.sendAMBEToRepeaters env data), o.relayed = none ∧ o.lost = none := by
      intro o member
      split at member
      · cases member
      · exact sendAMBEToRepeaters_silent env g data o member
    split
    · rename_i last
      exact ⟨.last stream last, sent⟩
    · rename_i more
      exact ⟨.going stream more, sent⟩
  · simp only [ne_eq, stream, not_false_eq_true, if_true]
    exact ⟨.other stream, by simp⟩

/-! The remote control. -/

theorem firstOwned_some {g : GroupHandler} {r k : Nat} {tx : SGSId}
    (found : g.firstOwned r = some (k, tx)) : g.Pending k tx ∧ tx.user = r := by
  obtain ⟨entry, member, owned⟩ := List.exists_of_findSome?_eq_some found
  obtain ⟨k', held⟩ := entry
  dsimp only at owned
  split at owned
  · rename_i tx'
    split at owned
    · rename_i owner
      cases owned
      exact ⟨mem_toList.mp member, owner⟩
    · cases owned
  · cases owned

theorem firstOwned_none {g : GroupHandler} {r k : Nat} {tx : SGSId}
    (absent : g.firstOwned r = none) (pending : g.Pending k tx) : tx.user ≠ r := by
  intro owner
  have skipped := List.findSome?_eq_none_iff.mp absent (k, some tx) (mem_toList.mpr pending)
  simp [owner] at skipped

inductive LogoffCase (g : GroupHandler) (c : Str) : GroupHandler → Prop
  | all (everyone : c = allUsers) :
      LogoffCase g c { g.clearStream with users := g.users.deleteAll, ids := ∅ }
  | absent (single : c ≠ allUsers) (absent : g.users.find c = none) : LogoffCase g c g
  | last (r : Nat) (single : c ≠ allUsers) (filed : g.users.find c = some r)
      (alone : ∀ c', g.users.Subscribed c' → c' = c) :
      LogoffCase g c { g.clearStream with users := g.users.delete c, ids := ∅ }
  | one (r : Nat) (single : c ≠ allUsers) (filed : g.users.find c = some r)
      (others : ∃ c', g.users.Subscribed c' ∧ c' ≠ c) :
      LogoffCase g c { g.dropFirstId r with users := g.users.delete c }

theorem dropFirstId_users (g : GroupHandler) (r : Nat) : (g.dropFirstId r).users = g.users := by
  unfold dropFirstId
  split <;> rfl

theorem logoffUser_case (g : GroupHandler) (c : Str) :
    LogoffCase g c (g.logoffUser c).2.1 ∧
      ∀ o ∈ (g.logoffUser c).2.2, o.relayed = none ∧ o.lost = none := by
  by_cases single : c = allUsers
  · simp only [logoffUser, single, if_true]
    refine ⟨.all rfl, fun o member => ?_⟩
    obtain ⟨entry, -, removed⟩ := List.mem_filterMap.mp member
    obtain ⟨user, -, rfl⟩ := Option.map_eq_some_iff.mp removed
    exact ⟨rfl, rfl⟩
  · cases filed : g.users.find c with
    | none =>
        simp only [logoffUser, single, if_false, filed]
        exact ⟨.absent single filed, by simp⟩
    | some r =>
        have quiet : ∀ o ∈ [Output.removing c .remoteControl], o.relayed = none ∧ o.lost = none := by
          intro o member
          rw [List.mem_singleton.mp member]
          exact ⟨rfl, rfl⟩
        simp only [logoffUser, single, if_false, filed, dropFirstId_users]
        split
        · rename_i empty
          have alone : ∀ c', g.users.Subscribed c' → c' = c := by
            intro c' subscribed
            by_contra other
            have gone := (Users.entries_eq_nil_iff _).mp empty c'
            rw [Users.find_delete, if_neg (Ne.symm other)] at gone
            simp [Users.Subscribed, gone] at subscribed
          have same : { g.dropFirstId r with
              users := g.users.delete c, ids := ∅, repeaters := ∅, id := 0 } =
              { g.clearStream with users := g.users.delete c, ids := ∅ } := by
            unfold dropFirstId clearStream
            split <;> rfl
          exact ⟨same ▸ .last r single filed alone, quiet⟩
        · rename_i some_left
          refine ⟨.one r single filed ?_, quiet⟩
          by_contra alone
          refine some_left ((Users.entries_eq_nil_iff _).mpr fun c' => ?_)
          rw [Users.find_delete]
          split
          · rfl
          · rename_i other
            by_contra filed'
            exact alone ⟨c', Option.isSome_iff_ne_none.mpr filed', Ne.symm other⟩

end GroupHandler
end SmartGroup
