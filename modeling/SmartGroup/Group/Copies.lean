import SmartGroup.Group.LinkFrame
import SmartGroup.Group.Pending

/-! Copies of a header: every sender transmits each header several times. -/
namespace SmartGroup
open Bytes Sweep Machine

namespace GroupHandler

/-- Copies of the header, and what others send in between: headers of other users with
other ids, frames with other ids that no pending id of the user carries, and the packets
of a reflector with other ids. -/
def Between (h : HeaderData) (g : GroupHandler) : GroupEvent → Prop
  | .g2Header _ header => header = h ∨ header.myCall1 ≠ h.myCall1 ∧ header.getId ≠ h.getId
  | .g2AMBE _ data => data.getId ≠ h.getId ∧ ∀ tx u, g.Pending data.getId tx →
      g.users.heap.cell tx.user = some u → u.callsign ≠ h.myCall1
  | .reflectorHeader _ header => header.getId ≠ h.getId
  | .reflectorAMBE _ data => data.getId ≠ h.getId
  | .logoffUser _ => False
  | .clock _ _ => False
  | .relink _ => False

theorem others_iff (h : HeaderData) (g : GroupHandler) (k : Nat) :
    (∀ tx u, g.Pending k tx → g.users.heap.cell tx.user = some u → u.callsign ≠ h.myCall1) ↔
      ∀ tx ∈ (g.ids[k]?).join, ∀ u ∈ g.users.heap.cell tx.user, u.callsign ≠ h.myCall1 := by
  simp only [Pending, Option.mem_def, Option.join_eq_some_iff]
  exact ⟨fun all tx pending u held => all tx u pending held, fun all tx u pending held => all tx pending u held⟩

instance (h : HeaderData) (g : GroupHandler) : (e : GroupEvent) → Decidable (Between h g e)
  | .g2Header _ header => inferInstanceAs (Decidable (header = h ∨ _ ∧ _))
  | .g2AMBE _ data =>
      have := decidable_of_iff _ (others_iff h g data.getId).symm
      inferInstanceAs (Decidable (_ ∧ _))
  | .reflectorHeader _ _ => inferInstanceAs (Decidable (_ ≠ _))
  | .reflectorAMBE _ _ => inferInstanceAs (Decidable (_ ≠ _))
  | .logoffUser _ | .clock _ _ | .relink _ => inferInstanceAs (Decidable False)

/-- The header has nothing left to do: its user has a pending id for it, or is not there
where it unsubscribes. -/
def Settled (g : GroupHandler) (h : HeaderData) : Prop :=
  g.Accepts h → if h.yourCall = g.groupCallsign then
    g.users.Subscribed h.myCall1 ∧ ∃ tx, g.Pending h.getId tx
  else ¬g.users.Subscribed h.myCall1

/-- The header restarts the timer of its user at most and asks for him at most. -/
structure Harmless (env : Env) (h : HeaderData) (g : GroupHandler) (outs : List Output)
    (g' : GroupHandler) : Prop where
  users : g'.users = g.users ∨
    ∃ r, g.users.find h.myCall1 = some r ∧ g'.users = g.users.reset r env.now
  ids : g'.ids = g.ids
  id : g'.id = g.id
  repeaters : g'.repeaters = g.repeaters
  finds : ∀ o ∈ outs, ∃ server, o = .findUser server h.myCall1

section
variable {env : Env} {g g' : GroupHandler} {h : HeaderData}

theorem accepts_of_settings (same : g'.settings = g.settings) : g'.Accepts h ↔ g.Accepts h := by
  have callsign : g'.groupCallsign = g.groupCallsign := congrArg Settings.groupCallsign same
  have off : g'.offCallsign = g.offCallsign := congrArg Settings.offCallsign same
  simp only [Accepts, callsign, off]

theorem Settled.of_same (settled : g.Settled h) (same : g'.settings = g.settings)
    (subscribed : g'.users.Subscribed h.myCall1 ↔ g.users.Subscribed h.myCall1)
    (pending : ∀ tx, g.Pending h.getId tx → ∃ tx, g'.Pending h.getId tx) : g'.Settled h := by
  intro accepted
  have callsign : g'.groupCallsign = g.groupCallsign := congrArg Settings.groupCallsign same
  have known := settled ((accepts_of_settings same).mp accepted)
  rw [callsign, subscribed]
  split
  · rename_i subscribe
    rw [if_pos subscribe] at known
    obtain ⟨there, tx, held⟩ := known
    exact ⟨there, pending tx held⟩
  · rename_i other
    rwa [if_neg other] at known

/-- A header that has come leaves nothing to do for a copy. -/
theorem HeaderCase.settled {go : Option Bool} (case : HeaderCase env g h go g') : g'.Settled h := by
  intro _
  cases case with
  | login subscribe absent =>
      rw [if_pos subscribe]
      exact ⟨by simp [Users.Subscribed, SGSUser.new], _, Std.ExtTreeMap.getElem?_insert_self⟩
  | duplicate r tx subscribe filed pending =>
      rw [if_pos subscribe]
      exact ⟨Users.subscribed_iff.mpr ⟨r, filed⟩, tx, pending⟩
  | again r subscribe filed idle =>
      rw [if_pos subscribe]
      exact ⟨Users.subscribed_iff.mpr ⟨r, filed⟩, _, Std.ExtTreeMap.getElem?_insert_self⟩
  | unknown other absent =>
      rw [if_neg other]
      simp [Users.Subscribed, absent]
  | logoff r other filed =>
      rw [if_neg other]
      simp [Users.Subscribed]

theorem pending_other (held : Option SGSId) {k k' : Nat} (apart : k ≠ k') {m : OrdMap Nat (Option SGSId)}
    {tx : SGSId} (pending : m[k']? = some (some tx)) : (m.insert k held)[k']? = some (some tx) := by
  rwa [get_insert, if_neg apart]

/-- Another header leaves the user and his pending id alone. -/
theorem HeaderCase.keeps_settled {go : Option Bool} {header : HeaderData}
    (case : HeaderCase env g header go g') (settled : g.Settled h)
    (user : header.myCall1 ≠ h.myCall1) (id : header.getId ≠ h.getId) : g'.Settled h := by
  cases case with
  | login subscribe absent =>
      refine settled.of_same rfl ?_ fun tx pending => ⟨tx, pending_other _ id pending⟩
      simp [Users.Subscribed, SGSUser.new, user]
  | duplicate r tx subscribe filed pending => exact settled.of_same rfl Iff.rfl fun tx pending => ⟨tx, pending⟩
  | again r subscribe filed idle =>
      exact settled.of_same rfl Iff.rfl fun tx pending => ⟨tx, pending_other _ id pending⟩
  | unknown other absent => exact settled
  | logoff r other filed =>
      refine settled.of_same rfl ?_ fun tx pending => ⟨tx, pending_other _ id pending⟩
      simp [Users.Subscribed, user]

theorem AMBECase.keeps_settled {data : AMBEData} (case : AMBECase env g data g') (settled : g.Settled h)
    (keyed : g.Keyed) (id : g.id ≠ h.getId) (others : ∀ tx u, g.Pending g.id tx →
      g.users.heap.cell tx.user = some u → u.callsign ≠ h.myCall1) : g'.Settled h := by
  cases case with
  | unknown absent => exact settled
  | going tx own more => exact settled.of_same rfl Iff.rfl fun tx pending => ⟨tx, pending_other _ id pending⟩
  | login tx own last login =>
      exact settled.of_same rfl Iff.rfl fun tx pending => ⟨tx, pending_other _ id (pending_other _ id pending)⟩
  | logoff tx user own last held stays logoff =>
      refine settled.of_same rfl ?_ fun tx pending => ⟨tx, pending_other _ id (pending_other _ id pending)⟩
      simp [Users.Subscribed, others tx user own held]
  | relay tx own last stays =>
      refine settled.of_same rfl Iff.rfl fun tx' pending => ⟨tx', ?_⟩
      have apart : tx.id ≠ h.getId := by
        rw [keyed g.id tx own]
        exact id
      have kept := pending_other (some tx.reset) id pending
      rwa [Pending, get_erase, if_neg apart]

theorem StepCase.keeps_settled {e : GroupEvent} {outs : List Output} (case : StepCase g e outs g')
    (settled : g.Settled h) (keyed : g.Keyed) (between : Between h g e) : g'.Settled h := by
  cases case with
  | refused env header _ => exact settled
  | opened env header islogin g₁ _ _ case =>
      have recorded : g₁.Settled h := by
        rcases between with rfl | ⟨user, id⟩
        · exact case.settled
        · exact case.keeps_settled settled user id
      exact recorded
  | recorded env header go _ _ _ case =>
      rcases between with rfl | ⟨user, id⟩
      · exact case.settled
      · exact case.keeps_settled settled user id
  | skipped env data _ => exact settled
  | voice env data _ _ current case _ =>
      rw [Between, current] at between
      exact case.keeps_settled settled keyed between.1 between.2
  | reflectorHeader env header _ case =>
      cases case with
      | busy _ => exact settled
      | idle _ => exact settled.of_same rfl Iff.rfl fun tx pending => ⟨tx, pending_other _ between pending⟩
  | reflectorAMBE env data _ _ case _ =>
      cases case with
      | other _ => exact settled
      | going stream _ | last stream _ =>
          rw [Between, stream] at between
          exact settled.of_same rfl Iff.rfl fun tx pending => ⟨tx, pending_other _ between pending⟩
  | logoffUser => exact between.elim
  | clock => exact between.elim
  | relink => exact between.elim

theorem recordHeader_finds (env : Env) (header : HeaderData) :
    ∀ o ∈ (if env.findUserAddr header.myCall1 = [] then
      env.ircs.map fun irc => Output.findUser irc.1 header.myCall1 else []),
      ∃ server, o = .findUser server header.myCall1 := by
  intro o member
  split at member
  · obtain ⟨irc, -, same⟩ := List.mem_map.mp member
    exact ⟨irc.1, same.symm⟩
  · cases member

/-- A header with nothing left to do is harmless. -/
theorem Settled.harmless (settled : g.Settled h) (env : Env) :
    ∃ g' outs, step g (.g2Header env h) = .ok (g', outs) ∧ Harmless env h g outs g' := by
  by_cases accepted : g.Accepts h
  · have known := settled accepted
    refine ⟨_, _, if_pos accepted, ?_⟩
    unfold recordHeader
    dsimp only
    split at known
    · rename_i subscribe
      obtain ⟨there, tx, pending⟩ := known
      obtain ⟨r, filed⟩ := Users.subscribed_iff.mp there
      have held : g.ids[h.getId]? = some (some tx) := pending
      simp only [subscribe, if_true, filed, held]
      exact ⟨.inr ⟨r, filed, rfl⟩, rfl, rfl, rfl, recordHeader_finds env h⟩
    · rename_i other
      have absent : g.users.find h.myCall1 = none := by
        simpa [Users.Subscribed] using known
      simp only [other, if_false, absent]
      exact ⟨.inl rfl, rfl, rfl, rfl, recordHeader_finds env h⟩
  · refine ⟨g, [], if_neg accepted, .inl rfl, rfl, rfl, rfl, ?_⟩
    intro o member
    cases member

end

/-- A further copy of a header, after the header and any number of copies and packets of
others, changes nothing but the timer of its user. -/
theorem repeated_header_harmless {c : Config} {tr between : List GroupEntry} {g g₁ g₂ : GroupHandler}
    {outs : List Output} {env : Env} {h : HeaderData} (run : GroupRun c tr g)
    (first : step g (.g2Header env h) = .ok (g₁, outs)) (rest : Run step g₁ between g₂)
    (others : Under (Between h) between) (env' : Env) :
    ∃ g₃ outs₃, step g₂ (.g2Header env' h) = .ok (g₃, outs₃) ∧ Harmless env' h g₂ outs₃ g₃ := by
  have keyed : g₁.Keyed := GroupRun.keyed (run.snoc first)
  have settled : g₁.Settled h := by
    cases step_case first with
    | refused _ _ refuses => exact fun accepted => absurd accepted refuses
    | opened _ _ islogin g₁ _ _ case =>
        have recorded : g₁.Settled h := case.settled
        exact recorded
    | recorded _ _ go _ _ _ case => exact case.settled
  have both : g₂.Settled h ∧ g₂.Keyed := by
    refine rest.invariant (I := fun g => g.Settled h ∧ g.Keyed) ⟨settled, keyed⟩ ?_ others
    intro s e s' o before condition taken
    have case := step_case taken
    exact ⟨case.keeps_settled before.1 before.2 condition, case.keyed before.2⟩
  exact both.1.harmless env'

section
open Sample

/-- A user calls while another one talks; a copy of his header comes when the group is idle. -/
theorem late_copy_harmless : ∃ tr between g g₁ g₂ outs, GroupRun config tr g ∧ g.id = 2 ∧
    step g (.g2Header knownEnv (call userA smart 1)) = .ok (g₁, outs) ∧ Run step g₁ between g₂ ∧ g₂.id = 0 ∧
    ∃ g₃ outs₃, step g₂ (.g2Header knownEnv (call userA smart 1)) = .ok (g₃, outs₃) ∧
      Harmless knownEnv (call userA smart 1) g₂ outs₃ g₃ := by
  obtain ⟨tr, g, run, checked⟩ := Sample.run [.g2Header knownEnv (call userB smart 2)]
    (fun _ g => decide (g.id = 2) && accepts step g [.g2Header knownEnv (call userA smart 1)] fun _ g₁ =>
      accepts step g₁ [.g2AMBE knownEnv (frame 2), .g2Header knownEnv (call userA smart 1),
        .g2AMBE knownEnv (lastFrame 2)] fun between g₂ =>
          decide (g₂.id = 0 ∧ Under (Between (call userA smart 1)) between)) (by decide +kernel)
  rw [Bool.and_eq_true, decide_eq_true_eq] at checked
  obtain ⟨busy, called⟩ := checked
  obtain ⟨one, g₁, ran, rest⟩ := exists_exec_of_accepts _ _ _ _ called
  obtain ⟨g₁, outs, _, first, done, -⟩ := exec_cons ran
  cases done
  obtain ⟨between, g₂, later, held⟩ := exists_run_of_accepts _ _ _ _ rest
  obtain ⟨idle, others⟩ := of_decide_eq_true held
  exact ⟨tr, between, g, g₁, g₂, outs, run, busy, first, later, idle,
    repeated_header_harmless run first later others knownEnv⟩

end

end GroupHandler
end SmartGroup
