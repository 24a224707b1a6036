import SmartGroup.Group.StepCase

/-! Who is subscribed, told from what happened so far. -/
namespace SmartGroup
open Bytes Sweep Objects Machine

namespace GroupHandler

/-- A subscribe header of the user is processed. -/
def Subscribes (c : Str) : GroupEntry → Prop
  | ⟨g, .g2Header _ header, _, _⟩ =>
      g.Accepts header ∧ header.myCall1 = c ∧ header.yourCall = g.groupCallsign
  | _ => False

/-- An unsubscribe header of the user, the remote control, or one of the two branches
of the clock that report the user as removed. -/
def Removes (c : Str) : GroupEntry → Prop
  | ⟨g, .g2Header _ header, _, _⟩ =>
      g.Accepts header ∧ header.myCall1 = c ∧ header.yourCall ≠ g.groupCallsign
  | ⟨_, .logoffUser c', _, _⟩ => c' = c ∨ c' = allUsers
  | ⟨_, .clock _ _, outs, _⟩ => ∃ o ∈ outs, o.lost = some c
  | _ => False

instance (c : Str) : DecidablePred (Subscribes c)
  | ⟨_, .g2Header _ _, _, _⟩ => inferInstanceAs (Decidable (_ ∧ _ ∧ _))
  | ⟨_, .g2AMBE _ _, _, _⟩ | ⟨_, .reflectorHeader _ _, _, _⟩ | ⟨_, .reflectorAMBE _ _, _, _⟩
  | ⟨_, .logoffUser _, _, _⟩ | ⟨_, .clock _ _, _, _⟩ | ⟨_, .relink _, _, _⟩ =>
      inferInstanceAs (Decidable False)

instance (c : Str) : DecidablePred (Removes c)
  | ⟨_, .g2Header _ _, _, _⟩ => inferInstanceAs (Decidable (_ ∧ _ ∧ _))
  | ⟨_, .logoffUser _, _, _⟩ => inferInstanceAs (Decidable (_ ∨ _))
  | ⟨_, .clock _ _, outs, _⟩ => inferInstanceAs (Decidable (∃ o ∈ outs, o.lost = some c))
  | ⟨_, .g2AMBE _ _, _, _⟩ | ⟨_, .reflectorHeader _ _, _, _⟩ | ⟨_, .reflectorAMBE _ _, _, _⟩
  | ⟨_, .relink _, _, _⟩ => inferInstanceAs (Decidable False)

/-- No unsubscription is completed while its user is subscribed again. -/
def Undisturbed : GroupHandler → GroupEvent → Prop
  | g, .g2AMBE _ data => data.getId = g.id → data.isEnd → ∀ tx u, g.Pending g.id tx → ¬tx.login →
      tx.logoff → g.users.heap.cell tx.user = some u → ¬g.users.Subscribed u.callsign
  | g, .clock env ms => ∀ c, g.users.Subscribed c → g.LogoffDue ms c → g.NotFound env ms c
  | _, _ => True

/-- The users are those who subscribed and were not removed since. -/
def UsersSince (tr : List GroupEntry) (g : GroupHandler) : Prop :=
  ∀ c, g.users.Subscribed c ↔ Since (Subscribes c) (Removes c) tr

theorem HeaderCase.subscribed {env : Env} {g g' : GroupHandler} {header : HeaderData}
    {go : Option Bool} (case : HeaderCase env g header go g') (c : Str) :
    g'.users.Subscribed c ↔ (header.myCall1 = c ∧ header.yourCall = g.groupCallsign) ∨
      g.users.Subscribed c ∧ ¬(header.myCall1 = c ∧ header.yourCall ≠ g.groupCallsign) := by
  cases case with
  | login subscribe absent =>
      by_cases own : header.myCall1 = c <;>
        simp [Users.Subscribed, SGSUser.new, subscribe, own]
  | duplicate r _ subscribe filed _ | again r subscribe filed _ =>
      by_cases own : header.myCall1 = c
      · rw [← own]
        simp [Users.Subscribed, subscribe, filed]
      · simp [Users.Subscribed, subscribe, own]
  | unknown other absent =>
      by_cases own : header.myCall1 = c
      · rw [← own]
        simp [Users.Subscribed, other, absent]
      · simp [other, own]
  | logoff r other filed =>
      by_cases own : header.myCall1 = c <;> simp [Users.Subscribed, other, own]

theorem AMBECase.subscribed_iff {env : Env} {g g' : GroupHandler} {data : AMBEData}
    (current : data.getId = g.id) (case : AMBECase env g data g') :
    (∀ c, g'.users.Subscribed c ↔ g.users.Subscribed c) ↔ Undisturbed g (.g2AMBE env data) := by
  cases case with
  | unknown absent =>
      refine iff_of_true (fun c => Iff.rfl) fun _ _ tx u pending => ?_
      simp [Pending, absent] at pending
  | going tx pending more =>
      exact iff_of_true (fun c => Iff.rfl) fun _ last => absurd last more
  | login tx pending last login =>
      refine iff_of_true (fun c => Iff.rfl) fun _ _ tx' u pending' stays => ?_
      have same : tx = tx' := Option.some.inj (Option.some.inj (pending.symm.trans pending'))
      exact absurd (same ▸ login) stays
  | relay tx pending last stays =>
      refine iff_of_true (fun c => Iff.rfl) fun _ _ tx' u pending' _ logoff => ?_
      have same : tx = tx' := Option.some.inj (Option.some.inj (pending.symm.trans pending'))
      exact absurd (same ▸ logoff) stays.2
  | logoff tx user pending last held stays logoff =>
      have erased (c : Str) : ((g.users.reset tx.user env.now).erase user.callsign).Subscribed c ↔
          user.callsign ≠ c ∧ g.users.Subscribed c := by
        by_cases own : user.callsign = c <;> simp [Users.Subscribed, own]
      constructor
      · intro same _ _ tx' u pending' _ _ held' subscribed
        have own : tx = tx' := Option.some.inj (Option.some.inj (pending.symm.trans pending'))
        subst own
        rw [held] at held'
        cases held'
        exact ((erased _).mp ((same _).mpr subscribed)).1 rfl
      · intro undisturbed c
        refine (erased c).trans (and_iff_right_of_imp ?_)
        rintro subscribed rfl
        exact undisturbed current last tx user pending stays logoff held subscribed

theorem LogoffCase.subscribed {g g' : GroupHandler} {c : Str} (case : LogoffCase g c g') (c' : Str) :
    g'.users.Subscribed c' ↔ g.users.Subscribed c' ∧ ¬(c = c' ∨ c = allUsers) := by
  cases case with
  | all everyone => simp [Users.Subscribed, everyone]
  | absent single absent =>
      refine (and_iff_left_of_imp ?_).symm
      rintro subscribed (rfl | everyone)
      · simp [Users.Subscribed, absent] at subscribed
      · exact single everyone
  | last r single filed _ | one r single filed _ =>
      by_cases own : c = c' <;> simp [Users.Subscribed, single, own]

theorem Tick.subscribed_iff {env : Env} {ms : Nat} {g g' : GroupHandler} {outs : List Output}
    (tick : Tick env ms g outs g') :
    (∀ c, g'.users.Subscribed c ↔ g.users.Subscribed c ∧ ¬∃ o ∈ outs, o.lost = some c) ↔
      Undisturbed g (.clock env ms) := by
  have left (c : Str) : g'.users.Subscribed c ↔ g.users.Subscribed c ∧ ¬g.NotFound env ms c ∧
      ¬g.LogoffDue ms c ∧ ¬g.TimesOut env ms c := by
    simp only [Users.subscribed_iff, tick.find, exists_and_right]
  simp only [left, tick.lost, not_or]
  constructor
  · intro same c subscribed due
    by_contra found
    have stays : ¬g.TimesOut env ms c := fun out => out.2.2.1 due
    exact ((same c).mpr ⟨subscribed, found, stays⟩).2.2.1 due
  · intro undisturbed c
    constructor
    · rintro ⟨subscribed, found, -, stays⟩
      exact ⟨subscribed, found, stays⟩
    · rintro ⟨subscribed, found, stays⟩
      exact ⟨subscribed, found, fun due => found (undisturbed c subscribed due), stays⟩

/-- A step keeps the users in line with what happened where and only where no
unsubscription is completed late. -/
theorem usersSince_turn {tr : List GroupEntry} {g g' : GroupHandler} {e : GroupEvent}
    {outs : List Output} (since : UsersSince tr g) (h : step g e = .ok (g', outs)) :
    UsersSince (tr ++ [⟨g, e, outs, g'⟩]) g' ↔ Undisturbed g e := by
  simp only [UsersSince, since_snoc, ← since _]
  cases step_case h with
  | refused env header refuses =>
      refine iff_of_true (fun c => ?_) trivial
      simp [Subscribes, Removes, refuses]
  | opened env header islogin g₁ accepted _ case =>
      refine iff_of_true (fun c => ?_) trivial
      simp only [Subscribes, Removes, accepted, true_and]
      exact case.subscribed c
  | recorded env header go _ accepted _ case =>
      refine iff_of_true (fun c => ?_) trivial
      simp only [Subscribes, Removes, accepted, true_and]
      exact case.subscribed c
  | skipped env data other =>
      refine iff_of_true (fun c => ?_) fun current => absurd current other
      simp [Subscribes, Removes]
  | voice env data _ _ current case _ =>
      simp only [Subscribes, Removes, false_or, not_false_eq_true, and_true]
      exact case.subscribed_iff current
  | reflectorHeader env header _ case =>
      refine iff_of_true (fun c => ?_) trivial
      cases case <;> simp [Subscribes, Removes]
  | reflectorAMBE env data _ _ case _ =>
      refine iff_of_true (fun c => ?_) trivial
      cases case <;> simp [Subscribes, Removes, clearStream]
  | logoffUser c _ _ case _ =>
      refine iff_of_true (fun c' => ?_) trivial
      simpa only [Subscribes, Removes, false_or] using case.subscribed c'
  | clock env ms _ _ tick =>
      simp only [Subscribes, Removes, false_or]
      exact tick.subscribed_iff
  | relink info =>
      refine iff_of_true (fun c => ?_) trivial
      simp [Subscribes, Removes, withLink]

/-- At every moment of a run the users are those who subscribed and were not removed
since, exactly when no unsubscription is completed late. -/
theorem usersSince_iff {c : Config} {tr : List GroupEntry} {g : GroupHandler}
    (run : GroupRun c tr g) :
    (∀ before g', before <+: tr → GroupRun c before g' → UsersSince before g') ↔
      Under Undisturbed tr := by
  refine run.history_iff (fun user => ?_) fun since h => usersSince_turn since h
  simp [Users.Subscribed, init, new]

def isG2Header : GroupEvent → Bool
  | .g2Header _ _ => true
  | _ => false

theorem undisturbed_header {g : GroupHandler} {e : GroupEvent} (header : isG2Header e = true) :
    Undisturbed g e := by
  cases e with
  | g2Header _ _ => exact trivial
  | g2AMBE _ _ | reflectorHeader _ _ | reflectorAMBE _ _ | logoffUser _ | clock _ _ | relink _ =>
      cases header

section
open Sample

/-- A user who subscribes, unsubscribes and subscribes again. -/
theorem resubscribed_since : ∃ tr g, GroupRun config tr g ∧ tr.length = 3 ∧ UsersSince tr g := by
  obtain ⟨tr, g, run, accepted⟩ := Sample.run
    [.g2Header env (call userA smart 1), .g2Header env (call userA leave 2),
      .g2Header env (call userA smart 3)]
    (fun tr _ => decide (tr.length = 3) && tr.all fun x => isG2Header x.event) (by decide +kernel)
  rw [Bool.and_eq_true, decide_eq_true_eq, List.all_eq_true] at accepted
  obtain ⟨length, headers⟩ := accepted
  have undisturbed : Under Undisturbed tr := fun x member => undisturbed_header (headers x member)
  exact ⟨tr, g, run, length, (usersSince_iff run).mpr undisturbed tr g List.prefix_rfl run⟩

/-- The same with the tick that completes the unsubscription afterwards. -/
theorem resubscribed_erased :
    ∃ tr g, GroupRun config tr g ∧ Since (Subscribes userA) (Removes userA) tr ∧
      ¬g.users.Subscribed userA := by
  obtain ⟨tr, g, run, accepted⟩ := Sample.run
    [.g2Header knownEnv (call userA smart 1), .g2AMBE knownEnv (lastFrame 1),
      .g2Header knownEnv (call userA leave 2), .g2Header knownEnv (call userA smart 3),
      .clock knownEnv 5000]
    (fun tr g => decide (Since (Subscribes userA) (Removes userA) tr ∧
      ¬g.users.Subscribed userA)) (by decide +kernel)
  exact ⟨tr, g, run, of_decide_eq_true accepted⟩

end

end GroupHandler
end SmartGroup
