import SmartGroup.Group.Opener
import SmartGroup.Group.Timing

/-! The reflector timer and the streams of the users. -/
namespace SmartGroup
open Bytes Sweep Machine

namespace Timer

theorem running_iff (t : Timer) : t.isRunning ↔ t.timer ≠ 0 := by
  simp [isRunning, Nat.pos_iff_ne_zero]

theorem running_start {t : Timer} (long : 0 < t.timeout) : t.start.isRunning := by
  rw [running_iff, start, if_pos long]
  exact Nat.one_ne_zero

/-- The clock does not start a timer. -/
theorem clock_stopped {t : Timer} (stopped : ¬t.isRunning) (ms : Nat) : t.clock ms = t := by
  rw [running_iff, not_not] at stopped
  exact if_neg fun runs => Nat.ne_of_gt runs.1 stopped

end Timer

namespace GroupHandler

theorem linkTimerAfter_stopped {t : Timer} (stopped : ¬t.isRunning) (ms : Nat) :
    linkTimerAfter ms t = t := by
  have same := Timer.clock_stopped stopped ms
  have quiet : ¬t.fires ms := by
    rw [Timer.fires, same, Bool.and_eq_true]
    exact fun fires => stopped fires.1
  rw [linkTimerAfter, if_neg quiet, same]

theorem linkTimerAfter_timeout (ms : Nat) (t : Timer) : (linkTimerAfter ms t).timeout = t.timeout := by
  have clock : (t.clock ms).timeout = t.timeout := by
    unfold Timer.clock
    split <;> rfl
  unfold linkTimerAfter
  split <;> exact clock

/-- The reflector timer keeps its length. -/
theorem GroupRun.linkTimer_timeout {c : Config} {tr : List GroupEntry} {g : GroupHandler}
    (run : GroupRun c tr g) : g.linkTimer.timeout = linkLimit := by
  have start (t : Timer) : t.start.timeout = t.timeout := by
    unfold Timer.start
    split <;> rfl
  refine run.always (I := fun g => g.linkTimer.timeout = linkLimit) rfl fun before taken => ?_
  rcases step_linkTimer taken with same | started | stopped | ⟨env, ms, -, ticked⟩
  · rw [same, before]
  · rw [started, start, before]
  · rw [stopped]
    exact (start _).trans before
  · rw [ticked, linkTimerAfter_timeout, before]

/-- The events that can leave an idle group with a running timer: a user's last frame, a
logoff by the remote control and the expiry of a pending id close a stream without stopping
the timer, and a reflector's packet with the id zero starts it without a stream. -/
def LeavesTimer (g : GroupHandler) : GroupEvent → Prop
  | .g2AMBE _ data => g.id ≠ 0 ∧ data.getId = g.id ∧ data.isEnd
  | .reflectorHeader _ header => g.id = 0 ∧ header.getId = 0
  | .reflectorAMBE _ data => g.id = 0 ∧ data.getId = 0 ∧ ¬data.isEnd
  | .logoffUser _ => g.id ≠ 0
  | .clock _ ms => g.id ≠ 0 ∧ ¬g.linkTimer.fires ms
  | _ => False

theorem linkTimerAfter_fires {t : Timer} {ms : Nat} (fires : t.fires ms) :
    ¬(linkTimerAfter ms t).isRunning := by
  rw [linkTimerAfter, if_pos fires, Timer.running_iff, not_not]
  rfl

/-- In an idle group the timer starts to run by one of these events. -/
theorem leavesTimer_of_step {g g' : GroupHandler} {e : GroupEvent} {outs : List Output}
    (quiet : g.id = 0 → ¬g.linkTimer.isRunning) (h : step g e = .ok (g', outs)) (idle : g'.id = 0)
    (runs : g'.linkTimer.isRunning) : LeavesTimer g e := by
  have stream (same : g'.linkTimer = g.linkTimer) : g.id ≠ 0 := by
    intro none
    rw [same] at runs
    exact quiet none runs
  cases step_case h with
  | refused env header _ => exact absurd idle (stream rfl)
  | opened env header islogin g₁ _ opens case => exact absurd opens.2.1 (stream case.linkTimer)
  | recorded env header go _ _ _ case => exact absurd (case.frame.1 ▸ idle) (stream case.linkTimer)
  | skipped env data _ => exact absurd idle (stream rfl)
  | voice env data _ _ current case _ =>
      cases case with
      | unknown absent => exact absurd idle (stream rfl)
      | going tx pending more => exact absurd idle (stream rfl)
      | login tx pending last login => exact ⟨stream rfl, current, last⟩
      | logoff tx user pending last held stays logoff => exact ⟨stream rfl, current, last⟩
      | relay tx pending last stays => exact ⟨stream rfl, current, last⟩
  | reflectorHeader env header _ case =>
      cases case with
      | busy busy => exact absurd idle busy
      | idle none => exact ⟨none, idle⟩
  | reflectorAMBE env data _ _ case _ =>
      cases case with
      | other other => exact absurd idle (stream rfl)
      | going current more => exact ⟨idle, current.trans idle, more⟩
      | last current last => exact absurd rfl ((Timer.running_iff _).mp runs)
  | logoffUser c _ _ case _ => exact stream (case.linkTimer)
  | clock env ms _ _ _ =>
      simp only [step] at h
      rw [linkTimer_clockInt h] at runs
      have waits : ¬g.linkTimer.fires ms := fun fires => linkTimerAfter_fires fires runs
      refine ⟨fun none => ?_, waits⟩
      rw [linkTimerAfter_stopped (quiet none)] at runs
      exact quiet none runs
  | relink info => exact absurd idle (stream rfl)

/-- A timer that runs in an idle group was left behind by such a step. -/
theorem GroupRun.timer_left {c : Config} {tr : List GroupEntry} {g : GroupHandler}
    (run : GroupRun c tr g) (idle : g.id = 0) (runs : g.linkTimer.isRunning) :
    ∃ x ∈ tr, x.post.id = 0 ∧ x.post.linkTimer.isRunning ∧ LeavesTimer x.pre x.event := by
  induction run with
  | nil => exact absurd rfl ((Timer.running_iff _).mp runs)
  | @snoc tr g e g' outs before last ih =>
      by_cases left : g.id = 0 ∧ g.linkTimer.isRunning
      · obtain ⟨x, member, found⟩ := ih left.1 left.2
        exact ⟨x, List.mem_append_left _ member, found⟩
      · have quiet : g.id = 0 → ¬g.linkTimer.isRunning := not_and.mp left
        exact ⟨⟨g, e, outs, g'⟩, by simp, idle, runs, leavesTimer_of_step quiet last idle runs⟩

/-- While a user's stream is current the reflector timer does not run. -/
def LinkQuiet (tr : List GroupEntry) (g : GroupHandler) : Prop :=
  OpenedBy .g2 tr → ¬g.linkTimer.isRunning

/-- No header of a user opens a stream while the reflector timer runs, and no reflector
frame but a last one has the id of a user's stream. -/
def TimerKept (tr : List GroupEntry) : GroupEntry → Prop
  | ⟨g, .g2Header _ header, _, _⟩ =>
      g.Accepts header → g.Opens header → header.getId ≠ 0 → ¬g.linkTimer.isRunning
  | ⟨g, .reflectorAMBE _ data, _, _⟩ => data.getId = g.id → ¬data.isEnd → ¬OpenedBy .g2 tr
  | _ => True

instance (tr : List GroupEntry) : DecidablePred (TimerKept tr)
  | ⟨_, .g2Header _ _, _, _⟩ => inferInstanceAs (Decidable (_ → _ → _ → _))
  | ⟨_, .reflectorAMBE _ _, _, _⟩ => inferInstanceAs (Decidable (_ → _ → _))
  | ⟨_, .g2AMBE _ _, _, _⟩ | ⟨_, .reflectorHeader _ _, _, _⟩ | ⟨_, .logoffUser _, _, _⟩
  | ⟨_, .clock _ _, _, _⟩ | ⟨_, .relink _, _, _⟩ => isTrue trivial

/-- A tick that ends a user's stream ends it because the stream's own id is over. -/
def CutByOwnId (tr : List GroupEntry) : GroupEntry → Prop
  | ⟨g, .clock _ ms, _, g'⟩ => OpenedBy .g2 tr → g'.id = 0 →
      ∃ tx, g.Pending g.id tx ∧ tx.id = g.id ∧ tx.Stops ms
  | _ => True

section
variable {tr : List GroupEntry} {g g' : GroupHandler} {e : GroupEvent} {outs : List Output}

theorem linkQuiet_snoc_iff (tr : List GroupEntry) (g g' : GroupHandler) (e : GroupEvent)
    (outs : List Output) : LinkQuiet (tr ++ [⟨g, e, outs, g'⟩]) g' ↔
      (Opening .g2 ⟨g, e, outs, g'⟩ ∨ OpenedBy .g2 tr → g'.id ≠ 0 → ¬g'.linkTimer.isRunning) := by
  rw [LinkQuiet, openedBy_snoc, and_imp]

/-- A step that opens no stream of a user and does not start the timer keeps it quiet. -/
theorem LinkQuiet.kept (quiet : LinkQuiet tr g) (other : ¬Opening .g2 ⟨g, e, outs, g'⟩)
    (timer : ¬g.linkTimer.isRunning → ¬g'.linkTimer.isRunning) :
    LinkQuiet (tr ++ [⟨g, e, outs, g'⟩]) g' := by
  rw [linkQuiet_snoc_iff]
  rintro (opening | opened) -
  · exact absurd opening other
  · exact timer (quiet opened)

/-- A step that opens no stream of a user and leaves the timer alone. -/
theorem LinkQuiet.same (quiet : LinkQuiet tr g) (other : ¬Opening .g2 ⟨g, e, outs, g'⟩)
    (timer : g'.linkTimer = g.linkTimer) : LinkQuiet (tr ++ [⟨g, e, outs, g'⟩]) g' := by
  apply quiet.kept other
  rw [timer]
  exact fun stopped => stopped

/-- A reflector's frame that is not the last starts the timer. -/
theorem linkQuiet_restart (streams : OpenedBy .g2 tr → g.id ≠ 0) (other : ¬Opening .g2 ⟨g, e, outs, g'⟩)
    (same : g'.id = g.id) (runs : g'.linkTimer.isRunning) :
    LinkQuiet (tr ++ [⟨g, e, outs, g'⟩]) g' ↔ ¬OpenedBy .g2 tr := by
  rw [linkQuiet_snoc_iff, same]
  constructor
  · intro all opened
    exact all (.inr opened) (streams opened) runs
  · rintro closed (opening | opened)
    · exact absurd opening other
    · exact absurd opened closed

theorem linkQuiet_turn {c : Config} (run : GroupRun c tr g) (quiet : LinkQuiet tr g)
    (h : step g e = .ok (g', outs)) :
    LinkQuiet (tr ++ [⟨g, e, outs, g'⟩]) g' ↔ TimerKept tr ⟨g, e, outs, g'⟩ := by
  have long : 0 < g.linkTimer.timeout := by
    rw [GroupRun.linkTimer_timeout run]
    decide
  have streams : OpenedBy .g2 tr → g.id ≠ 0 := fun opened => (GroupRun.opened run).1.mpr ⟨.g2, opened⟩
  cases step_case h with
  | refused env header refuses =>
      exact iff_of_true (quiet.same (fun opening => refuses opening.1) rfl) fun accepted =>
        absurd accepted refuses
  | opened env header islogin g₁ accepted opens case =>
      have timer : (g₁.openStream env header islogin).1.linkTimer = g.linkTimer := case.linkTimer
      rw [linkQuiet_snoc_iff, timer]
      constructor
      · exact fun all _ _ => all (.inl ⟨accepted, opens⟩)
      · exact fun kept _ => kept accepted opens
  | recorded env header go _ accepted closed case =>
      exact iff_of_true (quiet.same (fun opening => closed opening.2) case.linkTimer) fun _ opens =>
        absurd opens closed
  | skipped env data _ => exact iff_of_true (quiet.same not_false rfl) trivial
  | voice env data _ _ _ case _ => exact iff_of_true (quiet.same not_false case.linkTimer) trivial
  | reflectorHeader env header _ case =>
      refine iff_of_true ?_ trivial
      cases case with
      | busy _ => exact quiet.same not_false rfl
      | idle stream =>
          rw [linkQuiet_snoc_iff]
          rintro (opening | opened) -
          · exact opening.elim
          · exact absurd stream (streams opened)
  | reflectorAMBE env data _ _ case _ =>
      cases case with
      | other stream =>
          exact iff_of_true (quiet.same not_false rfl) fun current => absurd current stream
      | going stream more =>
          refine (linkQuiet_restart streams ?_ ?_ ?_).trans ?_
          · exact not_false
          · rfl
          · exact Timer.running_start long
          · exact ⟨fun closed _ _ => closed, fun kept => kept stream more⟩
      | last stream last =>
          refine iff_of_true ?_ fun _ more => absurd last more
          rw [linkQuiet_snoc_iff]
          exact fun _ stream => absurd rfl stream
  | logoffUser c _ _ case _ => exact iff_of_true (quiet.same not_false case.linkTimer) trivial
  | clock env ms _ _ _ =>
      simp only [step] at h
      refine iff_of_true (quiet.kept not_false fun stopped => ?_) trivial
      rw [linkTimer_clockInt h, linkTimerAfter_stopped stopped]
      exact stopped
  | relink info => exact iff_of_true (quiet.same not_false rfl) trivial

theorem LinkQuiet.cut (quiet : LinkQuiet tr g) (keyed : g.Keyed) (stream : OpenedBy .g2 tr → g.id ≠ 0)
    (h : step g e = .ok (g', outs)) : CutByOwnId tr ⟨g, e, outs, g'⟩ := by
  cases e with
  | clock env ms =>
      intro opened idle
      simp only [step] at h
      rcases (clockInt_spec h).stream with ⟨id, -, -⟩ | ⟨-, -, fires | ⟨k, tx, pending, stops, own⟩⟩
      · exact absurd (id.symm.trans idle) (stream opened)
      · rw [Timer.fires, Timer.clock_stopped (quiet opened), Bool.and_eq_true] at fires
        exact absurd fires.1 (quiet opened)
      · have key : k = g.id := (keyed k tx pending).symm.trans own
        exact ⟨tx, key ▸ pending, own, stops⟩
  | _ => trivial

end

/-- The reflector timer stays quiet during the users' streams exactly when every step
keeps it so, and then no tick cuts a user's stream before its own time. -/
theorem link_timer_local_iff {c : Config} {tr : List GroupEntry} {g : GroupHandler}
    (run : GroupRun c tr g) :
    ((∀ before t, before <+: tr → GroupRun c before t → LinkQuiet before t) ↔
        Throughout TimerKept tr) ∧
      (Throughout TimerKept tr → Throughout CutByOwnId tr) := by
  have quiet := run.history_iff_past (H := LinkQuiet) (C := TimerKept)
    (fun opened => absurd opened (openedBy_nil .g2)) fun reached sofar taken =>
      linkQuiet_turn reached sofar taken
  refine ⟨quiet, fun kept before x after split => ?_⟩
  obtain ⟨reached, taken⟩ := run.split split
  have sofar := quiet.mpr kept before x.pre ⟨x :: after, split.symm⟩ reached
  exact sofar.cut (GroupRun.keyed reached) (fun opened => (GroupRun.opened reached).1.mpr ⟨.g2, opened⟩)
    taken

section
open Sample

/-- A reflector stream with its last frame, and then a user's stream that is lost. -/
theorem ended_reflector_quiet : ∃ tr g, GroupRun config tr g ∧ tr.length = 7 ∧
    (∃ x ∈ tr, x.pre.id = 9 ∧ x.post.id = 0) ∧
    (∀ before t, before <+: tr → GroupRun config before t → LinkQuiet before t) ∧
    Throughout CutByOwnId tr := by
  obtain ⟨tr, g, run, accepted⟩ := Sample.run
    [.g2Header env (call userA smart 1), .g2AMBE env (lastFrame 1),
      .reflectorHeader env (call userB smart 7), .reflectorAMBE env (frame 7),
      .reflectorAMBE env (lastFrame 7), .g2Header env (call userA smart 9), .clock env 4500]
    (fun tr _ => decide (tr.length = 7 ∧
      (∃ (x : GroupEntry), x ∈ tr ∧ x.pre.id = 9 ∧ x.post.id = 0) ∧ Throughout TimerKept tr))
    (by decide +kernel)
  obtain ⟨length, cut, kept⟩ := of_decide_eq_true accepted
  obtain ⟨quiet, own⟩ := link_timer_local_iff run
  exact ⟨tr, g, run, length, cut, quiet.mpr kept, own kept⟩

/-- The remote control ends a reflector stream, and the timer that it leaves running
cuts the next user's stream. -/
theorem logoff_leaves_timer : ∃ tr g g' outs, GroupRun config tr g ∧ ¬LinkQuiet tr g ∧
    step g (.clock env 2000) = .ok (g', outs) ∧ ¬CutByOwnId tr ⟨g, .clock env 2000, outs, g'⟩ := by
  obtain ⟨tr, g, run, accepted⟩ := Sample.run
    [.g2Header env (call userA smart 1), .g2AMBE env (lastFrame 1),
      .reflectorHeader env (call userB smart 7), .logoffUser userA,
      .g2Header env (call userA smart 9)]
    (fun tr g => decide (OpenedBy .g2 tr ∧ g.linkTimer.isRunning = true ∧
        ∀ (tx : SGSId), tx ∈ g.ids[g.id]?.join → ¬tx.Stops 2000) &&
      accepts step g [.clock env 2000] fun _ g' => decide (g'.id = 0)) (by decide +kernel)
  rw [Bool.and_eq_true, decide_eq_true_eq] at accepted
  obtain ⟨⟨opened, runs, waits⟩, ticked⟩ := accepted
  unfold accepts exec at ticked
  cases taken : step g (.clock env 2000) with
  | error f => simp [taken] at ticked
  | ok next =>
      obtain ⟨g', outs⟩ := next
      simp only [taken, exec, decide_eq_true_eq] at ticked
      refine ⟨tr, g, g', outs, run, fun quiet => quiet opened runs, taken, fun cut => ?_⟩
      obtain ⟨tx, pending, -, stops⟩ := cut opened ticked
      exact waits tx (Option.join_eq_some_iff.mpr pending) stops

end

end GroupHandler
end SmartGroup
