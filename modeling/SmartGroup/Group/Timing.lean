import SmartGroup.Group.Pending

/-! The timers of a group that is ticked at least once a second: none is ever seen
expired between two steps, and a stream is always covered by one that runs. -/
namespace SmartGroup
open Bytes Sweep Machine

/-- A timer that has the length `limit` and, running or not, has not expired. -/
structure Timer.Below (limit : Nat) (t : Timer) : Prop where
  timeout : t.timeout = limit
  timer : t.timer < limit

namespace Timer.Below
variable {limit ms : Nat} {t : Timer}

theorem start (below : t.Below limit) (long : 1 < limit) :
    t.start.Below limit ∧ t.start.timer = 1 := by
  have started : t.start = { t with timer := 1 } := if_pos (by rw [below.timeout]; omega)
  rw [started]
  exact ⟨⟨below.timeout, long⟩, rfl⟩

theorem stop (below : t.Below limit) : t.stop.Below limit :=
  ⟨below.timeout, Nat.lt_of_le_of_lt (Nat.zero_le _) below.timer⟩

theorem clock (below : t.Below limit) (short : limit + ms ≤ word) :
    (t.clock ms).timeout = limit ∧
      (t.clock ms).timer = if 0 < t.timer then t.timer + ms else 0 := by
  obtain ⟨timeout, timer⟩ := below
  by_cases runs : 0 < t.timer
  · have small : (t.timer + ms) % word = t.timer + ms := Nat.mod_eq_of_lt (by omega)
    have counts : t.clock ms = { t with timer := t.timer + ms } := by
      rw [Timer.clock, if_pos ⟨runs, by omega⟩, small]
    rw [counts, if_pos runs]
    exact ⟨timeout, rfl⟩
  · have still : t.clock ms = t := if_neg fun both => runs both.1
    rw [still, if_neg runs]
    exact ⟨timeout, by omega⟩

theorem fires_iff (below : t.Below limit) (short : limit + ms ≤ word) :
    t.fires ms = true ↔ 0 < t.timer ∧ limit ≤ t.timer + ms := by
  obtain ⟨timeout, timer⟩ := below.clock short
  have limited := below.timer
  simp only [Timer.fires, Timer.isRunning, Timer.hasExpired, timeout, timer, Bool.and_eq_true,
    decide_eq_true_eq]
  split <;> omega

/-- A tick that does not expire it. -/
theorem clock_below (below : t.Below limit) (short : limit + ms ≤ word)
    (quiet : ¬t.fires ms = true) : (t.clock ms).Below limit := by
  obtain ⟨timeout, timer⟩ := below.clock short
  have limited := below.timer
  rw [below.fires_iff short] at quiet
  refine ⟨timeout, ?_⟩
  rw [timer]
  split <;> omega

end Timer.Below

namespace GroupHandler

/-! The link timer. -/

theorem linkTimer_closeStream (g : GroupHandler) (id : Nat) :
    (g.closeStream id).linkTimer = g.linkTimer := by
  unfold closeStream
  split <;> rfl

theorem linkTimer_clockId {ms k : Nat} {g g' : GroupHandler} {held : Option SGSId}
    (case : ClockIdCase ms g k held g') : g'.linkTimer = g.linkTimer := by
  cases case with
  | null => rfl
  | waiting tx waits => rfl
  | acknowledged tx expired ended => rfl
  | login tx stops login => exact linkTimer_closeStream g tx.id
  | logoff tx user logs_off held => exact linkTimer_closeStream g tx.id
  | relay tx stops stays => exact linkTimer_closeStream g tx.id

/-- The link timer after a tick. -/
def linkTimerAfter (ms : Nat) (t : Timer) : Timer :=
  if t.fires ms then (t.clock ms).stop else t.clock ms

theorem linkTimer_beforeIds (env : Env) (ms : Nat) (g : GroupHandler) :
    (g.beforeIds env ms).linkTimer = linkTimerAfter ms g.linkTimer := by
  have announce (g : GroupHandler) : (g.clockAnnounce env ms).1.linkTimer = g.linkTimer := by
    unfold clockAnnounce
    dsimp only
    split <;> rfl
  have status (g : GroupHandler) : (g.clockStatus env).linkTimer = g.linkTimer := by
    unfold clockStatus
    split <;> rfl
  have link (g : GroupHandler) : (clockLink ms g).linkTimer = linkTimerAfter ms g.linkTimer := by
    unfold clockLink linkTimerAfter Timer.fires
    dsimp only
    split <;> rfl
  have ping := (g.clockPing_frame env ms).2.2.2
  rw [← ping]
  exact (status _).trans ((announce _).trans (link _))

theorem linkTimer_clockInt {env : Env} {ms : Nat} {g g' : GroupHandler} {outs : List Output}
    (h : g.clockInt env ms = .ok (g', outs)) : g'.linkTimer = linkTimerAfter ms g.linkTimer := by
  obtain ⟨g₅, heard, acks, loop, rfl, -⟩ := clockInt_phases h
  have ids : g₅.linkTimer = linkTimerAfter ms g.linkTimer := by
    refine tryEach_invariant (I := fun s => s.linkTimer = linkTimerAfter ms g.linkTimer) ?_ ?_ loop
    · intro s s' o entry _ before turn
      exact (linkTimer_clockId (clockId_case turn).1).trans before
    · exact linkTimer_beforeIds env ms g
  have expiry : (clockUsers ms g₅).clockExpiry.1.linkTimer = (clockUsers ms g₅).linkTimer := by
    unfold clockExpiry
    split <;> rfl
  exact expiry.trans ids

/-! Ticks of a second at most. -/

/-- The remote control is not used, and the clock ticks at least once a second. -/
def Regular : GroupHandler → GroupEvent → Prop
  | _, .logoffUser _ => False
  | _, .clock _ ms => ms ≤ 1000
  | _, _ => True

instance (g : GroupHandler) : (e : GroupEvent) → Decidable (Regular g e)
  | .logoffUser _ => isFalse not_false
  | .clock _ ms => inferInstanceAs (Decidable (ms ≤ 1000))
  | .g2Header _ _ | .g2AMBE _ _ | .reflectorHeader _ _ | .reflectorAMBE _ _ | .relink _ =>
      isTrue trivial

/-- The length of a pending id's timer. -/
def idLimit : Nat := 4001

/-- The length of the link timer. -/
def linkLimit : Nat := 2001

/-- The timer of a pending id runs and has not expired. -/
structure Running (tx : SGSId) : Prop where
  below : tx.timer.Below idLimit
  runs : 0 < tx.timer.timer

theorem hasExpired_clock (tx : SGSId) (ms : Nat) : (tx.clock ms).hasExpired = tx.timer.fires ms := rfl

theorem Running.expired_iff {tx : SGSId} (running : Running tx) {ms : Nat} (short : ms ≤ 1000) :
    (tx.clock ms).hasExpired = true ↔ idLimit ≤ tx.timer.timer + ms := by
  have room : idLimit + ms ≤ word := by
    simp only [idLimit, word]
    omega
  rw [hasExpired_clock, running.below.fires_iff room]
  exact and_iff_right running.runs

theorem Running.clocked {tx : SGSId} (running : Running tx) {ms : Nat} (short : ms ≤ 1000) :
    (tx.clock ms).timer.timeout = idLimit ∧ (tx.clock ms).timer.timer = tx.timer.timer + ms := by
  have room : idLimit + ms ≤ word := by
    simp only [idLimit, word]
    omega
  have counted := running.below.clock room
  rwa [if_pos running.runs] at counted

theorem reset_timer {tx : SGSId} (timeout : tx.timer.timeout = idLimit) :
    tx.reset.timer = { tx.timer with timer := 1 } := if_pos (by rw [timeout]; decide)

theorem reset_running {tx : SGSId} (timeout : tx.timer.timeout = idLimit) : Running tx.reset := by
  have started := reset_timer timeout
  refine ⟨⟨?_, ?_⟩, ?_⟩ <;> rw [started]
  · exact timeout
  · show 1 < idLimit
    decide
  · exact Nat.one_pos

theorem fresh_running {k : Nat} {tx : SGSId} (fresh : Fresh k tx) : Running tx := by
  refine ⟨⟨?_, ?_⟩, ?_⟩ <;> rw [fresh.timer] <;> decide

/-- What a tick leaves of a running id runs. -/
theorem Running.after {tx tx' : SGSId} (running : Running tx) {ms : Nat} (short : ms ≤ 1000)
    (left : tx.after ms = some tx') : Running tx' := by
  obtain ⟨timeout, timer⟩ := running.clocked short
  have runs := running.runs
  unfold SGSId.after at left
  split at left
  · rename_i waits
    cases left
    rw [running.expired_iff short] at waits
    exact ⟨⟨timeout, by omega⟩, by omega⟩
  · split at left
    · cases left
    · split at left
      · cases left
        obtain ⟨below, started⟩ := reset_running timeout
        exact ⟨below, started⟩
      · cases left

theorem linkTimer_after {t : Timer} (below : t.Below linkLimit) {ms : Nat} (short : ms ≤ 1000) :
    (linkTimerAfter ms t).Below linkLimit := by
  have room : linkLimit + ms ≤ word := by
    simp only [linkLimit, word]
    omega
  unfold linkTimerAfter
  split
  · exact ⟨(below.clock room).1, by show 0 < linkLimit; decide⟩
  · rename_i quiet
    exact below.clock_below room quiet

theorem HeaderCase.linkTimer {env : Env} {g g' : GroupHandler} {header : HeaderData}
    {go : Option Bool} (case : HeaderCase env g header go g') : g'.linkTimer = g.linkTimer := by
  cases case <;> rfl

theorem AMBECase.linkTimer {env : Env} {g g' : GroupHandler} {data : AMBEData}
    (case : AMBECase env g data g') : g'.linkTimer = g.linkTimer := by
  cases case <;> rfl

theorem LogoffCase.linkTimer {g g' : GroupHandler} {c : Str} (case : LogoffCase g c g') :
    g'.linkTimer = g.linkTimer := by
  cases case with
  | all _ | absent _ _ | last _ _ _ _ => rfl
  | one r _ _ _ =>
      show (g.dropFirstId r).linkTimer = g.linkTimer
      unfold dropFirstId
      split <;> rfl

/-- The link timer after a step. -/
theorem step_linkTimer {g g' : GroupHandler} {e : GroupEvent} {outs : List Output}
    (h : step g e = .ok (g', outs)) :
    g'.linkTimer = g.linkTimer ∨ g'.linkTimer = g.linkTimer.start ∨
      g'.linkTimer = g.linkTimer.start.stop ∨
      ∃ env ms, e = .clock env ms ∧ g'.linkTimer = linkTimerAfter ms g.linkTimer := by
  cases step_case h with
  | refused env header _ => exact .inl rfl
  | opened env header islogin g₁ _ _ case => exact .inl case.linkTimer
  | recorded env header go _ _ _ case => exact .inl case.linkTimer
  | skipped env data _ => exact .inl rfl
  | voice env data _ _ _ case _ => exact .inl case.linkTimer
  | reflectorHeader env header _ case =>
      cases case with
      | busy _ => exact .inl rfl
      | idle _ => exact .inr (.inl rfl)
  | reflectorAMBE env data _ _ case _ =>
      cases case with
      | other _ => exact .inl rfl
      | going _ _ => exact .inr (.inl rfl)
      | last _ _ => exact .inr (.inr (.inl rfl))
  | logoffUser c _ _ case _ => exact .inl case.linkTimer
  | clock env ms _ _ _ =>
      simp only [step] at h
      exact .inr (.inr (.inr ⟨env, ms, rfl, linkTimer_clockInt h⟩))
  | relink info => exact .inl rfl

/-! The cover of a stream. -/

/-- The current stream will end by itself: the link timer runs, or the stream's own
id is pending and has not ended. -/
def Covered (g : GroupHandler) : Prop :=
  (g.id = 0 ∧ g.repeaters = ∅) ∨ 0 < g.linkTimer.timer ∨ ∃ tx, g.Pending g.id tx ∧ ¬tx.ended

/-- The state of a group whose clock is regular. -/
structure Timed (g : GroupHandler) : Prop where
  link : g.linkTimer.Below linkLimit
  running : ∀ k tx, g.Pending k tx → Running tx
  ended : ∀ k tx, g.Pending k tx → tx.ended → tx.login ∨ tx.logoff
  keyed : g.Keyed
  covered : g.Covered

theorem init_timed (c : Config) : (init c).Timed := by
  have nothing (k : Nat) (tx : SGSId) : ¬(init c).Pending k tx := by simp [Pending, init_ids]
  refine ⟨⟨rfl, ?_⟩, ?_, ?_, init_keyed c, .inl ⟨rfl, rfl⟩⟩
  · show 0 < linkLimit
    decide
  · exact fun k tx pending => absurd pending (nothing k tx)
  · exact fun k tx pending => absurd pending (nothing k tx)

/-- The cover lasts while the stream, the link timer and the stream's id do. -/
theorem Covered.same {g g' : GroupHandler} (covered : g.Covered) (id : g'.id = g.id)
    (repeaters : g'.repeaters = g.repeaters) (timer : g'.linkTimer = g.linkTimer)
    (going : ∀ tx, g.Pending g.id tx → ¬tx.ended → ∃ tx', g'.Pending g.id tx' ∧ ¬tx'.ended) :
    g'.Covered := by
  unfold Covered
  rw [id, repeaters, timer]
  rcases covered with idle | runs | ⟨tx, pending, active⟩
  · exact .inl idle
  · exact .inr (.inl runs)
  · exact .inr (.inr (going tx pending active))

theorem pending_self (m : OrdMap Nat (Option SGSId)) (k : Nat) (tx : SGSId) :
    (m.insert k (some tx))[k]? = some (some tx) := by simp

/-- A header that opens a stream files its id. -/
theorem HeaderCase.filed {env : Env} {g g₁ : GroupHandler} {header : HeaderData} {islogin : Bool}
    (case : HeaderCase env g header (some islogin) g₁) :
    ∃ tx, g₁.Pending header.getId tx ∧ Fresh header.getId tx := by
  cases case with
  | login subscribe absent => exact ⟨_, pending_self g.ids _ _, fresh_login _ _⟩
  | again r subscribe filed idle => exact ⟨_, pending_self g.ids _ _, fresh_new _ _⟩

/-- A header replaces an active id by an active one. -/
theorem HeaderCase.going {env : Env} {g g' : GroupHandler} {header : HeaderData} {go : Option Bool}
    (case : HeaderCase env g header go g') {k : Nat} {tx : SGSId} (pending : g.Pending k tx)
    (active : ¬tx.ended) : ∃ tx', g'.Pending k tx' ∧ ¬tx'.ended := by
  have inserted (tx₀ : SGSId) (fresh : Fresh header.getId tx₀) :
      ∃ tx', (g.ids.insert header.getId (some tx₀))[k]? = some (some tx') ∧ ¬tx'.ended := by
    rw [get_insert]
    split
    · exact ⟨tx₀, rfl, by simp [fresh.ended]⟩
    · exact ⟨tx, pending, active⟩
  cases case with
  | login subscribe absent => exact inserted _ (fresh_login _ _)
  | duplicate r tx₀ subscribe filed pending₀ => exact ⟨tx, pending, active⟩
  | again r subscribe filed idle => exact inserted _ (fresh_new _ _)
  | unknown other absent => exact ⟨tx, pending, active⟩
  | logoff r other filed => exact inserted _ (fresh_logoff _ _)

theorem AMBECase.covered {env : Env} {g g' : GroupHandler} {data : AMBEData}
    (case : AMBECase env g data g') (covered : g.Covered) : g'.Covered := by
  cases case with
  | unknown _ => exact covered
  | going tx pending _ =>
      refine covered.same rfl rfl rfl fun tx₀ pending₀ active => ?_
      have own : tx₀ = tx := Option.some.inj (Option.some.inj (pending₀.symm.trans pending))
      subst own
      exact ⟨tx₀.reset, by simp [Pending], active⟩
  | login _ _ _ _ | logoff _ _ _ _ _ _ _ | relay _ _ _ _ => exact .inl ⟨rfl, rfl⟩

/-- A tick ends what covers a stream together with the stream. -/
theorem Timed.covered_tick {env : Env} {ms : Nat} {g g' : GroupHandler} {outs : List Output}
    (timed : g.Timed) (short : ms ≤ 1000) (tick : Tick env ms g outs g')
    (timer : g'.linkTimer = linkTimerAfter ms g.linkTimer) : g'.Covered := by
  rcases tick.stream with ⟨id, repeaters, going⟩ | ⟨id, repeaters, -⟩
  · rw [StreamEnds, not_or] at going
    obtain ⟨quiet, stays⟩ := going
    rcases timed.covered with idle | runs | ⟨tx, pending, active⟩
    · exact .inl ⟨id.trans idle.1, repeaters.trans idle.2⟩
    · have room : linkLimit + ms ≤ word := by
        simp only [linkLimit, word]
        omega
      have counted := (timed.link.clock room).2
      rw [if_pos runs] at counted
      refine .inr (.inl ?_)
      rw [timer, linkTimerAfter, if_neg quiet, counted]
      omega
    · have waits : ¬(tx.clock ms).hasExpired := fun expired =>
        stays ⟨g.id, tx, pending, ⟨active, expired⟩, timed.keyed g.id tx pending⟩
      have left : tx.after ms = some (tx.clock ms) := if_pos waits
      rw [Covered, id]
      exact .inr (.inr ⟨tx.clock ms, tick.pending.mpr ⟨tx, pending, left⟩, active⟩)
  · exact .inl ⟨id, repeaters⟩

theorem Timed.running_turn {g g' : GroupHandler} {e : GroupEvent} {outs : List Output}
    (timed : g.Timed) (regular : Regular g e) (case : StepCase g e outs g') {k : Nat} {tx' : SGSId}
    (pending : g'.Pending k tx') : Running tx' := by
  cases case.pending pending with
  | kept before _ => exact timed.running k tx' before
  | filed env header _ _ fresh => exact fresh_running fresh
  | touched tx env data _ own reset =>
      rw [reset]
      exact reset_running (timed.running k tx own).below.timeout
  | ended tx env data _ own _ reset =>
      have running := reset_running (timed.running k tx own).below.timeout
      obtain ⟨below, runs⟩ := reset_running running.below.timeout
      rw [reset]
      exact ⟨below, runs⟩
  | clocked tx env ms event own left =>
      rw [event] at regular
      exact (timed.running k tx own).after regular left

theorem after_ended {tx tx' : SGSId} {ms : Nat} (left : tx.after ms = some tx') (ended : tx'.ended) :
    tx.ended ∨ tx.login ∨ tx.logoff := by
  unfold SGSId.after at left
  split at left
  · cases left
    exact .inl ended
  · split at left
    · cases left
    · split at left
      · rename_i special
        exact .inr special
      · cases left

theorem after_special {tx tx' : SGSId} {ms : Nat} (left : tx.after ms = some tx') :
    tx'.login = tx.login ∧ tx'.logoff = tx.logoff := by
  unfold SGSId.after at left
  split at left
  · cases left
    exact ⟨rfl, rfl⟩
  · split at left
    · cases left
    · split at left
      · cases left
        exact ⟨rfl, rfl⟩
      · cases left

theorem Timed.ended_turn {g g' : GroupHandler} {e : GroupEvent} {outs : List Output}
    (timed : g.Timed) (case : StepCase g e outs g') {k : Nat} {tx' : SGSId}
    (pending : g'.Pending k tx') (ended : tx'.ended) : tx'.login ∨ tx'.logoff := by
  cases case.pending pending with
  | kept before _ => exact timed.ended k tx' before ended
  | filed env header _ _ fresh => simp [fresh.ended] at ended
  | touched tx env data _ own reset =>
      rw [reset] at ended ⊢
      exact timed.ended k tx own ended
  | ended tx env data _ own special reset =>
      rw [reset]
      exact special
  | clocked tx env ms event own left =>
      obtain ⟨login, logoff⟩ := after_special left
      rw [login, logoff]
      rcases after_ended left ended with before | special
      · exact timed.ended k tx own before
      · exact special

theorem Timed.covered_turn {g g' : GroupHandler} {e : GroupEvent} {outs : List Output}
    (timed : g.Timed) (regular : Regular g e) (h : step g e = .ok (g', outs)) : g'.Covered := by
  have covered := timed.covered
  cases step_case h with
  | refused env header _ => exact covered
  | opened env header islogin g₁ _ _ case =>
      obtain ⟨tx, pending, fresh⟩ := case.filed
      exact .inr (.inr ⟨tx, pending, by simp [fresh.ended]⟩)
  | recorded env header go _ _ _ case =>
      exact covered.same case.frame.1 case.frame.2.1 case.linkTimer fun tx pending active =>
        case.going pending active
  | skipped env data _ => exact covered
  | voice env data _ _ _ case _ => exact case.covered covered
  | reflectorHeader env header _ case =>
      cases case with
      | busy _ => exact covered
      | idle _ =>
          have started := (timed.link.start (by decide)).2
          exact .inr (.inl (Nat.lt_of_lt_of_eq Nat.one_pos started.symm))
  | reflectorAMBE env data _ _ case _ =>
      cases case with
      | other _ => exact covered
      | going _ _ =>
          have started := (timed.link.start (by decide)).2
          exact .inr (.inl (Nat.lt_of_lt_of_eq Nat.one_pos started.symm))
      | last _ _ => exact .inl ⟨rfl, rfl⟩
  | logoffUser c _ _ case _ => exact regular.elim
  | clock env ms _ _ tick =>
      simp only [step] at h
      exact timed.covered_tick regular tick (linkTimer_clockInt h)
  | relink info => exact covered

/-- A regular step keeps the timers in order and the stream covered. -/
theorem Timed.turn {g g' : GroupHandler} {e : GroupEvent} {outs : List Output} (timed : g.Timed)
    (regular : Regular g e) (h : step g e = .ok (g', outs)) : g'.Timed := by
  have case := step_case h
  refine ⟨?_, fun k tx' => timed.running_turn regular case, fun k tx' => timed.ended_turn case,
    case.keyed timed.keyed, timed.covered_turn regular h⟩
  obtain ⟨started, -⟩ := timed.link.start (by decide)
  rcases step_linkTimer h with same | start | stopped | ⟨env, ms, rfl, ticked⟩
  · rw [same]
    exact timed.link
  · rw [start]
    exact started
  · rw [stopped]
    exact started.stop
  · rw [ticked]
    exact linkTimer_after timed.link regular

/-- In a run with a regular clock no timer is seen expired, and every stream is covered. -/
theorem GroupRun.timed {c : Config} {tr : List GroupEntry} {g : GroupHandler}
    (run : GroupRun c tr g) (regular : Under Regular tr) : g.Timed :=
  run.invariant (init_timed c) Timed.turn regular

end GroupHandler
end SmartGroup
