import SmartGroup.Group.Timing
import SmartGroup.Link.World

/-! What a call does to the timers of a link handler. A timer that runs tells how long ago
it was started. -/
namespace SmartGroup
open Bytes Machine

namespace Timer

/-- A timer of the length `limit` that runs and has not expired. -/
structure Kept (limit : Nat) (t : Timer) : Prop where
  below : t.Below limit
  runs : 0 < t.timer

/-- The milliseconds since the start. -/
def age (t : Timer) : Nat := t.timer - 1

/-- A call that takes `ms` milliseconds, with the reason for which it starts the timer. -/
inductive Moves (ms : Nat) (Starts : Prop) (t : Timer) : Timer → Prop
  | stays (still : ms = 0) : Moves ms Starts t t
  | ticks (quiet : ¬t.fires ms = true) : Moves ms Starts t (t.clock ms)
  | starts (why : Starts) : Moves ms Starts t t.start

section
variable {limit ms : Nat} {Starts : Prop} {t t' : Timer}

theorem kept_start (timeout : t.timeout = limit) (long : 1 < limit) :
    t.start.Kept limit ∧ t.start.age = 0 := by
  have started : t.start = { t with timer := 1 } := if_pos (by omega)
  rw [started]
  exact ⟨⟨⟨timeout, long⟩, Nat.one_pos⟩, rfl⟩

theorem Kept.moves (kept : t.Kept limit) (long : 1 < limit) (short : limit + ms ≤ word)
    (moves : t.Moves ms Starts t') :
    t'.Kept limit ∧ (t'.age = t.age + ms ∨ Starts ∧ t'.age = 0) := by
  cases moves with
  | stays still => exact ⟨kept, .inl (by omega)⟩
  | ticks quiet =>
      have counted := (kept.below.clock short).2
      have runs := kept.runs
      rw [if_pos runs] at counted
      refine ⟨⟨kept.below.clock_below short quiet, by omega⟩, .inl ?_⟩
      unfold age
      omega
  | starts why =>
      obtain ⟨started, zero⟩ := kept_start kept.below.timeout long
      exact ⟨started, .inr ⟨why, zero⟩⟩

theorem start_timeout (t : Timer) : t.start.timeout = t.timeout := by
  unfold start
  split <;> rfl

theorem start_ticksPerSec (t : Timer) : t.start.ticksPerSec = t.ticksPerSec := by
  unfold start
  split <;> rfl

theorem clock_timeout (t : Timer) (ms : Nat) : (t.clock ms).timeout = t.timeout := by
  unfold clock
  split <;> rfl

theorem clock_ticksPerSec (t : Timer) (ms : Nat) : (t.clock ms).ticksPerSec = t.ticksPerSec := by
  unfold clock
  split <;> rfl

/-- A started timer has forgotten what it counted. -/
theorem start_clock (t : Timer) (ms : Nat) : (t.clock ms).start = t.start := by
  unfold start
  rw [clock_timeout]
  split
  · unfold clock
    split <;> rfl
  · rename_i none
    exact if_neg fun both => none both.2

theorem start_start (t : Timer) : t.start.start = t.start := by
  unfold start
  repeat' split
  all_goals rfl

theorem startFor_ticksPerSec (t : Timer) (secs msecs : Nat) :
    (t.startFor secs msecs).ticksPerSec = t.ticksPerSec := by
  have set : (t.setTimeout secs msecs).ticksPerSec = t.ticksPerSec := by
    unfold setTimeout
    split <;> rfl
  exact (start_ticksPerSec _).trans set

theorem Moves.timeout (moves : t.Moves ms Starts t') : t'.timeout = t.timeout := by
  cases moves with
  | stays still => rfl
  | ticks quiet => exact t.clock_timeout ms
  | starts why => exact t.start_timeout

end

end Timer

/-- What a handler keeps from its making. -/
structure LinkKey where
  reflector : Str
  repeater : Str
  yourAddress : Str
  yourPort : Nat
  direction : Direction
  deriving DecidableEq

namespace LinkHandler

variable {n : Nat}

def key (h : LinkHandler n) : LinkKey := ⟨h.reflector, h.repeater, h.yourAddress, h.yourPort, h.direction⟩

end LinkHandler

/-- `partner`, told from the key. -/
def LinkKey.partner (k : LinkKey) : Str :=
  match k.direction with
  | .outgoing => k.reflector
  | .incoming => k.repeater

/-! The packets that a handler takes, by its key. -/

/-- The packet comes from the address of the reflector. -/
def LinkKey.From (k : LinkKey) (address : Str) (port : Nat) : Prop := k.yourAddress = address ∧ k.yourPort = port

instance (k : LinkKey) (address : Str) (port : Nat) : Decidable (k.From address port) :=
  inferInstanceAs (Decidable (_ ∧ _))

/-- The acceptance of the link. -/
def LinkKey.Accepted (k : LinkKey) (connect : ConnectData) : Prop :=
  k.From connect.yourAddress connect.yourPort ∧ connect.type = .ack ∧ k.repeater = connect.repeater

instance (k : LinkKey) (connect : ConnectData) : Decidable (k.Accepted connect) :=
  inferInstanceAs (Decidable (_ ∧ _ ∧ _))

namespace DExtraInput

def ms : DExtraInput → Nat
  | .clock ms => ms
  | _ => 0

/-- A voice frame of the stream, or its header. -/
def Carries (k : LinkKey) (id : Nat) : DExtraInput → Prop
  | .header _ data => k.From data.yourAddress data.yourPort ∧ data.getId = id ∧
      (k.partner = data.rptCall2 ∨ k.partner = data.rptCall1)
  | .ambe _ data => k.From data.yourAddress data.yourPort ∧ data.getId = id
  | _ => False

/-- A packet that shows that the reflector is there. -/
def Shows (k : LinkKey) : DExtraInput → Prop
  | .header _ _ => False
  | .ambe _ data => k.From data.yourAddress data.yourPort
  | .poll data => k.From data.yourAddress data.yourPort ∧
      k.reflector.take (longCallsignLength - 1) = data.data1.take (longCallsignLength - 1)
  | .connect data => k.Accepted data
  | .clock _ => False

/-- The acceptance of the link. -/
def Accepts (k : LinkKey) : DExtraInput → Prop
  | .connect data => k.Accepted data
  | _ => False

end DExtraInput

namespace DCSInput

def ms : DCSInput → Nat
  | .clock ms => ms
  | _ => 0

def Carries (k : LinkKey) (myPort id : Nat) : DCSInput → Prop
  | .ambe _ data => k.From data.yourAddress data.yourPort ∧ myPort = data.myPort ∧ data.getId = id ∧
      k.partner = data.header.rptCall2
  | _ => False

def Shows (k : LinkKey) (myPort : Nat) : DCSInput → Prop
  | .ambe _ data => k.From data.yourAddress data.yourPort ∧ myPort = data.myPort ∧
      k.partner = data.header.rptCall2
  | .poll data => k.From data.yourAddress data.yourPort ∧ myPort = data.myPort ∧
      k.reflector.take (longCallsignLength - 1) = data.data1.take (longCallsignLength - 1)
  | .connect data => k.Accepted data ∧ myPort = data.myPort
  | .clock _ => False

end DCSInput

/-- The request of a handler that waits for an answer. -/
def LinkState.request : LinkState → CDType
  | .linking => .link1
  | .linked => .link1
  | .unlinking => .unlink

namespace LinkHandler

variable {n : Nat}

/-- The handler sends the request of its state to its reflector. -/
def Asks (h : LinkHandler n) (told : List HandlerOutput) : Prop :=
  ∃ c, .connect c ∈ told ∧ c.type = h.linkState.request ∧ c.yourAddress = h.yourAddress ∧
    c.yourPort = h.yourPort

/-- What a call leaves of a handler, when it takes `ms` milliseconds and comes with a packet
that shows the reflector, or carries a stream. -/
structure Turned (ms : Nat) (Shows : Prop) (Carries : Nat → Prop) (told : List HandlerOutput)
    (h h' : LinkHandler n) : Prop where
  key : h'.key = h.key
  linked : h'.linkState = .linked → h.linkState = .linked ∨ Shows
  hears : h.pollInactivityTimer.Moves ms (h'.linkState = .linked → Shows) h'.pollInactivityTimer
  length : h'.inactivityTimer.timeout = h.inactivityTimer.timeout
  carries : h'.id ≠ 0 → h'.id = h.id ∧ h.inactivityTimer.Moves ms (Carries h'.id) h'.inactivityTimer ∨
    Carries h'.id ∧ h'.inactivityTimer = h.inactivityTimer.start
  unit : h'.tryTimer.ticksPerSec = h.tryTimer.ticksPerSec
  asks : h'.linkState ≠ .linked →
    h'.linkState = h.linkState ∧ h.tryTimer.Moves ms False h'.tryTimer ∨
      h'.Asks told ∧ ∃ (t : Timer) (secs : Nat), t.ticksPerSec = h.tryTimer.ticksPerSec ∧ (0 < secs ∧ secs ≤ 60) ∧
        h'.tryTimer = t.startFor secs 0

theorem Turned.refl {Shows : Prop} {Carries : Nat → Prop} {told : List HandlerOutput} (h : LinkHandler n) :
    Turned 0 Shows Carries told h h where
  key := rfl
  linked := .inl
  hears := .stays rfl
  length := rfl
  carries := fun _ => .inl ⟨rfl, .stays rfl⟩
  unit := rfl
  asks := fun _ => .inl ⟨rfl, .stays rfl⟩

theorem calcBackoff_range (tryCount : Nat) : 0 < calcBackoff tryCount ∧ calcBackoff tryCount ≤ 60 := by
  have positive : 0 < 2 ^ tryCount := Nat.two_pow_pos tryCount
  unfold calcBackoff
  split
  · omega
  · split <;> omega

/-- A call that ends the stream or goes on with it, and leaves the link as it is. -/
theorem Turned.still {Shows : Prop} {Carries : Nat → Prop} {told : List HandlerOutput} {h h' : LinkHandler n}
    (key : h'.key = h.key) (state : h'.linkState = h.linkState) (tries : h'.tryTimer = h.tryTimer)
    (hears : h.pollInactivityTimer.Moves 0 (h'.linkState = .linked → Shows) h'.pollInactivityTimer)
    (length : h'.inactivityTimer.timeout = h.inactivityTimer.timeout)
    (carries : h'.id ≠ 0 → h'.id = h.id ∧ h.inactivityTimer.Moves 0 (Carries h'.id) h'.inactivityTimer ∨
      Carries h'.id ∧ h'.inactivityTimer = h.inactivityTimer.start) : Turned 0 Shows Carries told h h' where
  key := key
  linked := fun linked => .inl (state ▸ linked)
  hears := hears
  length := length
  carries := carries
  unit := by rw [tries]
  asks := fun _ => .inl ⟨state, tries ▸ .stays rfl⟩

/-- The link is made anew when nothing has been heard for too long. -/
theorem Turned.relinks {ms : Nat} {Shows : Prop} {Carries : Nat → Prop} {h : LinkHandler n} {c : ConnectData}
    (type : c.type = .link1) (own : c.yourAddress = h.yourAddress ∧ c.yourPort = h.yourPort) :
    Turned ms Shows Carries [.connect c] h
      (({ (h.clock ms).clearStream with
        pollInactivityTimer := (h.pollInactivityTimer.clock ms).start } : LinkHandler n).attempt .linking) := by
  refine ⟨rfl, by simp [attempt], ?_, Timer.clock_timeout _ ms, fun named => absurd rfl named, ?_, ?_⟩
  · simp only [attempt]
    rw [Timer.start_clock]
    exact .starts (by simp)
  · exact (Timer.startFor_ticksPerSec _ 1 0).trans (Timer.clock_ticksPerSec _ ms)
  · exact fun _ => .inr ⟨⟨c, List.mem_cons_self, type, own⟩, _, 1, Timer.clock_ticksPerSec _ ms, by decide, rfl⟩

/-- A tick that leaves the link as it is: the stream may end, and the request of the state is sent
again when its timer has expired. -/
theorem Turned.ticked {ms : Nat} {Shows : Prop} {Carries : Nat → Prop} {told : List HandlerOutput}
    {h h' : LinkHandler n} (quiet : ¬h.pollInactivityTimer.fires ms = true) (key : h'.key = h.key)
    (state : h'.linkState = h.linkState) (hears : h'.pollInactivityTimer = h.pollInactivityTimer.clock ms)
    (length : h'.inactivityTimer.timeout = (h.inactivityTimer.clock ms).timeout)
    (stream : h'.id ≠ 0 → h'.id = h.id ∧ h'.inactivityTimer = h.inactivityTimer.clock ms ∧
      ¬h.inactivityTimer.fires ms = true)
    (tries : h'.tryTimer = h.tryTimer.clock ms ∧ (h.linkState ≠ .linked → ¬h.tryTimer.fires ms = true) ∨
      h'.tryTimer = (h.tryTimer.clock ms).startFor (calcBackoff h.tryCount) 0 ∧ h'.Asks told) :
    Turned ms Shows Carries told h h' := by
  refine ⟨key, fun linked => .inl (state ▸ linked), ?_, length.trans (Timer.clock_timeout _ ms), ?_, ?_, ?_⟩
  · rw [hears]
    exact .ticks quiet
  · intro named
    obtain ⟨same, timer, going⟩ := stream named
    exact .inl ⟨same, timer ▸ .ticks going⟩
  · rcases tries with ⟨timer, -⟩ | ⟨timer, -⟩
    · rw [timer]
      exact Timer.clock_ticksPerSec _ ms
    · rw [timer]
      exact (Timer.startFor_ticksPerSec _ _ 0).trans (Timer.clock_ticksPerSec _ ms)
  · intro other
    rcases tries with ⟨timer, waits⟩ | ⟨timer, asks⟩
    · have waiting : h.linkState ≠ .linked := fun linked => other (state.trans linked)
      exact .inl ⟨state, timer ▸ .ticks (waits waiting)⟩
    · exact .inr ⟨asks, _, _, Timer.clock_ticksPerSec _ ms, calcBackoff_range _, timer⟩

end LinkHandler

namespace DExtraHandler

variable {n : Nat}

/-- The timer of the polls of a linked handler. -/
structure Polled (ms : Nat) (Accepts : Prop) (told : List HandlerOutput) (h h' : DExtraHandler n) : Prop where
  length : h'.pollTimer.timeout = h.pollTimer.timeout
  state : h'.linkState = .unlinking → h.linkState = .unlinking
  polls : h'.linkState = .linked →
    h.linkState = .linked ∧ h.pollTimer.Moves ms (∃ p, .poll p ∈ told) h'.pollTimer ∨
      Accepts ∧ h'.pollTimer = h.pollTimer.start

/-- A call with a packet, or a tick, as the handler goes through it. -/
def Answers (input : DExtraInput) (h : DExtraHandler n) (turn : Turn n) : Prop :=
  ∀ h', turn.2.1 = some h' →
    LinkHandler.Turned input.ms (input.Shows h.key) (fun id => input.Carries h.key id) turn.2.2
      h.toLinkHandler h'.toLinkHandler ∧ Polled input.ms (input.Accepts h.key) turn.2.2 h h'

section
variable {h : DExtraHandler n} {g : GroupHandler}

theorem Polled.same {Accepts : Prop} {told : List HandlerOutput} {h' : DExtraHandler n}
    (state : h'.linkState = h.linkState) (timer : h'.pollTimer = h.pollTimer) : Polled 0 Accepts told h h' where
  length := by rw [timer]
  state := fun unlinking => state ▸ unlinking
  polls := fun linked => .inl ⟨state ▸ linked, timer ▸ .stays rfl⟩

theorem Answers.refl {input : DExtraInput} (still : input.ms = 0) (g : GroupHandler)
    (told : List HandlerOutput) : Answers input h (g, some h, told) := by
  rintro _ ⟨⟩
  rw [still]
  exact ⟨.refl _, .same rfl rfl⟩

theorem Answers.gone {input : DExtraInput} (g : GroupHandler) (told : List HandlerOutput) :
    Answers input h (g, none, told) := by
  intro h' left
  cases left

theorem partner_key (h : LinkHandler n) : h.key.partner = h.partner := rfl

theorem answers_header (env : Env) (data : HeaderData) (own : h.key.From data.yourAddress data.yourPort) :
    Answers (.header env data) h (h.processHeader env data g) := by
  unfold processHeader
  split
  · exact .refl rfl g _
  · split
    · exact .refl rfl g _
    · split
      · exact .refl rfl g _
      · rename_i named
        split
        · exact .refl rfl g _
        · rintro _ ⟨⟩
          have carries : (DExtraInput.header env data).Carries h.key data.getId := by
            refine ⟨own, rfl, ?_⟩
            rw [partner_key]
            by_contra neither
            exact named (not_or.mp neither)
          exact ⟨.still rfl rfl rfl (.stays rfl) (Timer.start_timeout _) fun _ => .inr ⟨carries, rfl⟩, .same rfl rfl⟩

theorem answers_ambe (env : Env) (data : AMBEData) (own : h.key.From data.yourAddress data.yourPort) :
    Answers (.ambe env data) h (h.processAMBE env data g) := by
  unfold processAMBE
  split
  · exact .refl rfl g _
  · split
    · exact .refl rfl g _
    · rename_i same
      have same : data.getId = h.id := (not_not.mp same).symm
      rintro _ ⟨⟩
      have hears {Starts : Prop} (why : Starts) :
          h.pollInactivityTimer.Moves 0 Starts h.pollInactivityTimer.start := .starts why
      split
      · refine ⟨.still rfl rfl rfl (hears fun _ => own) (Timer.start_timeout _) ?_, .same rfl rfl⟩
        exact fun named => absurd rfl named
      · refine ⟨.still rfl rfl rfl (hears fun _ => own) (Timer.start_timeout _) ?_, .same rfl rfl⟩
        exact fun _ => .inl ⟨rfl, .starts ⟨own, same⟩⟩

theorem answers_poll (poll : PollData) : Answers (.poll poll) h (h.processPoll poll g) := by
  unfold processPoll
  split
  · rename_i shown
    obtain ⟨prefixed, address, port, -⟩ := shown
    rintro _ ⟨⟩
    exact ⟨.still rfl rfl rfl (.starts fun _ => ⟨⟨address, port⟩, prefixed⟩) rfl
      fun _ => .inl ⟨rfl, .stays rfl⟩, .same rfl rfl⟩
  · exact .refl rfl g _

theorem answers_connect (connect : ConnectData) : Answers (.connect connect) h (h.processConnect connect g) := by
  unfold processConnect
  split
  · exact .refl rfl g _
  · rename_i own
    have own : h.From connect := not_not.mp own
    split
    · rename_i type
      split
      · exact .refl rfl g _
      · rename_i named
        split
        · rename_i linking
          rintro _ ⟨⟩
          have shown : (DExtraInput.connect connect).Shows h.key := ⟨own, type, not_not.mp named⟩
          refine ⟨⟨rfl, fun _ => .inr shown, .stays rfl, rfl, fun _ => .inl ⟨rfl, .stays rfl⟩, rfl, ?_⟩, ?_⟩
          · exact fun other => absurd rfl other
          · exact ⟨Timer.start_timeout _, by simp, fun _ => .inr ⟨shown, rfl⟩⟩
        · exact .refl rfl g _
    · split
      · exact .refl rfl g _
      · split
        · exact .gone _ _
        · exact .refl rfl g _
    · split
      · exact .refl rfl g _
      · split
        · exact .gone _ _
        · exact .gone _ _
    · exact .refl rfl g _
    · exact .refl rfl g _

theorem answers_unlink (env : Env) (group : Fin n) (callsign : Str) {h' : DExtraHandler n}
    (left : (h.unlink env group callsign false g).2.1 = some h') : h' = h := by
  unfold unlink at left
  split at left
  · cases left
  · exact (Option.some.inj left).symm

theorem clockRest_fields (callsign : Str) (h : DExtraHandler n) :
    (h.clockRest callsign).1.key = h.key ∧ (h.clockRest callsign).1.linkState = h.linkState ∧
      (h.clockRest callsign).1.pollInactivityTimer = h.pollInactivityTimer := by
  unfold clockRest clockPoll clockInactivity clockTry
  dsimp only
  repeat' split
  all_goals exact ⟨rfl, rfl, rfl⟩

theorem clockRest_stream (callsign : Str) (h : DExtraHandler n) :
    (h.clockRest callsign).1.inactivityTimer.timeout = h.inactivityTimer.timeout ∧
      ((h.clockRest callsign).1.id ≠ 0 → (h.clockRest callsign).1.id = h.id ∧
        (h.clockRest callsign).1.inactivityTimer = h.inactivityTimer ∧
          ¬(h.inactivityTimer.isRunning && h.inactivityTimer.hasExpired) = true) := by
  have rest (h : DExtraHandler n) : h.clockTry.1.inactivityTimer = h.inactivityTimer ∧ h.clockTry.1.id = h.id := by
    unfold clockTry
    split <;> exact ⟨rfl, rfl⟩
  have poll (h : DExtraHandler n) : (h.clockPoll callsign).1.inactivityTimer = h.inactivityTimer ∧
      (h.clockPoll callsign).1.id = h.id := by
    unfold clockPoll
    split <;> exact ⟨rfl, rfl⟩
  unfold clockRest
  dsimp only
  rw [(rest _).1, (rest _).2]
  unfold clockInactivity
  rw [(poll h).1]
  split
  · refine ⟨?_, fun named => absurd rfl named⟩
    change (h.clockPoll callsign).1.inactivityTimer.timeout = _
    rw [(poll h).1]
  · rename_i quiet
    exact ⟨congrArg Timer.timeout (poll h).1, fun _ => ⟨(poll h).2, (poll h).1, quiet⟩⟩

theorem clockRest_tries (callsign : Str) (h : DExtraHandler n) :
    (h.clockRest callsign).1.tryTimer = h.tryTimer ∧
        (h.linkState = .linking → ¬(h.tryTimer.isRunning && h.tryTimer.hasExpired) = true) ∨
      (h.clockRest callsign).1.tryTimer = h.tryTimer.startFor (LinkHandler.calcBackoff h.tryCount) 0 ∧
        (h.clockRest callsign).1.Asks (h.clockRest callsign).2 := by
  have before (h : DExtraHandler n) : ((h.clockPoll callsign).1.clockInactivity.tryTimer = h.tryTimer ∧
      (h.clockPoll callsign).1.clockInactivity.tryCount = h.tryCount) ∧
      (h.clockPoll callsign).1.clockInactivity.linkState = h.linkState := by
    unfold clockPoll clockInactivity
    dsimp only
    repeat' split
    all_goals exact ⟨⟨rfl, rfl⟩, rfl⟩
  obtain ⟨⟨timer, count⟩, state⟩ := before h
  unfold clockRest
  dsimp only
  generalize (h.clockPoll callsign).1.clockInactivity = h₁ at timer count state ⊢
  rw [← timer, ← count, ← state]
  unfold clockTry
  split
  · rename_i due
    simp only [Bool.and_eq_true, decide_eq_true_eq] at due
    refine .inr ⟨rfl, _, List.mem_append_right _ List.mem_cons_self, ?_, rfl, rfl⟩
    exact (congrArg LinkState.request due.1.1).symm
  · rename_i quiet
    exact .inl ⟨rfl, fun linking fires => quiet (by simpa [linking] using fires)⟩

theorem clockRest_polls (callsign : Str) (h : DExtraHandler n) :
    (h.clockRest callsign).1.pollTimer = h.pollTimer ∧
        ¬(h.pollTimer.isRunning && h.pollTimer.hasExpired) = true ∨
      (h.clockRest callsign).1.pollTimer = h.pollTimer.start ∧
        (h.linkState = .linked → ∃ p, .poll p ∈ (h.clockRest callsign).2) := by
  have after (h : DExtraHandler n) : h.clockInactivity.clockTry.1.pollTimer = h.pollTimer := by
    unfold clockInactivity clockTry
    repeat' split
    all_goals rfl
  unfold clockRest
  dsimp only
  rw [after]
  unfold clockPoll
  split
  · refine .inr ⟨rfl, fun linked => ?_⟩
    simp only [linked, if_true]
    exact ⟨_, List.mem_append_left _ List.mem_cons_self⟩
  · rename_i quiet
    exact .inl ⟨rfl, quiet⟩

theorem answers_clock (callsign : Str) (ms : Nat) (valid : h.linkState ≠ .unlinking) :
    Answers (.clock ms) h (h.clockInt callsign ms g) := by
  unfold clockInt
  dsimp only
  split
  · split
    · cases failed : (g.linkFailed true).1 with
      | true =>
          simp only [if_true]
          rintro _ ⟨⟩
          exact ⟨.relinks rfl ⟨rfl, rfl⟩,
            ⟨Timer.clock_timeout _ ms, by simp [LinkHandler.attempt], by simp [LinkHandler.attempt]⟩⟩
      | false =>
          simp only [Bool.false_eq_true, if_false]
          exact .gone _ _
    · exact .gone _ _
  · rename_i quiet
    rintro _ ⟨⟩
    obtain ⟨key, state, hears⟩ := clockRest_fields callsign { h with toLinkHandler := h.clock ms }
    obtain ⟨length, stream⟩ := clockRest_stream callsign { h with toLinkHandler := h.clock ms }
    have tries := clockRest_tries callsign { h with toLinkHandler := h.clock ms }
    have polls := clockRest_polls callsign { h with toLinkHandler := h.clock ms }
    generalize clockRest callsign { h with toLinkHandler := h.clock ms } = rest
      at key state hears length stream tries polls ⊢
    obtain ⟨h', told⟩ := rest
    dsimp only at key state hears length stream tries polls ⊢
    have linking (other : h.linkState ≠ .linked) : h.linkState = .linking := by
      cases known : h.linkState with
      | linking => rfl
      | linked => exact absurd known other
      | unlinking => exact absurd known valid
    refine ⟨.ticked quiet key state hears length stream ?_, ⟨?_, fun unlinking => state ▸ unlinking, ?_⟩⟩
    · exact tries.imp_left fun kept => ⟨kept.1, fun other => kept.2 (linking other)⟩
    · rcases polls with ⟨timer, -⟩ | ⟨timer, -⟩
      · rw [timer]
        exact Timer.clock_timeout _ ms
      · rw [timer]
        exact (Timer.start_timeout _).trans (Timer.clock_timeout _ ms)
    · intro linked
      have linked : h.linkState = .linked := state ▸ linked
      rcases polls with ⟨timer, quiet⟩ | ⟨timer, told⟩
      · exact .inl ⟨linked, timer ▸ .ticks quiet⟩
      · have started : (h.pollTimer.clock ms).start = h.pollTimer.start := Timer.start_clock _ ms
        refine .inl ⟨linked, ?_⟩
        rw [timer]
        change h.pollTimer.Moves ms _ (h.pollTimer.clock ms).start
        rw [started]
        exact .starts (told linked)

end

end DExtraHandler

namespace DCSHandler

variable {n : Nat}

/-- A call with a packet, or a tick, as the handler goes through it. -/
def Turns (input : DCSInput) (h : DCSHandler n) (turn : Turn n) : Prop :=
  ∀ h', turn.2.1 = some h' → h'.myPort = h.myPort ∧
    LinkHandler.Turned input.ms (input.Shows h.key h.myPort) (fun id => input.Carries h.key h.myPort id) turn.2.2
      h.toLinkHandler h'.toLinkHandler

section
variable {h : DCSHandler n} {g : GroupHandler}

theorem Turns.refl {input : DCSInput} (still : input.ms = 0) (g : GroupHandler) (told : List HandlerOutput) :
    Turns input h (g, some h, told) := by
  rintro _ ⟨⟩
  rw [still]
  exact ⟨rfl, .refl _⟩

theorem Turns.gone {input : DCSInput} (g : GroupHandler) (told : List HandlerOutput) :
    Turns input h (g, none, told) := by
  intro h' left
  cases left

theorem turns_ambe (env : Env) (data : AMBEData) (own : h.Hears data) :
    Turns (.ambe env data) h (h.processAMBE env data g) := by
  obtain ⟨address, port, socket⟩ := own
  unfold processAMBE
  split
  · exact .refl rfl g _
  · split
    · exact .refl rfl g _
    · rename_i named
      have named : h.key.partner = data.header.rptCall2 := not_not.mp named
      have shows : (DCSInput.ambe env data).Shows h.key h.myPort := ⟨⟨address, port⟩, socket, named⟩
      have carries : (DCSInput.ambe env data).Carries h.key h.myPort data.getId :=
        ⟨⟨address, port⟩, socket, rfl, named⟩
      split
      · exact .refl rfl g _
      · unfold openStream
        by_cases idle : h.id = 0
        · simp only [idle, if_true, LinkHandler.opened]
          rintro _ ⟨⟩
          refine ⟨rfl, ?_⟩
          split
          · exact .still rfl rfl rfl (.starts fun _ => shows)
              ((Timer.start_timeout _).trans (Timer.start_timeout _)) fun going => absurd rfl going
          · exact .still rfl rfl rfl (.starts fun _ => shows)
              ((Timer.start_timeout _).trans (Timer.start_timeout _))
              fun _ => .inr ⟨carries, Timer.start_start _⟩
        · simp only [idle, if_false]
          split
          · rename_i same
            rintro _ ⟨⟩
            refine ⟨rfl, ?_⟩
            split
            · exact .still rfl rfl rfl (.starts fun _ => shows) (Timer.start_timeout _)
                fun going => absurd rfl going
            · exact .still rfl rfl rfl (.starts fun _ => shows) (Timer.start_timeout _)
                fun _ => .inl ⟨rfl, .starts (same ▸ carries)⟩
          · exact .refl rfl g _

theorem turns_poll {poll : PollData} (own : h.Answers poll ∨ h.Takes poll) :
    Turns (.poll poll) h (h.processPoll poll g) := by
  have shows : (DCSInput.poll poll).Shows h.key h.myPort := by
    rcases own with ⟨reflector, -, address, port, socket, -⟩ | ⟨prefixed, address, port, socket, -⟩
    · exact ⟨⟨address, port⟩, socket, congrArg (List.take (longCallsignLength - 1)) reflector⟩
    · exact ⟨⟨address, port⟩, socket, prefixed⟩
  rintro _ ⟨⟩
  exact ⟨rfl, .still rfl rfl rfl (.starts fun _ => shows) rfl fun _ => .inl ⟨rfl, .stays rfl⟩⟩

theorem turns_connect (connect : ConnectData) : Turns (.connect connect) h (h.processConnect connect g) := by
  unfold processConnect
  split
  · exact .refl rfl g _
  · rename_i own
    obtain ⟨own, socket⟩ := not_or.mp own
    have own : h.From connect := not_not.mp own
    have socket : h.myPort = connect.myPort := not_not.mp socket
    split
    · rename_i type
      split
      · exact .refl rfl g _
      · rename_i named
        split
        · rename_i linking
          rintro _ ⟨⟩
          have shown : (DCSInput.connect connect).Shows h.key h.myPort := ⟨⟨own, type, not_not.mp named⟩, socket⟩
          exact ⟨rfl, rfl, fun _ => .inr shown, .stays rfl, rfl, fun _ => .inl ⟨rfl, .stays rfl⟩, rfl,
            fun other => absurd rfl other⟩
        · exact .refl rfl g _
    · split
      · exact .refl rfl g _
      · split
        · exact .gone _ _
        · split
          · exact .gone _ _
          · exact .refl rfl g _
    · split
      · exact .refl rfl g _
      · split
        · exact .gone _ _
        · exact .gone _ _
    · exact .refl rfl g _
    · exact .refl rfl g _

/-- The remote control ends the link; the handler waits for the answer. -/
theorem turned_unlink (env : Env) (group : Fin n) (callsign : Str) {h' : DCSHandler n}
    (left : (h.unlink env group callsign false g).2.1 = some h') :
    h'.myPort = h.myPort ∧ LinkHandler.Turned 0 False (fun _ => False) (h.unlink env group callsign false g).2.2
      h.toLinkHandler h'.toLinkHandler := by
  unfold unlink at left ⊢
  split at left
  · rename_i selected
    rw [if_pos selected]
    by_cases active : h.Active
    · simp only [active, if_true] at left ⊢
      cases left
      refine ⟨rfl, rfl, by simp [LinkHandler.attempt], .stays rfl, rfl, fun _ => .inl ⟨rfl, .stays rfl⟩,
        Timer.startFor_ticksPerSec _ 1 0, fun _ => .inr ⟨⟨h.unlinkPacket, ?_, rfl, rfl, rfl⟩, _, 1, rfl, by decide, rfl⟩⟩
      exact List.mem_append_left _ List.mem_cons_self
    · simp only [active, if_false] at left ⊢
      cases left
      exact ⟨rfl, .refl _⟩
  · cases left
    exact ⟨rfl, .refl _⟩

theorem clockRest_fields (h : DCSHandler n) : h.clockRest.1.key = h.key ∧ h.clockRest.1.myPort = h.myPort ∧
    h.clockRest.1.linkState = h.linkState ∧ h.clockRest.1.pollInactivityTimer = h.pollInactivityTimer := by
  unfold clockRest clockPoll clockInactivity clockTry
  dsimp only
  repeat' split
  all_goals exact ⟨rfl, rfl, rfl, rfl⟩

theorem clockRest_stream (h : DCSHandler n) :
    h.clockRest.1.inactivityTimer.timeout = h.inactivityTimer.timeout ∧
      (h.clockRest.1.id ≠ 0 → h.clockRest.1.id = h.id ∧ h.clockRest.1.inactivityTimer = h.inactivityTimer ∧
        ¬(h.inactivityTimer.isRunning && h.inactivityTimer.hasExpired) = true) := by
  have rest (h : DCSHandler n) : h.clockPoll.1.clockTry.1.inactivityTimer = h.inactivityTimer ∧
      h.clockPoll.1.clockTry.1.id = h.id := by
    unfold clockPoll clockTry
    dsimp only
    repeat' split
    all_goals exact ⟨rfl, rfl⟩
  unfold clockRest
  dsimp only
  rw [(rest _).1, (rest _).2]
  unfold clockInactivity
  split
  · exact ⟨rfl, fun named => absurd rfl named⟩
  · rename_i quiet
    exact ⟨rfl, fun _ => ⟨rfl, rfl, quiet⟩⟩

theorem clockRest_tries (h : DCSHandler n) :
    h.clockRest.1.tryTimer = h.tryTimer ∧
        (h.linkState ≠ .linked → ¬(h.tryTimer.isRunning && h.tryTimer.hasExpired) = true) ∨
      h.clockRest.1.tryTimer = h.tryTimer.startFor (LinkHandler.calcBackoff h.tryCount) 0 ∧
        h.clockRest.1.Asks h.clockRest.2 := by
  have before (h : DCSHandler n) : (h.clockInactivity.clockPoll.1.tryTimer = h.tryTimer ∧
      h.clockInactivity.clockPoll.1.tryCount = h.tryCount) ∧
      h.clockInactivity.clockPoll.1.linkState = h.linkState := by
    unfold clockPoll clockInactivity
    dsimp only
    repeat' split
    all_goals exact ⟨⟨rfl, rfl⟩, rfl⟩
  obtain ⟨⟨timer, count⟩, state⟩ := before h
  unfold clockRest
  dsimp only
  generalize h.clockInactivity.clockPoll = polled at timer count state ⊢
  obtain ⟨h₁, told⟩ := polled
  dsimp only at timer count state ⊢
  rw [← timer, ← count, ← state]
  unfold clockTry
  split
  · split
    · rename_i linking
      refine .inr ⟨rfl, _, List.mem_append_right _ List.mem_cons_self, ?_, rfl, rfl⟩
      exact (congrArg LinkState.request linking).symm
    · rename_i unlinking
      refine .inr ⟨rfl, _, List.mem_append_right _ List.mem_cons_self, ?_, rfl, rfl⟩
      exact (congrArg LinkState.request unlinking).symm
    · rename_i linked
      exact .inl ⟨rfl, fun other => absurd linked other⟩
  · rename_i quiet
    exact .inl ⟨rfl, fun _ => quiet⟩

theorem turns_clock (ms : Nat) : Turns (.clock ms) h (h.clockInt ms g) := by
  unfold clockInt
  dsimp only
  split
  · split
    · cases failed : (g.linkFailed true).1 with
      | true =>
          simp only [if_true]
          rintro _ ⟨⟩
          exact ⟨rfl, .relinks rfl ⟨rfl, rfl⟩⟩
      | false =>
          simp only [Bool.false_eq_true, if_false]
          exact .gone _ _
    · exact .gone _ _
  · rename_i quiet
    rintro _ ⟨⟩
    obtain ⟨key, socket, state, hears⟩ := clockRest_fields { h with toLinkHandler := h.clock ms }
    obtain ⟨length, stream⟩ := clockRest_stream { h with toLinkHandler := h.clock ms }
    exact ⟨socket, .ticked quiet key state hears length stream (clockRest_tries { h with toLinkHandler := h.clock ms })⟩

end

end DCSHandler
end SmartGroup
