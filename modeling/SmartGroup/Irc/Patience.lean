import SmartGroup.Irc.Login
import SmartGroup.Support.Credit

/-! How long `processQueues` goes on while the network is silent. The timer is counted down
once in a call, and the application is off until the login is over. -/
namespace SmartGroup
open Bytes Machine

namespace IRCProtocol

/-- The calls that can still succeed when the network says nothing more, from where the timer
has been counted down. -/
def patience (p : IRCProtocol) : Nat :=
  match p.state with
  | 1 => 190
  | 2 => p.timer + 180
  | 3 => p.timer + 190
  | 4 => p.timer + 150
  | 5 => 150
  | 6 => p.timer + 120
  | 10 => 120
  | 11 => p.timer + 60
  | _ => p.timer

/-- `m_timer--`, the first thing that a call does. -/
def counted (p : IRCProtocol) : IRCProtocol := { p with timer := p.timer - 1 }

/-- The connection is up, and the timer of the pings is never longer than it is set. -/
structure Connected (p : IRCProtocol) : Prop where
  debug : p.debugChannel = []
  ping : p.pingTimer = 60
  state : p.state ∈ [1, 2, 3, 4, 5, 6, 10, 11, 12]
  timer : p.On → p.timer ≤ 60

/-- The messages with the command among those that a call finds. -/
def said (command : String) (x : ProtocolEntry) : Nat :=
  match x.event with
  | .processQueues received _ => received.countP (·.command = str command)
  | .setNetworkReady _ _ => 0

section
variable {p p' : IRCProtocol} {m : IRCMessage} {rand : Nat}

theorem Connected.counted (connected : p.Connected) : p.counted.Connected where
  debug := connected.debug
  ping := connected.ping
  state := connected.state
  timer := fun on => (Nat.sub_le _ _).trans (connected.timer on)

/-- A state in which the client has introduced itself at most. -/
theorem Connected.off (connected : p.Connected) (off : ¬p.On) : p.state ∈ [1, 2, 3, 4, 5, 6, 10] := by
  have state := connected.state
  simp only [On, not_or] at off
  simp only [List.mem_cons, List.not_mem_nil, or_false] at state ⊢
  omega

theorem joined_off (connected : p.Connected) :
    (p.joined m).1 = p ∨ p.state = 6 ∧ (p.joined m).1 = { p with state := 10 } := by
  have state := connected.state
  have never : p.state ≠ 8 := by
    simp only [List.mem_cons, List.not_mem_nil, or_false] at state
    omega
  unfold joined
  by_cases channel : Concerns p.channel m
  · by_cases own : p.Own m ∧ p.state = 6
    · have next : (if p.debugChannel ≠ [] then 7 else 10) = 10 := if_neg (not_not_intro connected.debug)
      refine .inr ⟨own.2, ?_⟩
      simp only [channel, own, and_self, if_true, next]
      split <;> rfl
    · simp [channel, own, never]
  · simp [channel, never]

/-- What a message does before the application is on: only a nick collision costs time. -/
theorem receive_off (connected : p.Connected) (off : ¬p.On) :
    (p.receive m).1.Connected ∧ ¬(p.receive m).1.On ∧
      (p.receive m).1.patience ≤ p.patience + 20 * if m.command = str "433" then 1 else 0 := by
  have stays : ∀ k, p.Connected ∧ ¬p.On ∧ p.patience ≤ p.patience + k :=
    fun k => ⟨connected, off, Nat.le_add_right _ _⟩
  have moves (state timer : Nat) (next : state ∈ [1, 2, 3, 4, 5, 6, 10]) :
      ({ p with state, timer } : IRCProtocol).Connected ∧ ¬({ p with state, timer } : IRCProtocol).On := by
    have still : ¬({ p with state, timer } : IRCProtocol).On := by
      simp only [List.mem_cons, List.not_mem_nil, or_false] at next
      simp only [On, not_or]
      omega
    refine ⟨⟨connected.debug, connected.ping, ?_, fun on => absurd on still⟩, still⟩
    simp only [List.mem_cons, List.not_mem_nil, or_false] at next ⊢
    omega
  unfold receive
  split
  · unfold welcome
    split
    · rename_i state
      obtain ⟨connected', still⟩ := moves 5 p.timer (by decide)
      exact ⟨connected', still, by simp only [patience, state]; omega⟩
    · exact stays _
  · split
    · exact stays _
    · split
      · rcases joined_off connected (m := m) with same | ⟨state, next⟩
        · rw [same]
          exact stays _
        · obtain ⟨connected', still⟩ := moves 10 p.timer (by decide)
          rw [next]
          exact ⟨connected', still, by simp only [patience, state]; omega⟩
      · split
        · unfold pongReceived
          split
          · rename_i state
            exact absurd (.inr state) off
          · exact stays _
        · split
          · rename_i command
            unfold collision
            split
            · rename_i state
              obtain ⟨connected', still⟩ := moves 3 10 (by decide)
              exact ⟨connected', still, by simp only [patience, state]; omega⟩
            · exact stays _
          · exact stays _

/-- What a message does while the application is on: only a `PONG` gives time. -/
theorem receive_on (connected : p.Connected) (on : p.On) :
    (p.receive m).1.Connected ∧ (p.receive m).1.On ∧
      (p.receive m).1.patience ≤ p.patience + 120 * if m.command = str "PONG" then 1 else 0 := by
  have stays : ∀ k, p.Connected ∧ p.On ∧ p.patience ≤ p.patience + k :=
    fun k => ⟨connected, on, Nat.le_add_right _ _⟩
  have state : p.state = 11 ∨ p.state = 12 := on
  unfold receive
  split
  · unfold welcome
    rw [if_neg (by omega)]
    exact stays _
  · split
    · exact stays _
    · split
      · rcases joined_off connected (m := m) with same | ⟨six, -⟩
        · rw [same]
          exact stays _
        · omega
      · split
        · rename_i command
          unfold pongReceived
          split
          · rename_i twelve
            refine ⟨⟨connected.debug, connected.ping, by simp, fun _ => connected.ping.le⟩, .inl rfl, ?_⟩
            simp only [patience, twelve, connected.ping]
            omega
          · exact stays _
        · split
          · unfold collision
            rw [if_neg (by omega)]
            exact stays _
          · exact stays _

/-- The loop over the messages, in the terms of what one message does. -/
theorem receiveAll_pays {J : IRCProtocol → Prop} {gain : IRCMessage → Nat}
    (one : ∀ {p m}, J p → J (p.receive m).1 ∧ (p.receive m).1.patience ≤ p.patience + gain m)
    (ms : List IRCMessage) {p : IRCProtocol} (init : J p) (whole : (p.receiveAll ms).1 = true) :
    J (p.receiveAll ms).2.1 ∧ (p.receiveAll ms).2.1.patience ≤ p.patience + (ms.map gain).sum := by
  induction ms generalizing p with
  | nil => exact ⟨init, Nat.le_add_right _ _⟩
  | cons m ms ih =>
      rw [receiveAll] at whole ⊢
      split at whole
      · cases whole
      · rename_i stays
        obtain ⟨next, paid⟩ := one (m := m) init
        obtain ⟨last, rest⟩ := ih next whole
        rw [if_neg stays, List.map_cons, List.sum_cons]
        exact ⟨last, by dsimp only; omega⟩

/-- The `switch` before the application is on, when it does not fail. -/
theorem advance_off (connected : p.Connected) (off : ¬p.On) (goes : (p.advance rand).1 = true) :
    (p.advance rand).2.1.Connected ∧ 1 + (p.advance rand).2.1.counted.patience ≤ p.patience ∧
      ((p.advance rand).2.1.On → 120 ≤ p.patience) := by
  have state := connected.off off
  have debug := connected.debug
  have ping := connected.ping
  simp only [List.mem_cons, List.not_mem_nil, or_false] at state
  have connects {q : IRCProtocol} (debug : q.debugChannel = []) (ping : q.pingTimer = 60)
      (state : q.state ∈ [1, 2, 3, 4, 5, 6, 10, 11, 12]) (timer : q.timer ≤ 60) : q.Connected :=
    ⟨debug, ping, state, fun _ => timer⟩
  rcases state with state | state | state | state | state | state | state
  all_goals simp only [advance, state] at goes ⊢
  · exact ⟨connects debug ping (by simp) (by simp), by simp [patience, counted, state], by simp [patience, state]⟩
  · split
    · rename_i zero
      exact ⟨connects debug ping (by simp) (by simp), by simp [patience, counted, state], by simp [patience, state]⟩
    · exact ⟨connected, by simp only [patience, counted, state]; omega, fun on => absurd on off⟩
  · split
    · rename_i zero
      exact ⟨connects debug ping (by simp) (by simp), by simp [patience, counted, state],
        by simp [patience, state]⟩
    · exact ⟨connected, by simp only [patience, counted, state]; omega, fun on => absurd on off⟩
  · have left : p.timer ≠ 0 := by simpa using goes
    exact ⟨connected, by simp only [patience, counted, state]; omega, fun on => absurd on off⟩
  · exact ⟨connects debug ping (by simp) (by simp), by simp [patience, counted, state], by simp [patience, state]⟩
  · have left : p.timer ≠ 0 := by simpa using goes
    exact ⟨connected, by simp only [patience, counted, state]; omega, fun on => absurd on off⟩
  · exact ⟨connects debug ping (by simp) ping.le, by simp [patience, counted, state, ping], by simp [patience, state]⟩

/-- The `switch` while the application is on, when it does not fail. -/
theorem advance_on (connected : p.Connected) (on : p.On) (goes : (p.advance rand).1 = true) :
    (p.advance rand).2.1.Connected ∧ (p.advance rand).2.1.On ∧
      1 + (p.advance rand).2.1.counted.patience ≤ p.patience := by
  have debug := connected.debug
  have ping := connected.ping
  rcases id on with state | state
  all_goals simp only [advance, state] at goes ⊢
  · split
    · refine ⟨⟨debug, ping, by simp, fun _ => ping.le⟩, .inr rfl, ?_⟩
      simp only [patience, counted, state, ping]
      omega
    · exact ⟨connected, on, by simp only [patience, counted, state]; omega⟩
  · have left : p.timer ≠ 0 := by simpa using goes
    exact ⟨connected, on, by simp only [patience, counted, state]; omega⟩

/-! A call as a whole. -/

theorem sum_gains (k : Nat) (command : Str) (ms : List IRCMessage) :
    (ms.map fun m => k * if m.command = command then 1 else 0).sum = k * ms.countP (·.command = command) := by
  induction ms with
  | nil => rfl
  | cons m ms ih =>
      rw [List.map_cons, List.sum_cons, ih, List.countP_cons, Nat.add_comm, Nat.mul_add]
      simp

theorem processQueues_goes {received : List IRCMessage} (goes : (p.processQueues received rand).1 = true) :
    (p.counted.receiveAll received).1 = true ∧ ((p.counted.receiveAll received).2.1.advance rand).1 = true ∧
      (p.processQueues received rand).2.1 = ((p.counted.receiveAll received).2.1.advance rand).2.1 := by
  unfold processQueues at goes ⊢
  dsimp only [counted] at goes ⊢
  split at goes
  · rename_i whole
    rw [if_pos whole]
    exact ⟨whole, goes, rfl⟩
  · rename_i kicked
    exact absurd goes kicked

theorem processQueues_off {received : List IRCMessage} (connected : p.Connected) (off : ¬p.On)
    (goes : (p.processQueues received rand).1 = true) :
    (p.processQueues received rand).2.1.Connected ∧
      1 + (p.processQueues received rand).2.1.counted.patience ≤
        p.counted.patience + 20 * received.countP (·.command = str "433") := by
  obtain ⟨whole, goes, result⟩ := processQueues_goes goes
  obtain ⟨⟨connected', off'⟩, got⟩ := receiveAll_pays (J := fun p => p.Connected ∧ ¬p.On)
    (fun holds => ⟨⟨(receive_off holds.1 holds.2).1, (receive_off holds.1 holds.2).2.1⟩,
      (receive_off holds.1 holds.2).2.2⟩) received ⟨connected.counted, off⟩ whole
  obtain ⟨last, paid, -⟩ := advance_off connected' off' goes
  rw [result]
  refine ⟨last, paid.trans ?_⟩
  rwa [sum_gains] at got

theorem processQueues_on {received : List IRCMessage} (connected : p.Connected) (on : p.On)
    (goes : (p.processQueues received rand).1 = true) :
    (p.processQueues received rand).2.1.Connected ∧ (p.processQueues received rand).2.1.On ∧
      1 + (p.processQueues received rand).2.1.counted.patience ≤
        p.counted.patience + 120 * received.countP (·.command = str "PONG") := by
  obtain ⟨whole, goes, result⟩ := processQueues_goes goes
  obtain ⟨⟨connected', on'⟩, got⟩ := receiveAll_pays (J := fun p => p.Connected ∧ p.On)
    (fun holds => ⟨⟨(receive_on holds.1 holds.2).1, (receive_on holds.1 holds.2).2.1⟩,
      (receive_on holds.1 holds.2).2.2⟩) received ⟨connected.counted, on⟩ whole
  obtain ⟨last, still, paid⟩ := advance_on connected' on' goes
  rw [result]
  refine ⟨last, still, paid.trans ?_⟩
  rwa [sum_gains] at got

end

/-! The calls of a connection. -/

/-- The calls that leave the application off, and those that leave it on. -/
def callOff (x : ProtocolEntry) : Nat := if x.post.On then 0 else 1
def callOn (x : ProtocolEntry) : Nat := if x.post.On then 1 else 0

/-- A call that has not failed. -/
def Survives (x : ProtocolEntry) : Prop := x.event.isPoll ∧ .failed ∉ x.outs

instance : DecidablePred Survives := fun x => inferInstanceAs (Decidable (x.event.isPoll = true ∧ _ ∉ x.outs))

theorem survives_goes {p p' : IRCProtocol} {e : ProtocolEvent} {outs : List ProtocolAct}
    (taken : step p e = .ok (p', outs)) (survives : Survives ⟨p, e, outs, p'⟩) :
    ∃ received rand, e = .processQueues received rand ∧ (p.processQueues received rand).1 = true ∧
      p' = (p.processQueues received rand).2.1 := by
  obtain ⟨poll, alive⟩ := survives
  cases e with
  | setNetworkReady ready rand => cases poll
  | processQueues received rand =>
      simp only [step, Except.ok.injEq, Prod.mk.injEq] at taken
      obtain ⟨rfl, rfl⟩ := taken
      refine ⟨received, rand, rfl, ?_, rfl⟩
      by_contra fails
      exact alive (by simp [fails])

theorem patience_off {p : IRCProtocol} (connected : p.Connected) (off : ¬p.On) : 120 ≤ p.counted.patience := by
  have state := connected.off off
  simp only [List.mem_cons, List.not_mem_nil, or_false] at state
  rcases state with state | state | state | state | state | state | state <;>
    simp only [patience, counted, state] <;> omega

theorem patience_on {p : IRCProtocol} (connected : p.Connected) (on : p.On) : p.counted.patience ≤ 119 := by
  have timer := connected.timer on
  rcases on with state | state <;> simp only [patience, counted, state] <;> omega

variable {p q : IRCProtocol} {tr : List ProtocolEntry}

theorem Connected.step {p' : IRCProtocol} {e : ProtocolEvent} {outs : List ProtocolAct} (connected : p.Connected)
    (taken : IRCProtocol.step p e = .ok (p', outs)) (survives : Survives ⟨p, e, outs, p'⟩) : p'.Connected := by
  obtain ⟨received, rand, rfl, goes, rfl⟩ := survives_goes taken survives
  by_cases on : p.On
  · exact (processQueues_on connected on goes).1
  · exact (processQueues_off connected on goes).1

/-- Before the application is on. -/
theorem callOff_le (connected : p.Connected) (run : Run step p tr q) (alive : ∀ x ∈ tr, Survives x) :
    total callOff tr ≤ (if p.On then 0 else p.counted.patience - 120) + 20 * total (said "433") tr := by
  have paid := (run.credit Connected Survives (fun p => if p.On then 0 else p.counted.patience - 120)
    callOff (fun x => 20 * said "433" x) connected ?_ alive).2
  · rw [total_mul] at paid
    exact (Nat.le_add_right _ _).trans paid
  · intro s e s' o connected taken survives
    obtain ⟨received, rand, rfl, goes, rfl⟩ := survives_goes taken survives
    by_cases on : s.On
    · obtain ⟨connected', still, -⟩ := processQueues_on connected on goes
      exact ⟨connected', by simp [callOff, still]⟩
    · obtain ⟨connected', time⟩ := processQueues_off connected on goes
      refine ⟨connected', ?_⟩
      simp only [callOff, said, if_neg on]
      split
      · exact Nat.zero_le _
      · rename_i off
        have room := patience_off connected' off
        omega

/-- While it is on. -/
theorem callOn_le (connected : p.Connected) (run : Run step p tr q) (alive : ∀ x ∈ tr, Survives x) :
    total callOn tr ≤ 120 + 120 * total (said "PONG") tr := by
  have paid := (run.credit Connected Survives (fun p => if p.On then p.counted.patience else 120)
    callOn (fun x => 120 * said "PONG" x) connected ?_ alive).2
  · rw [total_mul] at paid
    have start : (if p.On then p.counted.patience else 120) ≤ 120 := by
      split
      · rename_i on
        exact (patience_on connected on).trans (Nat.le_succ 119)
      · exact Nat.le_refl 120
    omega
  · intro s e s' o connected taken survives
    obtain ⟨received, rand, rfl, goes, rfl⟩ := survives_goes taken survives
    by_cases on : s.On
    · obtain ⟨connected', still, time⟩ := processQueues_on connected on goes
      refine ⟨connected', ?_⟩
      simp only [callOn, said, if_pos on, if_pos still]
      exact time
    · obtain ⟨connected', -⟩ := processQueues_off connected on goes
      refine ⟨connected', ?_⟩
      simp only [callOn, if_neg on]
      split
      · rename_i now
        have room := patience_on connected' now
        omega
      · omega

/-! The length of the ping timer is set once. -/

theorem Received.pingTimer {p p' : IRCProtocol} {m : IRCMessage} (received : Received p m p') :
    p'.pingTimer = p.pingTimer := by
  cases received <;> rfl

theorem receiveAll_pingTimer (p : IRCProtocol) (none : p.debugChannel = []) (ms : List IRCMessage) :
    (p.receiveAll ms).2.1.pingTimer = p.pingTimer := by
  induction ms generalizing p with
  | nil => rfl
  | cons m ms ih =>
      have received : Received p m (p.receive m).1 := receive_received none
      unfold receiveAll
      split
      · rfl
      · exact (ih _ (received.debugChannel.trans none)).trans received.pingTimer

theorem advance_pingTimer (p : IRCProtocol) (rand : Nat) : (p.advance rand).2.1.pingTimer = p.pingTimer := by
  unfold advance
  repeat' split
  all_goals rfl

theorem pingTimer_step {p p' : IRCProtocol} {e : ProtocolEvent} {outs : List ProtocolAct}
    (none : p.debugChannel = []) (taken : step p e = .ok (p', outs)) : p'.pingTimer = p.pingTimer := by
  cases e with
  | setNetworkReady ready rand =>
      simp only [step, Except.ok.injEq, Prod.mk.injEq] at taken
      rw [← taken.1]
      cases ready <;> rfl
  | processQueues received rand =>
      simp only [step, Except.ok.injEq, Prod.mk.injEq] at taken
      rw [← taken.1]
      have got := receiveAll_pingTimer p.counted none received
      simp only [processQueues]
      split
      · exact (advance_pingTimer _ rand).trans got
      · exact got

theorem connected_ready {callsign password channel versionInfo : Str} {rand : Nat} {p : IRCProtocol}
    {tr : List ProtocolEntry} (run : Run step (init callsign password channel versionInfo rand) tr p)
    (rand' : Nat) : (p.setNetworkReady true rand').Connected := by
  obtain ⟨debug, ping⟩ : p.debugChannel = [] ∧ p.pingTimer = 60 := by
    refine run.always (I := fun p => p.debugChannel = [] ∧ p.pingTimer = 60) ⟨rfl, rfl⟩ ?_
    intro s e s' o settings taken
    exact ⟨debugChannel_step settings.1 taken, (pingTimer_step settings.1 taken).trans settings.2⟩
  refine ⟨debug, ping, by simp [setNetworkReady, chooseNewNick], ?_⟩
  intro on
  exact absurd on (not_on _ (by simp [setNetworkReady, chooseNewNick]))

/-- A connection does not outlive the answers of the network: the login takes at most 70 calls,
and 20 more for each nick that is taken, and while the application is on no 120 calls pass,
from whatever moment, without a `PONG`. -/
theorem waits_bounded {callsign password channel versionInfo : Str} {rand rand' : Nat} {p : IRCProtocol}
    {tr session : List ProtocolEntry} {x : ProtocolEntry}
    (run : Run step (init callsign password channel versionInfo rand) (tr ++ x :: session) p)
    (ready : x.event = .setNetworkReady true rand') (alive : ∀ y ∈ session, Survives y) :
    total callOff session ≤ 70 + 20 * total (said "433") session ∧
      ∀ before after, session = before ++ after →
        total callOn after ≤ 120 + 120 * total (said "PONG") after := by
  obtain ⟨earlier, taken⟩ := run.split rfl
  rw [ready] at taken
  rw [List.append_cons] at run
  obtain ⟨t, first, second⟩ := run.divide
  obtain rfl : t = x.pre.setNetworkReady true rand' := first.last.trans (Prod.mk.inj (Except.ok.inj taken)).1.symm
  have connected := connected_ready earlier rand'
  refine ⟨?_, ?_⟩
  · have bound := callOff_le connected second alive
    have off : ¬(x.pre.setNetworkReady true rand').On := not_on _ (by simp [setNetworkReady, chooseNewNick])
    have start : (x.pre.setNetworkReady true rand').counted.patience = 190 := by
      simp [patience, counted, setNetworkReady, chooseNewNick]
    rwa [if_neg off, start] at bound
  · rintro before after rfl
    obtain ⟨u, part, rest⟩ := second.divide
    have connected' : u.Connected := part.keeps Connected Survives connected Connected.step
      fun y member => alive y (List.mem_append_left after member)
    exact callOn_le connected' rest fun y member => alive y (List.mem_append_right before member)

/-- A login with one nick collision, which the application survives for a while. -/
theorem waits_logIn : ∃ x session p, Run step Sample.client ([] ++ x :: session) p ∧
    total callOff session = 23 ∧ total callOn session = 61 ∧
      (total callOff session ≤ 70 + 20 * total (said "433") session ∧
        ∀ before after, session = before ++ after →
          total callOn after ≤ 120 + 120 * total (said "PONG") after) := by
  obtain ⟨tr, p, run, checked⟩ := exists_run_of_accepts step Sample.client Sample.logIn
    (fun tr _ => decide (tr.head?.map (·.event) = some (.setNetworkReady true 0)) &&
      (decide (∀ y ∈ tr.tail, Survives y) &&
        decide (total callOff tr.tail = 23 ∧ total callOn tr.tail = 61))) (by decide +kernel)
  simp only [Bool.and_eq_true, decide_eq_true_eq] at checked
  obtain ⟨ready, alive, off, on⟩ := checked
  cases tr with
  | nil => cases ready
  | cons x session =>
      have ready : x.event = .setNetworkReady true 0 := by simpa using ready
      have whole : Run step _ ([] ++ x :: session) p := run
      exact ⟨x, session, p, run, off, on, waits_bounded whole ready alive⟩

end IRCProtocol
end SmartGroup
