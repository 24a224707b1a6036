import SmartGroup.Irc.Client
import SmartGroup.Irc.Patience

/-! The client comes back. Every pass of its loop is paid for by an attempt to open the
connection, or by what the network has answered. -/
namespace SmartGroup
open Bytes Machine

namespace IRCProtocol

/-- What a message is worth, in the passes that it keeps the connection for. -/
def worth (m : IRCMessage) : Nat :=
  20 * (if m.command = str "433" then 1 else 0) + 120 * if m.command = str "PONG" then 1 else 0

theorem sum_worth (ms : List IRCMessage) : (ms.map worth).sum =
    20 * ms.countP (·.command = str "433") + 120 * ms.countP (·.command = str "PONG") := by
  rw [← sum_gains, ← sum_gains]
  induction ms with
  | nil => rfl
  | cons m ms ih =>
      simp only [List.map_cons, List.sum_cons, ih, worth]
      omega

/-- A call that does not fail, whether the application is on or not. -/
theorem processQueues_pays {p : IRCProtocol} {received : List IRCMessage} {rand : Nat} (connected : p.Connected)
    (goes : (p.processQueues received rand).1 = true) :
    (p.processQueues received rand).2.1.Connected ∧
      1 + (p.processQueues received rand).2.1.counted.patience ≤
        p.counted.patience + (received.map worth).sum := by
  rw [sum_worth]
  by_cases on : p.On
  · obtain ⟨connected', -, paid⟩ := processQueues_on connected on goes
    exact ⟨connected', by omega⟩
  · obtain ⟨connected', paid⟩ := processQueues_off connected on goes
    exact ⟨connected', by omega⟩

/-! A call that does not fail takes every message from the queue. -/

theorem advance_receives (p : IRCProtocol) (rand : Nat) : (p.advance rand).2.2.countP (·.isReceived) = 0 := by
  unfold advance
  repeat' split
  all_goals rfl

theorem receive_receives (p : IRCProtocol) (m : IRCMessage) : (p.receive m).2.countP (·.isReceived) = 0 := by
  have calls (l : List AppCall) : (l.map ProtocolAct.app).countP (·.isReceived) = 0 := by
    rw [List.countP_eq_zero]
    intro act member
    obtain ⟨call, -, rfl⟩ := List.mem_map.mp member
    exact Bool.false_ne_true
  unfold receive
  split
  · unfold welcome
    repeat' split
    all_goals rfl
  · split
    · rfl
    · split
      · rw [joined_acts]
        split <;> rfl
      · split
        · rfl
        · split
          · rfl
          · exact calls _

theorem receiveAll_receives (ms : List IRCMessage) {p : IRCProtocol} (whole : (p.receiveAll ms).1 = true) :
    (p.receiveAll ms).2.2.countP (·.isReceived) = ms.length := by
  induction ms generalizing p with
  | nil => rfl
  | cons m ms ih =>
      rw [receiveAll] at whole ⊢
      split at whole
      · cases whole
      · rename_i stays
        rw [if_neg stays, List.countP_append, List.countP_cons, receive_receives, ih whole]
        simp [ProtocolAct.isReceived, Nat.add_comm]

theorem processQueues_receives {p : IRCProtocol} {received : List IRCMessage} {rand : Nat}
    (goes : (p.processQueues received rand).1 = true) :
    (p.processQueues received rand).2.2.countP (·.isReceived) = received.length := by
  obtain ⟨whole, -⟩ := processQueues_goes goes
  have all := receiveAll_receives received whole
  dsimp only [counted] at whole all
  simp only [processQueues, whole, if_true]
  rw [List.countP_append, all, advance_receives, Nat.add_zero]

end IRCProtocol

namespace IRCClient
open IRCProtocol

/-- `Entry` is at its `switch`. -/
def awake (c : IRCClient) : Bool :=
  match c.phase with
  | .top => !c.ended
  | _ => false

/-- The messages that wait to be processed. -/
def unread (c : IRCClient) : List IRCMessage :=
  match c.queues with
  | none => []
  | some q => q.received

/-- The passes that are still to come before the next attempt to open the connection, when
the network says nothing more. -/
def grace (c : IRCClient) : Nat :=
  if c.ended then 0
  else
    match c.state, c.phase with
    | 0, _ => c.timer + 1
    | 4, _ => 224
    | 5, .putting _ false => 32
    | 5, _ => c.proto.counted.patience + (c.unread.map worth).sum + 33
    | _, _ => 32

/-- The passes of the loop. -/
def passes (x : ClientEntry) : Nat :=
  match x.event with
  | .pass _ _ => if x.pre.awake then 1 else 0
  | _ => 0

/-- The attempts to open the connection, by their result. -/
def attempts (result : Bool) (x : ClientEntry) : Nat :=
  match x.event with
  | .pass opened _ =>
      if x.pre.awake ∧ x.pre.state = 0 ∧ x.pre.terminateThread = false ∧ x.pre.timer ≤ 1 ∧ opened = result
      then 1 else 0
  | _ => 0

/-- The messages with the command that the receiver has put on the queue. -/
def heard (command : String) (x : ClientEntry) : Nat :=
  match x.event with
  | .received m => if m.command = str command then 1 else 0
  | _ => 0

/-- What holds of the client in every pass. -/
structure Waiting (c : IRCClient) : Prop where
  state : c.state ∈ [0, 4, 5, 6]
  debug : c.proto.debugChannel = []
  ping : c.proto.pingTimer = 60
  busy : c.phase = .top ∨ c.state = 5
  halted : c.ended = true → c.phase = .top
  connected : c.state = 5 → (∀ messages, c.phase ≠ .putting messages false) → c.proto.Connected

/-- What a step gains. -/
def gained (x : ClientEntry) : Nat :=
  31 * attempts false x + 224 * attempts true x + 20 * heard "433" x + 120 * heard "PONG" x

section
variable {c c' : IRCClient} {o : List ClientOutput}

theorem grace_ended (ended : c.ended = true) : c.grace = 0 := if_pos ended

theorem grace_open (state : c.state = 5) (running : c.ended = false)
    (phase : ∀ messages, c.phase ≠ .putting messages false) :
    c.grace = c.proto.counted.patience + (c.unread.map worth).sum + 33 := by
  unfold grace
  rw [if_neg (by simp [running]), state]
  cases h : c.phase with
  | top => rfl
  | sending => rfl
  | putting messages res =>
      cases res with
      | true => rfl
      | false => exact absurd h (phase messages)

/-- Where the call goes on, its phase does not matter. -/
theorem grace_same (state : c.state = 5) (running : c.ended = false)
    (phase : ∀ messages, c.phase ≠ .putting messages false) (same : c'.state = c.state ∧ c'.ended = c.ended ∧
      c'.proto = c.proto ∧ c'.unread = c.unread) (phase' : ∀ messages, c'.phase ≠ .putting messages false) :
    c'.grace = c.grace := by
  obtain ⟨state', ended', proto, unread⟩ := same
  rw [grace_open (state'.trans state) (ended'.trans running) phase', grace_open state running phase, proto, unread]

theorem grace_closing (state : c.state = 6) : c.grace ≤ 32 := by
  unfold grace
  rw [state]
  split <;> simp

theorem Waiting.giveUp (waiting : Waiting c) : Waiting c.giveUp :=
  ⟨by simp [IRCClient.giveUp], waiting.debug, waiting.ping, .inl rfl, fun _ => rfl, by simp [IRCClient.giveUp]⟩

theorem Waiting.running (waiting : Waiting c) (busy : c.phase ≠ .top) : c.ended = false :=
  Bool.eq_false_of_not_eq_true fun ended => busy (waiting.halted ended)

theorem settings_processQueues {p : IRCProtocol} (debug : p.debugChannel = []) (ping : p.pingTimer = 60)
    (received : List IRCMessage) (rand : Nat) :
    (p.processQueues received rand).2.1.debugChannel = [] ∧ (p.processQueues received rand).2.1.pingTimer = 60 :=
  have taken : IRCProtocol.step p (.processQueues received rand) = .ok (_, _) := rfl
  ⟨debugChannel_step debug taken, (pingTimer_step debug taken).trans ping⟩

/-- A state in which no connection is up. -/
theorem Waiting.down (waiting : Waiting c) (debug : c'.proto.debugChannel = c.proto.debugChannel)
    (ping : c'.proto.pingTimer = c.proto.pingTimer) (phase : c'.phase = .top) (state : c'.state ∈ [0, 4, 6]) :
    Waiting c' := by
  simp only [List.mem_cons, List.not_mem_nil, or_false] at state
  refine ⟨by simp; omega, debug.trans waiting.debug, ping.trans waiting.ping, .inl phase, fun _ => phase, ?_⟩
  intro five
  omega

theorem awake_top (top : c.phase = .top) (running : c.ended = false) : c.awake = true := by
  simp [awake, top, running]

/-- A pass at the `switch`, by its states. -/
theorem Waiting.idle (waiting : Waiting c) (top : c.phase = .top) (running : c.ended = false)
    (state : c.state = 0) {opened : Bool} {rand : Nat} (taken : c.pass opened rand = .ok (c', o)) :
    Waiting c' ∧ 1 + c'.grace ≤ c.grace + gained ⟨c, .pass opened rand, o, c'⟩ := by
  have before : c.grace = c.timer + 1 := by simp [grace, state, running]
  have awake := awake_top top running
  simp only [IRCClient.pass, state] at taken
  split at taken
  · cases taken
    refine ⟨waiting.down rfl rfl top (by simp), ?_⟩
    rw [grace_ended rfl, before]
    omega
  · rename_i goes
    have goes : c.terminateThread = false := by simpa using goes
    split at taken
    · rename_i due
      have due : c.timer ≤ 1 := by omega
      cases opened with
      | true =>
          cases taken
          refine ⟨waiting.down rfl rfl top (by simp), ?_⟩
          simp [grace, running, gained, attempts, heard, awake, state, goes, due]
      | false =>
          cases taken
          refine ⟨waiting.down rfl rfl top (by simp), ?_⟩
          simp [grace, running, gained, attempts, heard, awake, state, goes, due]
    · rename_i early
      cases taken
      refine ⟨waiting.down rfl rfl top (by simp), ?_⟩
      rw [before]
      simp only [grace, running, Bool.false_eq_true, if_false]
      omega

theorem Waiting.opening (waiting : Waiting c) (top : c.phase = .top) (running : c.ended = false)
    (state : c.state = 4) {opened : Bool} {rand : Nat} (taken : c.pass opened rand = .ok (c', o)) :
    Waiting c' ∧ 1 + c'.grace ≤ c.grace := by
  have before : c.grace = 224 := by simp [grace, state, running]
  simp only [IRCClient.pass, state, Except.ok.injEq, Prod.mk.injEq] at taken
  obtain ⟨next, -⟩ := taken
  have proto : c'.proto = c.proto.setNetworkReady true rand := by rw [← next]
  have connected : c'.proto.Connected := by
    rw [proto]
    exact ⟨waiting.debug, waiting.ping, by simp [setNetworkReady, chooseNewNick],
      fun on => absurd on (not_on _ (by simp [setNetworkReady, chooseNewNick]))⟩
  have patience : c'.proto.counted.patience = 190 := by
    rw [proto]
    simp [patience, counted, setNetworkReady, chooseNewNick]
  have empty : c'.unread = [] := by
    rw [← next]
    rfl
  have phase : c'.phase = .top := by rw [← next, ← top]
  have five : c'.state = 5 := by rw [← next]
  refine ⟨⟨by simp [five], connected.debug, connected.ping, .inl phase, fun _ => phase, fun _ _ => connected⟩, ?_⟩
  rw [grace_open five (by rw [← next, ← running]) (by simp [phase]), before, patience, empty]
  simp

theorem Waiting.polling (waiting : Waiting c) (top : c.phase = .top) (running : c.ended = false)
    (state : c.state = 5) {opened : Bool} {rand : Nat} (taken : c.pass opened rand = .ok (c', o)) :
    Waiting c' ∧ 1 + c'.grace ≤ c.grace := by
  have connected := waiting.connected state (by simp [top])
  have before := grace_open state running (by simp [top])
  simp only [IRCClient.pass, state] at taken
  split at taken
  · cases taken
    refine ⟨waiting.down rfl rfl top (by simp), ?_⟩
    have after : ({ c with timer := c.timer - 1, state := 6 } : IRCClient).grace ≤ 32 := grace_closing rfl
    omega
  · split at taken
    · cases taken
    · rename_i q queues
      have unread : c.unread = q.received := by simp [IRCClient.unread, queues]
      split at taken
      · cases taken
        refine ⟨waiting.down rfl rfl rfl (by simp [IRCClient.giveUp]), ?_⟩
        have after : ({ c with timer := c.timer - 1 } : IRCClient).giveUp.grace ≤ 32 := grace_closing rfl
        have same : ({ c with timer := c.timer - 1, state := 5 } : IRCClient).giveUp =
          ({ c with timer := c.timer - 1 } : IRCClient).giveUp := rfl
        rw [same]
        omega
      · simp only [Except.ok.injEq, Prod.mk.injEq] at taken
        obtain ⟨next, -⟩ := taken
        have proto : c'.proto = (c.proto.processQueues q.received rand).2.1 := by rw [← next]
        have phase : c'.phase = .putting ((c.proto.processQueues q.received rand).2.2.filterMap (·.message))
            (c.proto.processQueues q.received rand).1 := by rw [← next]
        have five : c'.state = 5 := by rw [← next]
        obtain ⟨debug, ping⟩ := settings_processQueues waiting.debug waiting.ping q.received rand
        have connects (goes : (c.proto.processQueues q.received rand).1 = true) :=
          processQueues_pays connected goes
        constructor
        · have running' : c'.ended = false := by rw [← next, ← running]
          refine ⟨by simp [five], proto ▸ debug, proto ▸ ping, .inr five, by simp [running'], ?_⟩
          intro _ other
          rw [proto]
          refine (connects ?_).1
          by_contra fails
          exact other _ (phase.trans (by rw [Bool.eq_false_of_not_eq_true fails]))
        · cases goes : (c.proto.processQueues q.received rand).1 with
          | true =>
              have taken : c'.unread = [] := by
                rw [← next]
                simp only [IRCClient.unread]
                rw [processQueues_receives goes, List.drop_length]
              rw [grace_open five (by rw [← next, ← running]) (by simp [phase, goes]), before, taken, unread,
                proto]
              have paid := (connects goes).2
              simp only [List.map_nil, List.sum_nil]
              omega
          | false =>
              have after : c'.grace ≤ 32 := by
                unfold grace
                rw [five, phase, goes]
                split <;> simp
              omega

theorem Waiting.closing (waiting : Waiting c) (top : c.phase = .top) (running : c.ended = false)
    (state : c.state = 6) {opened : Bool} {rand : Nat} (taken : c.pass opened rand = .ok (c', o)) :
    Waiting c' ∧ 1 + c'.grace ≤ c.grace := by
  have before : c.grace = 32 := by simp [grace, state, running]
  simp only [IRCClient.pass, state] at taken
  split at taken
  · cases taken
    refine ⟨waiting.down rfl rfl top (by simp), ?_⟩
    rw [grace_ended rfl, before]
    omega
  · cases taken
    refine ⟨waiting.down rfl rfl top (by simp), ?_⟩
    rw [before]
    simp [grace, running]

/-- The messages of a call are put on the queue, and then it ends. -/
theorem Waiting.putNext (waiting : Waiting c) (taken : c.putNext = .ok (c', o)) :
    Waiting c' ∧ c'.grace ≤ c.grace := by
  unfold IRCClient.putNext at taken
  split at taken
  · rename_i m messages res phase
    have running := waiting.running (by simp [phase])
    have state : c.state = 5 := waiting.busy.resolve_left (by simp [phase])
    split at taken
    · cases taken
    · rename_i q queues
      cases taken
      cases res with
      | true =>
          refine ⟨⟨waiting.state, waiting.debug, waiting.ping, .inr state, by simp [running],
            fun _ _ => waiting.connected state (by simp [phase])⟩, ?_⟩
          exact Nat.le_of_eq (grace_same state running (by simp [phase]) ⟨rfl, rfl, rfl, by simp [IRCClient.unread, queues]⟩
            (by simp))
      | false =>
          refine ⟨⟨waiting.state, waiting.debug, waiting.ping, .inr state, by simp [running],
            fun _ other => absurd rfl (other _)⟩, ?_⟩
          simp [grace, state, phase]
  · rename_i res phase
    have running := waiting.running (by simp [phase])
    have state : c.state = 5 := waiting.busy.resolve_left (by simp [phase])
    split at taken
    · rename_i goes
      cases taken
      refine ⟨⟨waiting.state, waiting.debug, waiting.ping, .inr state, by simp [running],
        fun _ _ => waiting.connected state (by simp [phase, goes])⟩, ?_⟩
      exact Nat.le_of_eq (grace_same state running (by simp [phase, goes]) ⟨rfl, rfl, rfl, rfl⟩ (by simp))
    · rename_i fails
      cases taken
      refine ⟨waiting.giveUp, ?_⟩
      have before : c.grace = 32 := by simp [grace, state, phase, running, fails]
      rw [before]
      exact grace_closing rfl
  · cases taken
    exact ⟨waiting, Nat.le_refl _⟩

theorem Waiting.sendNext (waiting : Waiting c) {short : Bool} (taken : c.sendNext short = .ok (c', o)) :
    Waiting c' ∧ c'.grace ≤ c.grace := by
  unfold IRCClient.sendNext at taken
  split at taken
  · rename_i phase
    have running := waiting.running (by simp [phase])
    have state : c.state = 5 := waiting.busy.resolve_left (by simp [phase])
    have connected := waiting.connected state (by simp [phase])
    have before := grace_open state running (by simp [phase])
    split at taken
    · cases taken
    · rename_i q queues
      split at taken
      · cases taken
        refine ⟨⟨waiting.state, waiting.debug, waiting.ping, .inl rfl, fun _ => rfl, fun _ _ => connected⟩, ?_⟩
        exact Nat.le_of_eq (grace_same state running (by simp [phase]) ⟨rfl, rfl, rfl, rfl⟩ (by simp))
      · rename_i m rest sending
        have sends : Waiting { c with queues := some { q with sending := rest } } ∧
            ({ c with queues := some { q with sending := rest } } : IRCClient).grace ≤ c.grace := by
          refine ⟨⟨waiting.state, waiting.debug, waiting.ping, waiting.busy, waiting.halted, waiting.connected⟩, ?_⟩
          exact Nat.le_of_eq (grace_same state running (by simp [phase]) ⟨rfl, rfl, rfl, by simp [IRCClient.unread, queues]⟩
            (by simp [phase]))
        have gives : Waiting ({ c with queues := some { q with sending := rest } } : IRCClient).giveUp ∧
            ({ c with queues := some { q with sending := rest } } : IRCClient).giveUp.grace ≤ c.grace := by
          refine ⟨sends.1.giveUp, (grace_closing rfl).trans ?_⟩
          omega
        split at taken
        · cases taken
        · rename_i out composed
          cases last : (safeStringCopy out 200).getLast? with
          | none =>
              simp only [last] at taken
              cases taken
          | some b =>
              simp only [last] at taken
              split at taken
              · split at taken
                · cases taken
                  exact gives
                · cases taken
                  exact sends
              · cases taken
                exact gives
  · cases taken
    exact ⟨waiting, Nat.le_refl _⟩

/-- A step of another thread, which leaves the login as it is. -/
theorem Waiting.beside (waiting : Waiting c) {terminateThread : Bool} {queues : Option ClientQueues} {k : Nat}
    (more : (({ c with terminateThread, queues } : IRCClient).unread.map worth).sum ≤
      (c.unread.map worth).sum + k) :
    Waiting { c with terminateThread, queues } ∧
      ({ c with terminateThread, queues } : IRCClient).grace ≤ c.grace + k := by
  refine ⟨⟨waiting.state, waiting.debug, waiting.ping, waiting.busy, waiting.halted, waiting.connected⟩, ?_⟩
  unfold grace
  dsimp only
  repeat' split
  all_goals omega

/-- A pass is paid for. -/
theorem Waiting.pass (waiting : Waiting c) {opened : Bool} {rand : Nat}
    (taken : IRCClient.step c (.pass opened rand) = .ok (c', o)) :
    Waiting c' ∧ passes ⟨c, .pass opened rand, o, c'⟩ + c'.grace ≤
      c.grace + gained ⟨c, .pass opened rand, o, c'⟩ := by
  simp only [IRCClient.step] at taken
  split at taken
  · rename_i top
    split at taken
    · rename_i ended
      cases taken
      exact ⟨waiting, by simp [passes, awake, ended, top]⟩
    · rename_i running
      have running : c.ended = false := Bool.eq_false_of_not_eq_true running
      have pass : passes ⟨c, .pass opened rand, o, c'⟩ = 1 := if_pos (awake_top top running)
      have state := waiting.state
      simp only [List.mem_cons, List.not_mem_nil, or_false] at state
      rw [pass]
      rcases state with state | state | state | state
      · exact waiting.idle top running state taken
      · obtain ⟨next, paid⟩ := waiting.opening top running state taken
        exact ⟨next, paid.trans (Nat.le_add_right _ _)⟩
      · obtain ⟨next, paid⟩ := waiting.polling top running state taken
        exact ⟨next, paid.trans (Nat.le_add_right _ _)⟩
      · obtain ⟨next, paid⟩ := waiting.closing top running state taken
        exact ⟨next, paid.trans (Nat.le_add_right _ _)⟩
  · rename_i busy
    cases taken
    have asleep : c.awake = false := by
      unfold awake
      split
      · rename_i top
        exact absurd top busy
      · rfl
    exact ⟨waiting, by simp [passes, asleep]⟩

/-- A message that comes is credited with what it is worth. -/
theorem Waiting.received (waiting : Waiting c) {m : IRCMessage}
    (taken : IRCClient.step c (.received m) = .ok (c', o)) :
    Waiting c' ∧ passes ⟨c, .received m, o, c'⟩ + c'.grace ≤ c.grace + gained ⟨c, .received m, o, c'⟩ := by
  cases taken
  have more : (({ c with queues := c.queues.map fun q => { q with received := q.received ++ [m] } } :
      IRCClient).unread.map worth).sum ≤ (c.unread.map worth).sum + worth m := by
    cases queues : c.queues <;> simp [unread, queues]
  obtain ⟨next, paid⟩ := waiting.beside more
  refine ⟨next, ?_⟩
  have gain : gained ⟨c, .received m, [], { c with
      queues := c.queues.map fun q => { q with received := q.received ++ [m] } }⟩ = worth m := by
    simp [gained, attempts, heard, worth]
  rw [gain]
  simpa [passes] using paid

theorem Waiting.queued (waiting : Waiting c) {m : IRCMessage}
    (taken : IRCClient.step c (.queued m) = .ok (c', o)) : Waiting c' ∧ c'.grace ≤ c.grace := by
  simp only [IRCClient.step] at taken
  split at taken
  · cases taken
    exact ⟨waiting, Nat.le_refl _⟩
  · rename_i q queues
    cases taken
    have same : (({ c with queues := some { q with sending := q.sending ++ [m] } } :
        IRCClient).unread.map worth).sum ≤ (c.unread.map worth).sum + 0 := by
      simp [unread, queues]
    exact waiting.beside same

theorem Waiting.signalEOF (waiting : Waiting c) (taken : IRCClient.step c .signalEOF = .ok (c', o)) :
    Waiting c' ∧ c'.grace ≤ c.grace := by
  cases taken
  have same : (({ c with queues := c.queues.map fun q => { q with eof := true } } :
      IRCClient).unread.map worth).sum ≤ (c.unread.map worth).sum + 0 := by
    cases queues : c.queues <;> simp [unread, queues]
  exact waiting.beside same

theorem Waiting.stopWork (waiting : Waiting c) (taken : IRCClient.step c .stopWork = .ok (c', o)) :
    Waiting c' ∧ c'.grace ≤ c.grace := by
  cases taken
  have same : (({ c with terminateThread := true } : IRCClient).unread.map worth).sum ≤
      (c.unread.map worth).sum + 0 := Nat.le_refl _
  exact waiting.beside same

/-- A step is paid for. -/
theorem Waiting.step {e : ClientEvent} (waiting : Waiting c) (taken : IRCClient.step c e = .ok (c', o)) :
    Waiting c' ∧ passes ⟨c, e, o, c'⟩ + c'.grace ≤ c.grace + gained ⟨c, e, o, c'⟩ := by
  have free (none : passes ⟨c, e, o, c'⟩ = 0) (kept : Waiting c' ∧ c'.grace ≤ c.grace) :
      Waiting c' ∧ passes ⟨c, e, o, c'⟩ + c'.grace ≤ c.grace + gained ⟨c, e, o, c'⟩ := by
    refine ⟨kept.1, ?_⟩
    rw [none, Nat.zero_add]
    exact kept.2.trans (Nat.le_add_right _ _)
  cases e with
  | pass opened rand => exact waiting.pass taken
  | putNext => exact free rfl (waiting.putNext taken)
  | sendNext short => exact free rfl (waiting.sendNext taken)
  | received m => exact waiting.received taken
  | signalEOF => exact free rfl (waiting.signalEOF taken)
  | queued m => exact free rfl (waiting.queued taken)
  | stopWork => exact free rfl (waiting.stopWork taken)

end

/-- The client comes back. The passes of its loop come to a share for each attempt to open the
connection, and to what the answers of the network have kept it for. -/
theorem passes_bounded {callsign password channel versionInfo : Str} {rand : Nat} {tr : List ClientEntry}
    {c : IRCClient} (run : Run step (init (IRCProtocol.init callsign password channel versionInfo rand)) tr c) :
    total passes tr ≤ 1 + 31 * total (attempts false) tr + 224 * total (attempts true) tr +
      20 * total (heard "433") tr + 120 * total (heard "PONG") tr := by
  have waiting : Waiting (init (IRCProtocol.init callsign password channel versionInfo rand)) :=
    ⟨by simp [init], rfl, rfl, .inl rfl, fun _ => rfl, by simp [init]⟩
  have paid := (run.credit Waiting (fun _ => True) grace passes gained waiting
    (fun waiting taken _ => waiting.step taken) (by simp)).2
  have split : total gained tr = 31 * total (attempts false) tr + 224 * total (attempts true) tr +
      20 * total (heard "433") tr + 120 * total (heard "PONG") tr := by
    rw [← total_mul, ← total_mul, ← total_mul, ← total_mul]
    clear paid run
    induction tr using List.reverseRecOn with
    | nil => rfl
    | append_singleton tr x ih =>
        simp only [total_snoc, ih, gained]
        omega
  have start : grace (init (IRCProtocol.init callsign password channel versionInfo rand)) = 1 := rfl
  omega

/-- An attempt that fails, one that opens the connection, and the end of the connection. -/
def comeBack : List ClientEvent :=
  .pass false 0 :: (List.replicate 32 (.pass true 0) ++ [.putNext, .putNext, .putNext, .sendNext false,
    .sendNext false, .sendNext false, .signalEOF, .pass true 0, .pass true 0])

theorem passes_comeBack : ∃ tr c, Run step (init Sample.client) tr c ∧
    total passes tr = 35 ∧ c.state = 0 ∧
      total passes tr ≤ 1 + 31 * total (attempts false) tr + 224 * total (attempts true) tr +
        20 * total (heard "433") tr + 120 * total (heard "PONG") tr := by
  obtain ⟨tr, c, run, checked⟩ := exists_run_of_accepts step (init Sample.client) comeBack
    (fun tr c => decide (total passes tr = 35) && decide (c.state = 0)) (by decide +kernel)
  simp only [Bool.and_eq_true, decide_eq_true_eq] at checked
  exact ⟨tr, c, run, checked.1, checked.2, passes_bounded run⟩

end IRCClient
end SmartGroup
