import SmartGroup.Irc.Protocol

/-! The login handshake: in which order the requests leave, and which messages of the
network they wait for. -/
namespace SmartGroup
open Bytes Machine Trace

namespace IRCProtocol

/-- The messages but `PONG` that were put on the send queue. -/
def request : ProtocolAct → Option IRCMessage
  | .sent m => if m.command = str "PONG" then none else some m
  | _ => none

def requests (acts : List ProtocolAct) : List IRCMessage := acts.filterMap request

/-- The network accepts the client, who has introduced himself. -/
def Welcome (p : IRCProtocol) (before : List ProtocolAct) (act : ProtocolAct) : Prop :=
  ∃ m, act = .received m ∧ m.command = str "004" ∧ .sent p.user ∈ before

/-- The network tells the channel that the client has joined, as it has asked to. -/
def Echo (p : IRCProtocol) (before : List ProtocolAct) (act : ProtocolAct) : Prop :=
  ∃ m, act = .received m ∧ m.command = str "JOIN" ∧ Concerns p.channel m ∧ p.Own m ∧
    .sent (join p.channel) ∈ before

/-- What must come before an act. -/
structure Waited (p : IRCProtocol) (before : List ProtocolAct) (act : ProtocolAct) : Prop where
  join : ∀ m, act = .sent m → m.command = str "JOIN" → Occurs p.Welcome before
  who : ∀ m, act = .sent m → m.command = str "WHO" → Occurs p.Echo before
  on : act = .app .setSendQ → before.getLast? = some (.sent p.who)

/-- The requests up to the last nick, where `nicks` are the nicks that were taken. -/
def named (p : IRCProtocol) (nicks : List Str) : List IRCMessage :=
  p.pass :: (nicks ++ [p.currentNick]).map nick

/-- The login, with the application switched on behind the `WHO`. -/
structure Handshake (p : IRCProtocol) (acts : List ProtocolAct) : Prop where
  order : ∃ nicks pings, requests acts <+:
    p.named nicks ++ [p.user, join p.channel, p.who] ++ List.replicate pings (ping p.currentNick)
  waited : Each p.Waited acts
  on : acts.count (.app .setSendQ) = acts.count (.sent p.who)
  once : acts.count (.app .setSendQ) ≤ 1

@[simp] theorem requests_append (acts more : List ProtocolAct) :
    requests (acts ++ more) = requests acts ++ requests more := List.filterMap_append

theorem sent_of_mem_requests {acts : List ProtocolAct} {m : IRCMessage} (member : m ∈ requests acts) :
    .sent m ∈ acts := by
  obtain ⟨act, there, same⟩ := List.mem_filterMap.mp member
  cases act with
  | sent m' =>
      simp only [request] at same
      split at same <;> cases same
      exact there
  | received m' => cases same
  | app call => cases same
  | failed => cases same

/-! Acts that need not wait for anything. -/

def Plain : ProtocolAct → Prop
  | .sent m => m.command ≠ str "JOIN" ∧ m.command ≠ str "WHO"
  | .app call => call ≠ .setSendQ
  | _ => True

theorem Plain.waited {p : IRCProtocol} {act : ProtocolAct} (plain : Plain act)
    (before : List ProtocolAct) : p.Waited before act where
  join := by
    intro m sent command
    subst sent
    exact absurd command plain.1
  who := by
    intro m sent command
    subst sent
    exact absurd command plain.2
  on := by
    intro switch
    subst switch
    exact absurd rfl plain

/-- An act that is no request and does not switch the application on. -/
def Quiet (act : ProtocolAct) : Prop := request act = none ∧ Plain act

theorem Quiet.requests {more : List ProtocolAct} (quiet : ∀ act ∈ more, Quiet act) :
    requests more = [] := List.filterMap_eq_nil_iff.mpr fun act member => (quiet act member).1

theorem quiet_received (m : IRCMessage) : Quiet (.received m) := ⟨rfl, trivial⟩

theorem quiet_failed : Quiet .failed := ⟨rfl, trivial⟩

theorem quiet_app {call : AppCall} (off : call ≠ .setSendQ) : Quiet (.app call) := ⟨rfl, off⟩

theorem quiet_pong (m : IRCMessage) : Quiet (.sent (pong m)) := by
  have command : (pong m).command = str "PONG" := by
    unfold pong
    cases m.params <;> rfl
  refine ⟨if_pos command, ?_⟩
  rw [Plain, command]
  decide +kernel

/-- A request that need not wait for anything. -/
def Free (m : IRCMessage) : Prop :=
  m.command = str "PASS" ∨ m.command = str "NICK" ∨ m.command = str "USER" ∨ m.command = str "PING"

theorem Free.plain {m : IRCMessage} (free : Free m) : Plain (.sent m) := by
  rw [Plain]
  rcases free with command | command | command | command <;> rw [command] <;> decide +kernel

theorem requests_sent {m : IRCMessage} (other : m.command ≠ str "PONG") : requests [.sent m] = [m] := by
  simp [requests, request, other]

theorem Free.requests {m : IRCMessage} (free : Free m) : requests [.sent m] = [m] := by
  apply requests_sent
  rcases free with command | command | command | command <;> rw [command] <;> decide +kernel

theorem free_pass (p : IRCProtocol) : Free p.pass := .inl rfl
theorem free_nick (name : Str) : Free (nick name) := .inr (.inl rfl)
theorem free_user (p : IRCProtocol) : Free p.user := .inr (.inr (.inl rfl))
theorem free_ping (name : Str) : Free (ping name) := .inr (.inr (.inr rfl))

/-! How far the login has come, by the states. -/

/-- The application has been switched on. -/
def On (p : IRCProtocol) : Prop := p.state = 11 ∨ p.state = 12

instance (p : IRCProtocol) : Decidable p.On := inferInstanceAs (Decidable (_ ∨ _))

theorem not_on (p : IRCProtocol) (early : p.state < 11) : ¬p.On := by
  intro on
  rcases on with waiting | asked <;> omega

/-- A change of state before the application is switched on. -/
theorem still_off {p : IRCProtocol} {state : Nat} (early : p.state < 11) (next : state < 11) :
    state = 11 ∨ state = 12 ↔ p.On :=
  iff_of_false (by omega) (p.not_on early)

/-- A change of state while it is. -/
theorem still_on {p : IRCProtocol} {state : Nat} (on : p.On) (next : state = 11 ∨ state = 12) :
    state = 11 ∨ state = 12 ↔ p.On :=
  iff_of_true next on

structure Ordered (p : IRCProtocol) (acts : List ProtocolAct) : Prop where
  waited : Each p.Waited acts
  switched : acts.count (.app .setSendQ) = if p.On then 1 else 0
  asked : acts.count (.sent p.who) = if p.On then 1 else 0

inductive Stage (p : IRCProtocol) (acts : List ProtocolAct) : Prop
  | opened (state : p.state = 1) (sent : requests acts = [])
  | named (state : p.state = 2 ∨ p.state = 3) (nicks : List Str) (sent : requests acts = p.named nicks)
  | introduced (state : p.state = 4) (nicks : List Str) (sent : requests acts = p.named nicks ++ [p.user])
  | welcome (state : p.state = 5) (nicks : List Str) (sent : requests acts = p.named nicks ++ [p.user])
      (welcome : Occurs p.Welcome acts)
  | joining (state : p.state = 6) (nicks : List Str)
      (sent : requests acts = p.named nicks ++ [p.user, join p.channel])
  | joined (state : p.state = 10) (nicks : List Str)
      (sent : requests acts = p.named nicks ++ [p.user, join p.channel]) (echo : Occurs p.Echo acts)
  | on (state : p.state = 11 ∨ p.state = 12) (nicks : List Str) (pings : Nat)
      (sent : requests acts = p.named nicks ++ [p.user, join p.channel, p.who] ++
        List.replicate pings (ping p.currentNick))

structure LoggingIn (p : IRCProtocol) (acts : List ProtocolAct) : Prop where
  debug : p.debugChannel = []
  stage : p.Stage acts
  ordered : p.Ordered acts

section
variable {p : IRCProtocol} {acts more : List ProtocolAct}

theorem Plain.count (plain : ∀ act ∈ more, Plain act) :
    more.count (.app .setSendQ) = 0 ∧ more.count (.sent p.who) = 0 := by
  constructor
  · apply List.count_eq_zero.mpr
    intro member
    exact absurd rfl (plain _ member)
  · apply List.count_eq_zero.mpr
    intro member
    exact absurd rfl (plain _ member).2

theorem Ordered.plain (ordered : p.Ordered acts) (plain : ∀ act ∈ more, Plain act) :
    p.Ordered (acts ++ more) where
  waited := ordered.waited.append fun act member before => (plain act member).waited before
  switched := by rw [List.count_append, (Plain.count (p := p) plain).1, ordered.switched, Nat.add_zero]
  asked := by rw [List.count_append, (Plain.count plain).2, ordered.asked, Nat.add_zero]

theorem Stage.quiet (stage : p.Stage acts) (quiet : ∀ act ∈ more, Quiet act) :
    p.Stage (acts ++ more) := by
  have same : requests (acts ++ more) = requests acts := by
    rw [requests_append, Quiet.requests quiet, List.append_nil]
  cases stage with
  | opened state sent => exact .opened state (same.trans sent)
  | named state nicks sent => exact .named state nicks (same.trans sent)
  | introduced state nicks sent => exact .introduced state nicks (same.trans sent)
  | welcome state nicks sent welcome =>
      exact .welcome state nicks (same.trans sent) (welcome.append more)
  | joining state nicks sent => exact .joining state nicks (same.trans sent)
  | joined state nicks sent echo => exact .joined state nicks (same.trans sent) (echo.append more)
  | on state nicks pings sent => exact .on state nicks pings (same.trans sent)

theorem LoggingIn.quiet (sofar : p.LoggingIn acts) (quiet : ∀ act ∈ more, Quiet act) :
    p.LoggingIn (acts ++ more) where
  debug := sofar.debug
  stage := sofar.stage.quiet quiet
  ordered := sofar.ordered.plain fun act member => (quiet act member).2

/-- The login so far is a handshake. -/
theorem LoggingIn.handshake (sofar : p.LoggingIn acts) : p.Handshake acts where
  order := by
    cases sofar.stage with
    | opened state sent => exact ⟨[], 0, by simp [sent]⟩
    | named state nicks sent => exact ⟨nicks, 0, by simp [sent]⟩
    | introduced state nicks sent => exact ⟨nicks, 0, by simp [sent]⟩
    | welcome state nicks sent welcome => exact ⟨nicks, 0, by simp [sent]⟩
    | joining state nicks sent => exact ⟨nicks, 0, by simp [sent]⟩
    | joined state nicks sent echo => exact ⟨nicks, 0, by simp [sent]⟩
    | on state nicks pings sent => exact ⟨nicks, pings, sent ▸ List.prefix_refl _⟩
  waited := sofar.ordered.waited
  on := by rw [sofar.ordered.switched, sofar.ordered.asked]
  once := by
    rw [sofar.ordered.switched]
    split <;> omega

/-! The messages of the network. -/

/-- What a message does to the state. -/
inductive Received (p : IRCProtocol) (m : IRCMessage) : IRCProtocol → Prop
  | same : Received p m p
  | welcome (state : p.state = 4) (command : m.command = str "004") : Received p m { p with state := 5 }
  | joined (state : p.state = 6) (command : m.command = str "JOIN") (channel : Concerns p.channel m)
      (own : p.Own m) : Received p m { p with state := 10 }
  | debug (state : p.state = 8) : Received p m { p with state := 10 }
  | answered (state : p.state = 12) : Received p m { p with timer := p.pingTimer, state := 11 }
  | collision (state : p.state = 2) : Received p m { p with state := 3, timer := 10 }

variable {m : IRCMessage}

theorem welcome_received (command : m.command = str "004") : Received p m (p.welcome m).1 := by
  unfold IRCProtocol.welcome
  split
  · rename_i state
    exact .welcome state command
  · exact .same

theorem joined_received (none : p.debugChannel = []) (command : m.command = str "JOIN") :
    Received p m (p.joined m).1 := by
  unfold IRCProtocol.joined
  by_cases channel : Concerns p.channel m
  · by_cases own : p.Own m ∧ p.state = 6
    · have next : (if p.debugChannel ≠ [] then 7 else 10) = 10 := if_neg (not_not_intro none)
      simp only [channel, own, and_self, if_true, next]
      split
      · rename_i again
        exact absurd again.2.2 (by decide)
      · exact .joined own.2 command channel own.1
    · simp only [channel, own, if_true, if_false]
      split
      · rename_i debug
        exact .debug debug.2.2
      · exact .same
  · simp only [channel, if_false]
    split
    · rename_i debug
      exact .debug debug.2.2
    · exact .same

theorem receive_received (none : p.debugChannel = []) : Received p m (p.receive m).1 := by
  unfold receive
  split
  · rename_i command
    exact welcome_received command
  · split
    · exact .same
    · split
      · rename_i command
        exact joined_received none command
      · split
        · unfold pongReceived
          split
          · rename_i state
            exact .answered state
          · exact .same
        · split
          · unfold collision
            split
            · rename_i state
              exact .collision state
            · exact .same
          · exact .same

theorem welcome_quiet : ∀ act ∈ (p.welcome m).2, Quiet act := by
  unfold IRCProtocol.welcome
  split
  · intro act member
    rcases List.mem_append.mp member with best | nick
    · split at best
      · split at best
        · rw [List.mem_singleton.mp best]
          exact quiet_app (by simp)
        · cases best
      · cases best
    · rw [List.mem_singleton.mp nick]
      exact quiet_app (by simp)
  · intro act member
    cases member

theorem joined_acts : (p.joined m).2 =
    if Concerns p.channel m ∧ ¬(p.Own m ∧ p.state = 6) then
      [.app (.userJoin m.getPrefixNick m.getPrefixName m.getPrefixHost)]
    else [] := by
  unfold IRCProtocol.joined
  by_cases channel : Concerns p.channel m
  · by_cases own : p.Own m ∧ p.state = 6 <;> simp [channel, own, apply_ite Prod.snd]
  · simp [channel, apply_ite Prod.snd]

theorem joined_quiet : ∀ act ∈ (p.joined m).2, Quiet act := by
  intro act member
  rw [joined_acts] at member
  split at member
  · rw [List.mem_singleton.mp member]
    exact quiet_app (by simp)
  · cases member

theorem tell_ne_setSendQ : ∀ call ∈ p.tell m, call ≠ .setSendQ := by
  intro call member
  rintro rfl
  unfold tell at member
  repeat' split at member
  all_goals simp at member

theorem receive_quiet : ∀ act ∈ .received m :: (p.receive m).2, Quiet act := by
  intro act member
  rcases List.mem_cons.mp member with rfl | done
  · exact quiet_received m
  · unfold receive at done
    split at done
    · exact welcome_quiet act done
    · split at done
      · rw [List.mem_singleton.mp done]
        exact quiet_pong m
      · split at done
        · exact joined_quiet act done
        · split at done
          · cases done
          · split at done
            · cases done
            · obtain ⟨call, told, rfl⟩ := List.mem_map.mp done
              exact quiet_app (tell_ne_setSendQ call told)

theorem Ordered.turn {state timer : Nat} (ordered : p.Ordered acts)
    (same : state = 11 ∨ state = 12 ↔ p.On) : Ordered { p with state, timer } acts where
  waited := ordered.waited.mono fun _ _ waited => ⟨waited.join, waited.who, waited.on⟩
  switched := by
    have on : On { p with state, timer } ↔ p.On := same
    simp only [on]
    exact ordered.switched
  asked := by
    have on : On { p with state, timer } ↔ p.On := same
    simp only [on]
    exact ordered.asked

/-- The login goes on with acts that need not wait for anything. -/
theorem LoggingIn.move {state timer : Nat} (sofar : p.LoggingIn acts) (plain : ∀ act ∈ more, Plain act)
    (same : state = 11 ∨ state = 12 ↔ p.On) (stage : Stage { p with state, timer } (acts ++ more)) :
    LoggingIn { p with state, timer } (acts ++ more) where
  debug := sofar.debug
  stage := stage
  ordered := (sofar.ordered.turn same).plain plain

theorem LoggingIn.receive (sofar : p.LoggingIn acts) (m : IRCMessage) :
    (p.receive m).1.LoggingIn (acts ++ .received m :: (p.receive m).2) := by
  have same : requests (acts ++ .received m :: (p.receive m).2) = requests acts := by
    rw [requests_append, Quiet.requests receive_quiet, List.append_nil]
  have plain : ∀ act ∈ .received m :: (p.receive m).2, Plain act :=
    fun act member => (receive_quiet act member).2
  have case := receive_received (m := m) sofar.debug
  generalize (p.receive m).1 = p' at case ⊢
  cases case with
  | same => exact sofar.quiet receive_quiet
  | welcome state command =>
      apply sofar.move plain (still_off (by omega) (by decide))
      cases sofar.stage
      case introduced _ nicks sent =>
        have introduced : .sent p.user ∈ acts := sent_of_mem_requests (by simp [sent])
        have here : Occurs p.Welcome (acts ++ [.received m]) := .snoc ⟨m, rfl, command, introduced⟩
        have welcome := here.append (p.receive m).2
        rw [List.append_assoc] at welcome
        exact .welcome rfl nicks (same.trans sent) welcome
      all_goals omega
  | joined state command channel own =>
      apply sofar.move plain (still_off (by omega) (by decide))
      cases sofar.stage
      case joining _ nicks sent =>
        have asked : .sent (join p.channel) ∈ acts := sent_of_mem_requests (by simp [sent])
        have here : Occurs p.Echo (acts ++ [.received m]) := .snoc ⟨m, rfl, command, channel, own, asked⟩
        have echo := here.append (p.receive m).2
        rw [List.append_assoc] at echo
        exact .joined rfl nicks (same.trans sent) echo
      all_goals omega
  | debug state => cases sofar.stage <;> omega
  | answered state =>
      apply sofar.move plain (still_on (.inr state) (.inl rfl))
      cases sofar.stage
      case on _ nicks pings sent => exact .on (.inl rfl) nicks pings (same.trans sent)
      all_goals omega
  | collision state =>
      apply sofar.move plain (still_off (by omega) (by decide))
      cases sofar.stage
      case named _ nicks sent => exact .named (.inr rfl) nicks (same.trans sent)
      all_goals omega

/-! The requests of the protocol. -/

theorem Free.plain_singleton (free : Free m) : ∀ act ∈ [ProtocolAct.sent m], Plain act := by
  intro act member
  rw [List.mem_singleton.mp member]
  exact free.plain

/-- As long as the client asks for a nick, nothing has had to wait. -/
theorem LoggingIn.plain (sofar : p.LoggingIn acts) {nicks : List Str}
    (sent : requests acts = p.named nicks) (off : ¬p.On) : ∀ act ∈ acts, Plain act := by
  intro act member
  cases act with
  | received m => trivial
  | failed => trivial
  | app call =>
      intro switch
      subst switch
      have none := sofar.ordered.switched
      rw [if_neg off] at none
      exact List.count_eq_zero.mp none member
  | sent m =>
      by_cases pong : m.command = str "PONG"
      · rw [Plain, pong]
        decide +kernel
      · have there : m ∈ requests acts :=
          List.mem_filterMap.mpr ⟨.sent m, member, by simp only [request, if_neg pong]⟩
        rw [sent] at there
        rcases List.mem_cons.mp there with rfl | taken
        · exact (free_pass p).plain
        · obtain ⟨name, -, rfl⟩ := List.mem_map.mp taken
          exact (free_nick name).plain

/-- Another nick is tried. -/
theorem LoggingIn.rename (sofar : p.LoggingIn acts) {nicks : List Str} (state : p.state = 3)
    (sent : requests acts = p.named nicks) (rand : Nat) :
    LoggingIn { p.chooseNewNick rand with timer := 10, state := 2 }
      (acts ++ [.sent (nick (p.chooseNewNick rand).currentNick)]) where
  debug := sofar.debug
  stage := by
    apply Stage.named (.inl rfl) (nicks ++ [p.currentNick])
    rw [requests_append, sent, (free_nick _).requests]
    simp [IRCProtocol.named, pass, chooseNewNick]
  ordered := by
    have off : ¬p.On := p.not_on (by omega)
    have still : ¬On { p.chooseNewNick rand with timer := 10, state := 2 } := by simp [On]
    refine Ordered.plain ⟨?_, ?_, ?_⟩ (free_nick _).plain_singleton
    · have all : Each (Waited { p.chooseNewNick rand with timer := 10, state := 2 }) ([] ++ acts) :=
        each_nil.append fun act member before => (sofar.plain sent off act member).waited before
      exact all
    · rw [if_neg still, sofar.ordered.switched, if_neg off]
    · have asked := sofar.ordered.asked
      rw [if_neg off] at asked
      rw [if_neg still]
      exact asked

theorem join_ne_who : str "JOIN" ≠ str "WHO" := by decide +kernel

/-- The client asks to join the channel. -/
theorem LoggingIn.ask (sofar : p.LoggingIn acts) {nicks : List Str} (state : p.state = 5)
    (sent : requests acts = p.named nicks ++ [p.user]) (welcome : Occurs p.Welcome acts) :
    LoggingIn { p with timer := 30, state := 6 } (acts ++ [.sent (join p.channel)]) where
  debug := sofar.debug
  stage := by
    apply Stage.joining rfl nicks
    have other : str "JOIN" ≠ str "PONG" := by decide +kernel
    have asked : requests [.sent (join p.channel)] = [join p.channel] := requests_sent other
    rw [requests_append, sent, asked, List.append_assoc]
    rfl
  ordered := by
    have off : ¬On { p with timer := 30, state := 6 } := by simp [On]
    obtain ⟨waited, switched, asked⟩ : Ordered { p with timer := 30, state := 6 } acts :=
      sofar.ordered.turn (still_off (by omega) (by decide))
    refine ⟨each_snoc.mpr ⟨waited, ?_⟩, ?_, ?_⟩
    · refine ⟨fun _ _ _ => welcome, ?_, fun switch => by cases switch⟩
      intro m same command
      cases same
      exact absurd command join_ne_who
    · rw [List.count_append, switched]
      rfl
    · have none : [ProtocolAct.sent (join p.channel)].count (.sent p.who) = 0 := by
        apply List.count_eq_zero.mpr
        intro member
        have same := ProtocolAct.sent.inj (List.mem_singleton.mp member)
        exact join_ne_who (congrArg IRCMessage.command same).symm
      rw [List.count_append, asked.trans (if_neg off), if_neg off]
      exact none

/-- The `WHO` leaves and the application is switched on. -/
theorem LoggingIn.switchOn (sofar : p.LoggingIn acts) {nicks : List Str} (state : p.state = 10)
    (sent : requests acts = p.named nicks ++ [p.user, join p.channel]) (echo : Occurs p.Echo acts) :
    LoggingIn { p with timer := p.pingTimer, state := 11 } (acts ++ [.sent p.who, .app .setSendQ]) where
  debug := sofar.debug
  stage := by
    apply Stage.on (.inl rfl) nicks 0
    have other : str "WHO" ≠ str "PONG" := by decide +kernel
    have who : requests [.sent p.who] = [p.who] := requests_sent other
    have both : requests [.sent p.who, .app .setSendQ] = [p.who] := who
    rw [requests_append, sent, both]
    simp [IRCProtocol.named, pass, user, IRCProtocol.who]
  ordered := by
    have off : ¬p.On := p.not_on (by omega)
    have now : On { p with timer := p.pingTimer, state := 11 } := .inl rfl
    have split : acts ++ [.sent p.who, .app .setSendQ] = (acts ++ [.sent p.who]) ++ [.app .setSendQ] := by
      simp
    refine ⟨?_, ?_, ?_⟩
    · rw [split, each_snoc, each_snoc]
      refine ⟨⟨sofar.ordered.waited.mono fun _ _ w => ⟨w.join, w.who, w.on⟩, ?_⟩, ?_⟩
      · refine ⟨?_, fun _ _ _ => echo, fun switch => by cases switch⟩
        intro m sent command
        cases sent
        exact absurd command.symm join_ne_who
      · exact ⟨fun m sent => (by cases sent), fun m sent => (by cases sent), fun _ => by simp; rfl⟩
    · rw [if_pos now, List.count_append, sofar.ordered.switched, if_neg off]
      rfl
    · have asked := sofar.ordered.asked
      rw [if_neg off] at asked
      rw [if_pos now, List.count_append]
      have one : [ProtocolAct.sent p.who, .app .setSendQ].count (.sent p.who) = 1 := by
        rw [List.count_cons_self]
        rfl
      exact congrArg₂ (· + ·) asked one

theorem LoggingIn.advance (sofar : p.LoggingIn acts) (rand : Nat) :
    (p.advance rand).2.1.LoggingIn (acts ++ (p.advance rand).2.2) := by
  have idle : p.LoggingIn (acts ++ []) := by rwa [List.append_nil]
  cases sofar.stage with
  | opened state sent =>
      simp only [IRCProtocol.advance, state]
      have plain : ∀ act ∈ [.sent p.pass, .sent (nick p.currentNick)], Plain act := by
        intro act member
        rcases List.mem_cons.mp member with rfl | second
        · exact (free_pass p).plain
        · exact (free_nick p.currentNick).plain_singleton act second
      apply sofar.move plain (still_off (by omega) (by decide))
      apply Stage.named (.inl rfl) []
      have both : requests ([.sent p.pass] ++ [.sent (nick p.currentNick)]) = [p.pass, nick p.currentNick] := by
        rw [requests_append, (free_pass p).requests, (free_nick p.currentNick).requests]
        rfl
      rw [requests_append, sent]
      exact both
  | named state nicks sent =>
      rcases state with two | three
      · simp only [IRCProtocol.advance, two]
        split
        · apply sofar.move (free_user p).plain_singleton (still_off (by omega) (by decide))
          apply Stage.introduced rfl nicks
          rw [requests_append, sent, (free_user p).requests]
          rfl
        · exact idle
      · simp only [IRCProtocol.advance, three]
        split
        · exact sofar.rename three sent rand
        · exact idle
  | introduced state nicks sent =>
      simp only [IRCProtocol.advance, state]
      exact idle
  | welcome state nicks sent welcome =>
      simp only [IRCProtocol.advance, state]
      exact sofar.ask state sent welcome
  | joining state nicks sent =>
      simp only [IRCProtocol.advance, state]
      exact idle
  | joined state nicks sent echo =>
      simp only [IRCProtocol.advance, state]
      exact sofar.switchOn state sent echo
  | on state nicks pings sent =>
      rcases state with waiting | asked
      · simp only [IRCProtocol.advance, waiting]
        split
        · apply sofar.move (free_ping p.currentNick).plain_singleton (still_on (.inl waiting) (.inr rfl))
          apply Stage.on (.inr rfl) nicks (pings + 1)
          rw [requests_append, sent, (free_ping p.currentNick).requests, List.replicate_succ',
            ← List.append_assoc]
          rfl
        · exact idle
      · simp only [IRCProtocol.advance, asked]
        exact idle

theorem LoggingIn.receiveAll (sofar : p.LoggingIn acts) (ms : List IRCMessage) :
    (p.receiveAll ms).2.1.LoggingIn (acts ++ (p.receiveAll ms).2.2) := by
  induction ms generalizing p acts with
  | nil => simpa [IRCProtocol.receiveAll] using sofar
  | cons m ms ih =>
      unfold IRCProtocol.receiveAll
      split
      · apply sofar.quiet
        intro act member
        rw [List.mem_singleton.mp member]
        exact quiet_received m
      · have rest := ih (sofar.receive m)
        simpa using rest

/-- The countdown. -/
theorem LoggingIn.clock (sofar : p.LoggingIn acts) : LoggingIn { p with timer := p.timer - 1 } acts := by
  have same : _ → LoggingIn { p with timer := p.timer - 1 } (acts ++ []) :=
    sofar.move (by simp) Iff.rfl
  rw [List.append_nil] at same
  apply same
  cases sofar.stage with
  | opened state sent => exact .opened state sent
  | named state nicks sent => exact .named state nicks sent
  | introduced state nicks sent => exact .introduced state nicks sent
  | welcome state nicks sent welcome => exact .welcome state nicks sent welcome
  | joining state nicks sent => exact .joining state nicks sent
  | joined state nicks sent echo => exact .joined state nicks sent echo
  | on state nicks pings sent => exact .on state nicks pings sent

theorem LoggingIn.processQueues (sofar : p.LoggingIn acts) (received : List IRCMessage) (rand : Nat) :
    (p.processQueues received rand).2.1.LoggingIn (acts ++ (p.processQueues received rand).2.2) := by
  have got := sofar.clock.receiveAll received
  simp only [IRCProtocol.processQueues]
  split
  · have done := got.advance rand
    simpa using done
  · exact got

theorem LoggingIn.step (sofar : p.LoggingIn acts) {p' : IRCProtocol} {received : List IRCMessage}
    {rand : Nat} {outs : List ProtocolAct}
    (taken : IRCProtocol.step p (.processQueues received rand) = .ok (p', outs)) :
    p'.LoggingIn (acts ++ outs) := by
  simp only [IRCProtocol.step, Except.ok.injEq, Prod.mk.injEq] at taken
  obtain ⟨rfl, rfl⟩ := taken
  have done := sofar.processQueues received rand
  rw [← List.append_assoc]
  apply done.quiet
  intro act member
  split at member
  · cases member
  · rw [List.mem_singleton.mp member]
    exact quiet_failed

/-- The network is ready: a login begins. -/
theorem opened (none : p.debugChannel = []) (rand : Nat) : (p.setNetworkReady true rand).LoggingIn [] where
  debug := none
  stage := .opened rfl rfl
  ordered := ⟨each_nil, rfl, rfl⟩

end

/-! There is no debug channel. -/

theorem Received.debugChannel {p p' : IRCProtocol} {m : IRCMessage} (received : Received p m p') :
    p'.debugChannel = p.debugChannel := by
  cases received <;> rfl

theorem receiveAll_debugChannel (p : IRCProtocol) (none : p.debugChannel = []) (ms : List IRCMessage) :
    (p.receiveAll ms).2.1.debugChannel = [] := by
  induction ms generalizing p with
  | nil => exact none
  | cons m ms ih =>
      unfold receiveAll
      split
      · exact none
      · exact ih _ ((receive_received none).debugChannel.trans none)

theorem advance_debugChannel (p : IRCProtocol) (rand : Nat) :
    (p.advance rand).2.1.debugChannel = p.debugChannel := by
  unfold advance
  repeat' split
  all_goals rfl

theorem debugChannel_step {p p' : IRCProtocol} {e : ProtocolEvent} {outs : List ProtocolAct}
    (none : p.debugChannel = []) (taken : step p e = .ok (p', outs)) : p'.debugChannel = [] := by
  cases e with
  | setNetworkReady ready rand =>
      simp only [step, Except.ok.injEq, Prod.mk.injEq] at taken
      rw [← taken.1]
      cases ready <;> exact none
  | processQueues received rand =>
      simp only [step, Except.ok.injEq, Prod.mk.injEq] at taken
      rw [← taken.1]
      have got := receiveAll_debugChannel { p with timer := p.timer - 1 } none received
      simp only [processQueues]
      split
      · exact (advance_debugChannel _ rand).trans got
      · exact got

/-- After each `setNetworkReady(true)`, the calls of `processQueues` make a handshake. -/
theorem login_handshake {callsign password channel versionInfo : Str} {rand rand' : Nat} {p : IRCProtocol}
    {tr session : List ProtocolEntry} {x : ProtocolEntry}
    (run : Run step (init callsign password channel versionInfo rand) (tr ++ x :: session) p)
    (ready : x.event = .setNetworkReady true rand') (polls : ∀ y ∈ session, y.event.isPoll) :
    p.Handshake (session.flatMap (·.outs)) := by
  have all : ∀ {tr : List ProtocolEntry} {p : IRCProtocol},
      Run step (init callsign password channel versionInfo rand) tr p → p.debugChannel = [] ∧
        ∀ before x session, tr = before ++ x :: session → (∃ rand', x.event = .setNetworkReady true rand') →
          (∀ y ∈ session, y.event.isPoll) → p.LoggingIn (session.flatMap (·.outs)) := by
    intro tr p run
    induction run with
    | nil =>
        refine ⟨rfl, ?_⟩
        intro before x session split
        simp at split
    | @snoc tr s e s' o earlier last ih =>
        obtain ⟨none, sofar⟩ := ih
        refine ⟨debugChannel_step none last, ?_⟩
        intro before x session split ready polls
        rcases snoc_split.mp split with ⟨-, rfl, rfl⟩ | ⟨rest, rfl, shorter⟩
        · obtain ⟨rand', event⟩ := ready
          dsimp only at event
          subst event
          cases last
          exact opened none rand'
        · have before := sofar before x rest shorter ready fun y member => polls y (by simp [member])
          have poll := polls ⟨s, e, o, s'⟩ (by simp)
          cases e with
          | setNetworkReady ready rand => cases poll
          | processQueues received rand => simpa using before.step last
  exact ((all run).2 tr x session rfl ⟨rand', ready⟩ polls).handshake

end IRCProtocol

/-! A login in which the first nick is taken. -/
namespace Sample

def client : IRCProtocol := .init (str "ab1cde") (str "secret") (str "#dstar") [] 0

def poll (received : List IRCMessage) : ProtocolEvent := .processQueues received 1

def logIn : List ProtocolEvent :=
  .setNetworkReady true 0 :: poll [] :: poll [⟨str "irc", str "433", [str "*", str "ab1cde-1"]⟩] ::
    (List.replicate 20 (poll []) ++ [poll [⟨str "irc", str "004", [str "ab1cde-2", str "grp1s1.ircDDB"]⟩],
      poll [⟨str "ab1cde-2!ab1cde@10.0.0.1", str "JOIN", [str "#dstar"]⟩]] ++
      List.replicate 60 (poll []))

end Sample

namespace IRCProtocol

theorem login_completes : ∃ x session p, Run step Sample.client ([] ++ x :: session) p ∧
    (requests (session.flatMap (·.outs))).map (·.command) =
      [str "PASS", str "NICK", str "NICK", str "USER", str "JOIN", str "WHO", str "PING"] ∧
    p.Handshake (session.flatMap (·.outs)) := by
  obtain ⟨tr, p, run, checked⟩ := exists_run_of_accepts step Sample.client Sample.logIn
    (fun tr _ => decide (tr.head?.map (·.event) = some (.setNetworkReady true 0)) &&
      (tr.tail.all (·.event.isPoll) && decide ((requests (tr.tail.flatMap (·.outs))).map (·.command) =
        [str "PASS", str "NICK", str "NICK", str "USER", str "JOIN", str "WHO", str "PING"])))
    (by decide +kernel)
  simp only [Bool.and_eq_true, decide_eq_true_eq, List.all_eq_true] at checked
  obtain ⟨ready, polls, commands⟩ := checked
  cases tr with
  | nil => cases ready
  | cons x session =>
      have ready : x.event = .setNetworkReady true 0 := by simpa using ready
      have whole : Run step _ ([] ++ x :: session) p := run
      exact ⟨x, session, p, run, commands, login_handshake whole ready polls⟩

end IRCProtocol
end SmartGroup
