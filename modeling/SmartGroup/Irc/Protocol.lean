import SmartGroup.Irc.Message
import SmartGroup.Support.Machine

/-! `IRCProtocol`, the login to the IRC network and the dispatch of what comes from it,
as a machine. Its steps are the calls of the IRC client; `rand()` is an input. -/
namespace SmartGroup
open Bytes Machine

/-- The calls to the application, which is always there when the protocol is used. -/
inductive AppCall where
  | setBestServer (server : Str)
  | setCurrentNick (nick : Str)
  | userJoin (nick name addr : Str)
  | userLeave (nick : Str)
  | msgChannel (m : IRCMessage)
  | msgQuery (m : IRCMessage)
  | setTopic (topic : Str)
  | setSendQ
  deriving DecidableEq, Repr

/-- What `processQueues` does, in order: it takes a message from the queue, puts one on
the send queue, calls the application, or fails. -/
inductive ProtocolAct where
  | received (m : IRCMessage)
  | sent (m : IRCMessage)
  | app (call : AppCall)
  | failed
  deriving DecidableEq, Repr

/-- `received` has the messages that are there when `processQueues` looks for them. -/
inductive ProtocolEvent where
  | setNetworkReady (ready : Bool) (rand : Nat)
  | processQueues (received : List IRCMessage) (rand : Nat)
  deriving DecidableEq

def ProtocolEvent.isPoll : ProtocolEvent → Bool
  | .setNetworkReady _ _ => false
  | .processQueues _ _ => true

/-- `debugChannel` is never assigned. -/
structure IRCProtocol where
  nicks : Vector Str 4
  password : Str
  channel : Str
  name : Str
  currentNick : Str
  versionInfo : Str
  debugChannel : Str
  state : Nat
  timer : Nat
  pingTimer : Nat

/-- `serverNamePattern`, `^grp[1-9]s[1-9].ircDDB$`; its dot is any character of the line. -/
def serverNamePattern : Str → Bool
  | [g, r, p, d, s, f, c, i, k, n, x, y, b] =>
      [g, r, p] == str "grp" && (49 ≤ d && d ≤ 57) && s == 115 && (49 ≤ f && f ≤ 57) &&
        (c != 10 && c != 13) && [i, k, n, x, y, b] == str "ircDDB"
  | _ => false

namespace IRCProtocol

def nicksOf (callsign : Str) : Vector Str 4 :=
  if 45 ∈ callsign then #v[callsign, callsign, callsign, callsign]
  else #v[callsign ++ str "-1", callsign ++ str "-2", callsign ++ str "-3", callsign ++ str "-4"]

def chooseNewNick (p : IRCProtocol) (rand : Nat) : IRCProtocol :=
  { p with currentNick := p.nicks.get (Fin.ofNat 4 rand) }

/-- `Init`. -/
def init (callsign password channel versionInfo : Str) (rand : Nat) : IRCProtocol :=
  chooseNewNick
    { nicks := nicksOf callsign
      password := password
      channel := channel
      name := callsign
      currentNick := []
      versionInfo := str "CIRCDDB:2.0.0" ++ if versionInfo = [] then [] else 32 :: versionInfo
      debugChannel := []
      state := 0
      timer := 0
      pingTimer := 60 } rand

def setNetworkReady (p : IRCProtocol) (ready : Bool) (rand : Nat) : IRCProtocol :=
  if ready then { p with state := 1 }.chooseNewNick rand else { p with state := 0 }

/-! The messages that the protocol puts on the send queue. -/

def pass (p : IRCProtocol) : IRCMessage := (IRCMessage.ofCommand (str "PASS")).addParam p.password

def nick (nick : Str) : IRCMessage := (IRCMessage.ofCommand (str "NICK")).addParam nick

def user (p : IRCProtocol) : IRCMessage :=
  ((((IRCMessage.ofCommand (str "USER")).addParam p.name).addParam (str "0")).addParam
    (str "*")).addParam p.versionInfo

def join (channel : Str) : IRCMessage := (IRCMessage.ofCommand (str "JOIN")).addParam channel

def who (p : IRCProtocol) : IRCMessage :=
  ((IRCMessage.ofCommand (str "WHO")).addParam p.channel).addParam (str "*")

def ping (nick : Str) : IRCMessage := (IRCMessage.ofCommand (str "PING")).addParam nick

def pong (m : IRCMessage) : IRCMessage :=
  match m.params with
  | [] => .ofCommand (str "PONG")
  | text :: _ => (IRCMessage.ofCommand (str "PONG")).addParam text

/-! What comes from the network, by commands. -/

/-- The message is about the channel, or about the debug channel. -/
def Concerns (channel : Str) (m : IRCMessage) : Prop := m.params.head? = some channel

instance (channel : Str) (m : IRCMessage) : Decidable (Concerns channel m) :=
  inferInstanceAs (Decidable (_ = _))

def welcome (p : IRCProtocol) (m : IRCMessage) : IRCProtocol × List ProtocolAct :=
  if p.state = 4 then
    let best := match m.params with
      | _ :: server :: _ =>
          if serverNamePattern server then
            [.app (.setBestServer (str "s-" ++ server.take 6))]
          else []
      | _ => []
    ({ p with state := 5 }, best ++ [.app (.setCurrentNick p.currentNick)])
  else (p, [])

/-- The message comes from the client itself. -/
def Own (p : IRCProtocol) (m : IRCMessage) : Prop := m.getPrefixNick = p.currentNick

instance (p : IRCProtocol) (m : IRCMessage) : Decidable (p.Own m) :=
  inferInstanceAs (Decidable (_ = _))

/-- The client has joined, or a user has. -/
def joined (p : IRCProtocol) (m : IRCMessage) : IRCProtocol × List ProtocolAct :=
  let seen : IRCProtocol × List ProtocolAct :=
    if Concerns p.channel m then
      if p.Own m ∧ p.state = 6 then ({ p with state := if p.debugChannel ≠ [] then 7 else 10 }, [])
      else (p, [.app (.userJoin m.getPrefixNick m.getPrefixName m.getPrefixHost)])
    else (p, [])
  if Concerns p.debugChannel m ∧ p.Own m ∧ seen.1.state = 8 then ({ seen.1 with state := 10 }, seen.2)
  else seen

def pongReceived (p : IRCProtocol) : IRCProtocol :=
  if p.state = 12 then { p with timer := p.pingTimer, state := 11 } else p

def collision (p : IRCProtocol) : IRCProtocol :=
  if p.state = 2 then { p with state := 3, timer := 10 } else p

/-- A `KICK` of the client itself. -/
def Kicked (p : IRCProtocol) (m : IRCMessage) : Prop :=
  m.command = str "KICK" ∧ Concerns p.channel m ∧ m.params[1]? = some p.currentNick

instance (p : IRCProtocol) (m : IRCMessage) : Decidable (p.Kicked m) :=
  inferInstanceAs (Decidable (_ ∧ _ ∧ _))

/-- The calls to the application for the messages that leave the protocol as it is. -/
def tell (p : IRCProtocol) (m : IRCMessage) : List AppCall :=
  if m.command = str "PART" then
    if Concerns p.channel m then [.userLeave m.getPrefixNick] else []
  else if m.command = str "KICK" then
    match m.params with
    | _ :: kicked :: _ => if Concerns p.channel m then [.userLeave kicked] else []
    | _ => []
  else if m.command = str "QUIT" then [.userLeave m.getPrefixNick]
  else if m.command = str "PRIVMSG" then
    if m.numParams = 2 then
      if Concerns p.channel m then [.msgChannel m]
      else if Concerns p.currentNick m then [.msgQuery m]
      else []
    else []
  else if m.command = str "352" then
    match m.params with
    | target :: channel :: name :: host :: _ :: nick :: _ :: _ =>
        if target = p.currentNick ∧ channel = p.channel then [.userJoin nick name host] else []
    | _ => []
  else if m.command = str "332" ∨ m.command = str "TOPIC" then
    match m.params with
    | [channel, topic] => if channel = p.channel then [.setTopic topic] else []
    | _ => []
  else []

/-- A message of the network that is not a `KICK` of the client. -/
def receive (p : IRCProtocol) (m : IRCMessage) : IRCProtocol × List ProtocolAct :=
  if m.command = str "004" then p.welcome m
  else if m.command = str "PING" then (p, [.sent (pong m)])
  else if m.command = str "JOIN" then p.joined m
  else if m.command = str "PONG" then (p.pongReceived, [])
  else if m.command = str "433" then (p.collision, [])
  else (p, (p.tell m).map .app)

/-- The loop over the messages that are there, which stops at a `KICK` of the client. -/
def receiveAll : IRCProtocol → List IRCMessage → Bool × IRCProtocol × List ProtocolAct
  | p, [] => (true, p, [])
  | p, m :: ms =>
      if p.Kicked m then (false, p, [.received m])
      else
        let first := p.receive m
        let rest := first.1.receiveAll ms
        (rest.1, rest.2.1, .received m :: first.2 ++ rest.2.2)

/-- The `switch` of `processQueues`, by states. -/
def advance (p : IRCProtocol) (rand : Nat) : Bool × IRCProtocol × List ProtocolAct :=
  match p.state with
  | 1 =>
      (true, { p with timer := 10, state := 2 }, [.sent p.pass, .sent (nick p.currentNick)])
  | 2 =>
      if p.timer = 0 then (true, { p with timer := 30, state := 4 }, [.sent p.user])
      else (true, p, [])
  | 3 =>
      if p.timer = 0 then
        let p := p.chooseNewNick rand
        (true, { p with timer := 10, state := 2 }, [.sent (nick p.currentNick)])
      else (true, p, [])
  | 4 => (p.timer ≠ 0, p, [])
  | 5 => (true, { p with timer := 30, state := 6 }, [.sent (join p.channel)])
  | 6 => (p.timer ≠ 0, p, [])
  | 7 =>
      if p.debugChannel = [] then (false, p, [])
      else (true, { p with timer := 30, state := 8 }, [.sent (join p.debugChannel)])
  | 8 => (p.timer ≠ 0, p, [])
  | 10 =>
      (true, { p with timer := p.pingTimer, state := 11 }, [.sent p.who, .app .setSendQ])
  | 11 =>
      if p.timer = 0 then
        (true, { p with timer := p.pingTimer, state := 12 }, [.sent (ping p.currentNick)])
      else (true, p, [])
  | 12 => (p.timer ≠ 0, p, [])
  | _ => (true, p, [])

def processQueues (p : IRCProtocol) (received : List IRCMessage) (rand : Nat) :
    Bool × IRCProtocol × List ProtocolAct :=
  let got := { p with timer := p.timer - 1 }.receiveAll received
  if got.1 then
    let done := got.2.1.advance rand
    (done.1, done.2.1, got.2.2 ++ done.2.2)
  else got

def step : Machine.Step IRCProtocol ProtocolEvent ProtocolAct Empty
  | p, .setNetworkReady ready rand => .ok (p.setNetworkReady ready rand, [])
  | p, .processQueues received rand =>
      let done := p.processQueues received rand
      .ok (done.2.1, done.2.2 ++ if done.1 then [] else [.failed])

abbrev ProtocolEntry := Entry IRCProtocol ProtocolEvent ProtocolAct

end IRCProtocol
end SmartGroup
