import SmartGroup.Irc.Protocol
import SmartGroup.Irc.Receiver

/-! `IRCClient::Entry`, with the two queues between the client and the other threads. Its
steps are the passes of its loops; the other threads may do something between any two. -/
namespace SmartGroup
open Bytes Machine

/-- The messages of `recvQ` and its end, and the messages of `sendQ`. -/
structure ClientQueues where
  received : List IRCMessage
  eof : Bool
  sending : List IRCMessage

/-- Where `Entry` is: at its `switch`, within `processQueues` with messages still to put and
the result, or in the loop that sends. -/
inductive ClientPhase where
  | top
  | putting (messages : List IRCMessage) (res : Bool)
  | sending

/-- Why the connection is given up. -/
inductive GivenUp where
  | terminated
  | eof
  | protocol
  | shortWrite
  | noNewline
  deriving DecidableEq, Repr

inductive ClientOutput where
  | opened
  | put (m : IRCMessage)
  | wrote (bytes : Str)
  | drained
  | app (call : AppCall)
  | gaveUp (why : GivenUp)
  | closed
  deriving DecidableEq, Repr

inductive ClientFault where
  | noQueue
  | failure (f : Failure)

/-- `queued` is a message of the application. A pass comes with the result of `Open` and of
`rand()`, a turn of the sending loop with that of `Write`, which says whether it was short. -/
inductive ClientEvent where
  | pass (opened : Bool) (rand : Nat)
  | putNext
  | sendNext (short : Bool)
  | received (m : IRCMessage)
  | signalEOF
  | queued (m : IRCMessage)
  | stopWork
  deriving DecidableEq

structure IRCClient where
  state : Nat
  timer : Nat
  terminateThread : Bool
  ended : Bool
  phase : ClientPhase
  proto : IRCProtocol
  queues : Option ClientQueues

/-- The bytes in front of the terminator in a buffer of `bufSize` bytes. -/
def safeStringCopy (src : Str) (bufSize : Nat) : Str := (src.takeWhile (· ≠ 0)).take (bufSize - 1)

/-- The message that an act puts on the send queue. -/
def ProtocolAct.message : ProtocolAct → Option IRCMessage
  | .sent m => some m
  | _ => none

def ProtocolAct.call : ProtocolAct → Option AppCall
  | .app call => some call
  | _ => none

def ProtocolAct.isReceived : ProtocolAct → Bool
  | .received _ => true
  | _ => false

namespace IRCClient

def init (proto : IRCProtocol) : IRCClient := ⟨0, 0, false, false, .top, proto, none⟩

def giveUp (c : IRCClient) : IRCClient := { c with timer := 0, state := 6, phase := .top }

def pass (c : IRCClient) (opened : Bool) (rand : Nat) :
    Except ClientFault (IRCClient × List ClientOutput) :=
  let c := { c with timer := c.timer - 1 }
  match c.state with
  | 0 =>
      if c.terminateThread then .ok ({ c with ended := true }, [])
      else if c.timer = 0 then
        .ok (if opened then { c with timer := 0, state := 4 } else { c with timer := 30 }, [])
      else .ok (c, [])
  | 4 =>
      .ok ({ c with
        queues := some ⟨[], false, []⟩
        proto := c.proto.setNetworkReady true rand
        state := 5
        timer := 0 }, [.opened])
  | 5 =>
      if c.terminateThread then .ok ({ c with state := 6 }, [.gaveUp .terminated])
      else
        match c.queues with
        | none => .error .noQueue
        | some q =>
            if q.eof then .ok (c.giveUp, [.gaveUp .eof])
            else
              let (res, proto, acts) := c.proto.processQueues q.received rand
              .ok ({ c with
                proto
                queues := some { q with received := q.received.drop (acts.countP (·.isReceived)) }
                phase := .putting (acts.filterMap (·.message)) res },
                (acts.filterMap (·.call)).map .app)
  | 6 =>
      -- the messages left on the queues are deleted with them
      let c := { c with queues := none, proto := c.proto.setNetworkReady false rand }
      if c.terminateThread then .ok ({ c with ended := true }, [.closed])
      else .ok ({ c with timer := 30, state := 0 }, [.closed])
  | _ => .ok (c, [])

/-- The end of a put, or of `processQueues`. -/
def putNext (c : IRCClient) : Except ClientFault (IRCClient × List ClientOutput) :=
  match c.phase with
  | .putting (m :: messages) res =>
      match c.queues with
      | none => .error .noQueue
      | some q =>
          .ok ({ c with phase := .putting messages res, queues := some { q with sending := q.sending ++ [m] } },
            [.put m])
  | .putting [] res =>
      if res then .ok ({ c with phase := .sending }, []) else .ok (c.giveUp, [.gaveUp .protocol])
  | _ => .ok (c, [])

/-- A turn of the loop that sends. -/
def sendNext (c : IRCClient) (short : Bool) : Except ClientFault (IRCClient × List ClientOutput) :=
  match c.phase with
  | .sending =>
      match c.queues with
      | none => .error .noQueue
      | some q =>
          match q.sending with
          | [] => .ok ({ c with phase := .top }, [.drained])
          | m :: rest =>
              match m.wire.composeMessage with
              | .error e => .error (.failure e)
              | .ok out =>
                  let buf := safeStringCopy out 200
                  let c := { c with queues := some { q with sending := rest } }
                  match buf.getLast? with
                  -- `buf[len - 1]` of an empty text
                  | none => .error (.failure .overread)
                  | some last =>
                      if last = 10 then
                        if short then .ok (c.giveUp, [.wrote buf, .gaveUp .shortWrite])
                        else .ok (c, [.wrote buf])
                      else .ok (c.giveUp, [.gaveUp .noNewline])
  | _ => .ok (c, [])

def step : Machine.Step IRCClient ClientEvent ClientOutput ClientFault
  | c, .pass opened rand =>
      match c.phase with
      | .top => if c.ended then .ok (c, []) else c.pass opened rand
      | _ => .ok (c, [])
  | c, .putNext => c.putNext
  | c, .sendNext short => c.sendNext short
  | c, .received m =>
      .ok ({ c with queues := c.queues.map fun q => { q with received := q.received ++ [m] } }, [])
  | c, .signalEOF => .ok ({ c with queues := c.queues.map fun q => { q with eof := true } }, [])
  | c, .queued m =>
      match c.queues with
      | none => .ok (c, [])
      | some q => .ok ({ c with queues := some { q with sending := q.sending ++ [m] } }, [.put m])
  | c, .stopWork => .ok ({ c with terminateThread := true }, [])

abbrev ClientEntry := Entry IRCClient ClientEvent ClientOutput

end IRCClient
end SmartGroup
