import SmartGroup.GroupLink
import SmartGroup.LinkPacket
import SmartGroup.Support.Registry

/-! The members and operations that `CDExtraHandler` and `CDCSHandler` share. A handler
points to one of the `n` groups, which live as long as the server. The white and the
black list are left out: nothing sets them. -/
namespace SmartGroup
open Bytes

/-- `DSTAR_PROTOCOL`. -/
inductive DStarProtocol where
  | dextra
  | dcs
  deriving DecidableEq, Repr

/-- `DEXTRA_STATE` and `DCS_STATE`. -/
inductive LinkState where
  | linking
  | linked
  | unlinking
  deriving DecidableEq, Repr

/-- What a handler writes to its own socket, and what its group puts out in a call. -/
inductive HandlerOutput where
  | connect (connect : ConnectData)
  | poll (poll : PollData)
  | header (header : HeaderData)
  | ambe (data : AMBEData)
  | group (out : Output)
  deriving DecidableEq, Repr

structure LinkHandler (n : Nat) where
  reflector : Str
  repeater : Str
  yourAddress : Str
  yourPort : Nat
  direction : Direction
  linkState : LinkState
  destination : Fin n
  pollTimer : Timer
  pollInactivityTimer : Timer
  tryTimer : Timer
  tryCount : Nat
  /-- `m_dExtraId` or `m_dcsId`, the stream that comes in. -/
  id : Nat
  seq : Nat
  inactivityTimer : Timer

/-- The link of a handler, without the voice and the timers. -/
structure Link (n : Nat) where
  protocol : DStarProtocol
  destination : Fin n
  direction : Direction
  reflector : Str
  state : LinkState
  deriving DecidableEq

namespace LinkHandler

variable {n : Nat}

def link (protocol : DStarProtocol) (h : LinkHandler n) : Link n :=
  ⟨protocol, h.destination, h.direction, h.reflector, h.linkState⟩

/-- The common part of the constructors. -/
def new (destination : Fin n) (reflector repeater address : Str) (port : Nat) (direction : Direction)
    (poll pollInactivity : Nat) : LinkHandler n where
  reflector := reflector
  repeater := repeater
  yourAddress := address
  yourPort := port
  direction := direction
  linkState := if direction = .incoming then .linked else .linking
  destination := destination
  pollTimer :=
    let timer := Timer.new 1000 poll 0
    if direction = .incoming then timer.start else timer
  pollInactivityTimer := (Timer.new 1000 pollInactivity 0).start
  tryTimer :=
    let timer := Timer.new 1000 1 0
    if direction = .incoming then timer else timer.start
  tryCount := 0
  id := 0
  seq := 0
  inactivityTimer := Timer.new 1000 networkTimeout 0

/-- `calcBackoff`: the seconds to the next attempt after `tryCount` attempts. -/
def calcBackoff (tryCount : Nat) : Nat :=
  if 7 ≤ tryCount then 60 else if 60 < 2 ^ tryCount then 60 else 2 ^ tryCount

/-- The next attempt is scheduled. -/
def tryAgain (h : LinkHandler n) : LinkHandler n :=
  { h with tryTimer := h.tryTimer.startFor (calcBackoff h.tryCount) 0, tryCount := h.tryCount + 1 }

/-- A first attempt, to link or to unlink, has just been sent. -/
def attempt (h : LinkHandler n) (linkState : LinkState) : LinkHandler n :=
  { h with linkState, tryTimer := h.tryTimer.startFor 1 0, tryCount := 0 }

/-- The four timers advance. -/
def clock (ms : Nat) (h : LinkHandler n) : LinkHandler n :=
  { h with
    pollInactivityTimer := h.pollInactivityTimer.clock ms
    inactivityTimer := h.inactivityTimer.clock ms
    pollTimer := h.pollTimer.clock ms
    tryTimer := h.tryTimer.clock ms }

/-- The incoming stream is forgotten. -/
def clearStream (h : LinkHandler n) : LinkHandler n := { h with id := 0, seq := 0 }

/-- A voice frame of the incoming stream has come. -/
def heard (h : LinkHandler n) (seq : Nat) : LinkHandler n :=
  { h with
    pollInactivityTimer := h.pollInactivityTimer.start
    inactivityTimer := h.inactivityTimer.start
    seq }

/-- A new stream comes in. -/
def opened (h : LinkHandler n) (id : Nat) : LinkHandler n :=
  { h with id, seq := 0, inactivityTimer := h.inactivityTimer.start }

/-- The stream has ended. -/
def ended (h : LinkHandler n) : LinkHandler n :=
  { h.clearStream with inactivityTimer := h.inactivityTimer.stop }

/-- The handlers that `unlink(group, callsign, exclude)` is for. -/
def Selected (group : Fin n) (callsign : Str) (exclude : Bool) (h : LinkHandler n) : Prop :=
  h.destination = group ∧
    (exclude = true ∧ h.direction = .outgoing ∧ h.reflector ≠ callsign ∨
      exclude = false ∧ h.reflector = callsign)

instance (group : Fin n) (callsign : Str) (exclude : Bool) (h : LinkHandler n) :
    Decidable (h.Selected group callsign exclude) :=
  inferInstanceAs (Decidable (_ ∧ (_ ∧ _ ∧ _ ∨ _ ∧ _)))

/-- The state is linking or linked. -/
def Active (h : LinkHandler n) : Prop := h.linkState = .linking ∨ h.linkState = .linked

instance (h : LinkHandler n) : Decidable h.Active := inferInstanceAs (Decidable (_ ∨ _))

/-- The end of transmission for the group when a stream comes in over the link. -/
def endOfTransmission (env : Env) (g : GroupHandler) (h : LinkHandler n) :
    GroupHandler × List HandlerOutput :=
  if h.id = 0 then (g, [])
  else
    let seq := if h.seq + 1 = 21 then 0 else h.seq + 1
    let data := (((AMBEData.blank.setData GroupHandler.endPatternBytes).setSeq seq).setEnd).setId h.id
    let processed := g.processReflectorAMBE env data
    (processed.2.1, processed.2.2.map .group)

/-- The module that the headers of incoming voice must name. -/
def partner (h : LinkHandler n) : Str :=
  match h.direction with
  | .outgoing => h.reflector
  | .incoming => h.repeater

/-- The header of a stream, as a handler passes it on. -/
def relayed (header : HeaderData) : HeaderData := header.setCQCQCQ.setFlags 0x00 0x00 0x00

/-- The address test of `processInt(CConnectData &, CD_TYPE)`. -/
def From (connect : ConnectData) (h : LinkHandler n) : Prop :=
  h.yourAddress = connect.yourAddress ∧ h.yourPort = connect.yourPort

instance (connect : ConnectData) (h : LinkHandler n) : Decidable (h.From connect) :=
  inferInstanceAs (Decidable (_ ∧ _))

end LinkHandler
end SmartGroup
