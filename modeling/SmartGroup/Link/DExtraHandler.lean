import SmartGroup.Link.Handler

/-! `CDExtraHandler`, one link to a DExtra reflector. -/
namespace SmartGroup
open Bytes

/-- The group may change the addressing of `m_header`; every later use sets it again. -/
structure DExtraHandler (n : Nat) extends LinkHandler n where
  header : Option HeaderData

namespace DExtraHandler

variable {n : Nat}

/-- The group, the handler unless it is deleted, and the outputs after a call. -/
abbrev Turn (n : Nat) := GroupHandler × Option (DExtraHandler n) × List HandlerOutput

def new (destination : Fin n) (reflector repeater address : Str) : DExtraHandler n where
  toLinkHandler := .new destination reflector repeater address dextraPort .outgoing 10 60
  header := none

def linkPacket (h : DExtraHandler n) : ConnectData :=
  .ofLink .repeater h.repeater h.reflector .link1 h.yourAddress h.yourPort 0

def unlinkPacket (h : DExtraHandler n) : ConnectData :=
  .ofLink .repeater h.repeater [] .unlink h.yourAddress h.yourPort 0

/-- `processInt(CHeaderData &)`. -/
def processHeader (env : Env) (header : HeaderData) (h : DExtraHandler n) (g : GroupHandler) : Turn n :=
  if h.linkState ≠ .linked then (g, some h, [])
  else if h.direction = .incoming ∧ h.repeater = [] then (g, some h, [])
  else if h.partner ≠ header.rptCall2 ∧ h.partner ≠ header.rptCall1 then (g, some h, [])
  else if h.id ≠ 0 then (g, some h, [])
  else
    let processed := g.processReflectorHeader env (LinkHandler.relayed header)
    (processed.2.1,
      some { toLinkHandler := h.opened header.getId, header := some (LinkHandler.relayed header) },
      processed.2.2.map .group)

/-- The header is sent again every 21 frames, when there is one. -/
def repeatHeader (env : Env) (data : AMBEData) (h : DExtraHandler n) (g : GroupHandler) :
    GroupHandler × List Output :=
  match h.header with
  | some header => if data.getSeq = 0 then (g.processReflectorHeader env header).2 else (g, [])
  | none => (g, [])

/-- `processInt(CAMBEData &)`. -/
def processAMBE (env : Env) (data : AMBEData) (h : DExtraHandler n) (g : GroupHandler) : Turn n :=
  if h.linkState ≠ .linked then (g, some h, [])
  else if h.id ≠ data.getId then (g, some h, [])
  else
    let repeated := h.repeatHeader env data g
    let processed := repeated.1.processReflectorAMBE env data
    let heard := h.heard data.getSeq
    let h : DExtraHandler n :=
      if data.isEnd then { toLinkHandler := heard.ended, header := none }
      else { h with toLinkHandler := heard }
    (processed.2.1, some h, (repeated.2 ++ processed.2.2).map .group)

/-- The test of `process(const CPollData &)`, which restarts the timer. -/
def processPoll (poll : PollData) (h : DExtraHandler n) (g : GroupHandler) : Turn n :=
  if h.reflector.take (longCallsignLength - 1) = poll.data1.take (longCallsignLength - 1) ∧
      h.yourAddress = poll.yourAddress ∧ h.yourPort = poll.yourPort ∧ h.linkState = .linked then
    (g, some { h with pollInactivityTimer := h.pollInactivityTimer.start }, [])
  else (g, some h, [])

/-- `processInt(CConnectData &, CD_TYPE)`; the other packets are only logged. -/
def processConnect (connect : ConnectData) (h : DExtraHandler n) (g : GroupHandler) : Turn n :=
  if ¬h.From connect then (g, some h, [])
  else
    match connect.type with
    | .ack =>
        if h.repeater ≠ connect.repeater then (g, some h, [])
        else if h.linkState = .linking then
          (if h.direction = .outgoing then g.linkUp else g,
            some { h with
              tryTimer := h.tryTimer.stop
              pollTimer := h.pollTimer.start
              linkState := .linked }, [])
        else (g, some h, [])
    | .nak =>
        if h.repeater ≠ connect.repeater then (g, some h, [])
        else if h.linkState = .linking then
          (if h.direction = .outgoing then g.linkRefused else g, none, [])
        else (g, some h, [])
    | .unlink =>
        if h.reflector ≠ connect.repeater then (g, some h, [])
        else if h.linkState = .linked then
          (if h.direction = .outgoing then (g.linkFailed false).2 else g, none, [])
        else (g, none, [])
    | .link1 => (g, some h, [])
    | .link2 => (g, some h, [])

/-- One turn of `unlink(CGroupHandler *, const std::string &, bool)`. -/
def unlink (env : Env) (group : Fin n) (callsign : Str) (exclude : Bool) (h : DExtraHandler n)
    (g : GroupHandler) : Turn n :=
  if h.Selected group callsign exclude then
    let told := if h.Active then [HandlerOutput.connect h.unlinkPacket] else []
    let g := if h.Active then (g.linkFailed false).2 else g
    let eot := h.endOfTransmission env g
    (eot.1, none, told ++ eot.2)
  else (g, some h, [])

/-! The parts of `clockInt` after the test of `m_pollInactivityTimer`. `callsign` is
the static `m_callsign`. -/

def clockPoll (callsign : Str) (h : DExtraHandler n) : DExtraHandler n × List HandlerOutput :=
  if h.pollTimer.isRunning && h.pollTimer.hasExpired then
    let name := if h.repeater = [] then callsign else h.repeater.set (longCallsignLength - 1) 32
    ({ h with pollTimer := h.pollTimer.start },
      if h.linkState = .linked then [.poll (.ofOne name h.yourAddress h.yourPort 0)] else [])
  else (h, [])

def clockInactivity (h : DExtraHandler n) : DExtraHandler n :=
  if h.inactivityTimer.isRunning && h.inactivityTimer.hasExpired then
    { toLinkHandler := h.ended, header := none }
  else h

def clockTry (h : DExtraHandler n) : DExtraHandler n × List HandlerOutput :=
  if h.linkState = .linking && h.tryTimer.isRunning && h.tryTimer.hasExpired then
    ({ h with toLinkHandler := h.tryAgain }, [.connect h.linkPacket])
  else (h, [])

def clockRest (callsign : Str) (h : DExtraHandler n) : DExtraHandler n × List HandlerOutput :=
  let polled := h.clockPoll callsign
  let tried := polled.1.clockInactivity.clockTry
  (tried.1, polled.2 ++ tried.2)

def clockInt (callsign : Str) (ms : Nat) (h : DExtraHandler n) (g : GroupHandler) : Turn n :=
  let h : DExtraHandler n := { h with toLinkHandler := h.clock ms }
  if h.pollInactivityTimer.isRunning && h.pollInactivityTimer.hasExpired then
    let h : DExtraHandler n :=
      { toLinkHandler := { h.clearStream with pollInactivityTimer := h.pollInactivityTimer.start }
        header := none }
    if h.direction = .outgoing then
      let failed := g.linkFailed true
      if failed.1 then
        (failed.2, some { h with toLinkHandler := h.attempt .linking }, [.connect h.linkPacket])
      else (failed.2, none, [])
    else (g, none, [])
  else
    let rest := h.clockRest callsign
    (g, some rest.1, rest.2)

/-- The test of `writeHeaderInt` and `writeAMBEInt`. -/
def Writes (group : Fin n) (direction : Direction) (h : DExtraHandler n) : Prop :=
  h.linkState = .linked ∧ h.direction = direction ∧ h.id = 0 ∧
    (h.destination = group ∨ h.direction = .incoming ∧ h.repeater = [])

instance (group : Fin n) (direction : Direction) (h : DExtraHandler n) :
    Decidable (h.Writes group direction) := inferInstanceAs (Decidable (_ ∧ _ ∧ _ ∧ _))

def writeHeader (group : Fin n) (header : HeaderData) (direction : Direction) (h : DExtraHandler n)
    (g : GroupHandler) : Turn n :=
  if h.Writes group direction then
    (g, some h, [.header (header.setDestination h.yourAddress h.yourPort)])
  else (g, some h, [])

def writeAMBE (group : Fin n) (data : AMBEData) (direction : Direction) (h : DExtraHandler n)
    (g : GroupHandler) : Turn n :=
  if h.Writes group direction then
    (g, some h, [.ambe (data.setDestination h.yourAddress h.yourPort)])
  else (g, some h, [])

end DExtraHandler
end SmartGroup
