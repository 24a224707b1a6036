import SmartGroup.Link.Handler

/-! `CDCSHandler`, one link to a DCS reflector. -/
namespace SmartGroup
open Bytes

structure DCSHandler (n : Nat) extends LinkHandler n where
  myPort : Nat
  /-- The number of frames sent in the outgoing stream. -/
  seqNo : Nat
  yourCall : Str
  myCall1 : Str
  myCall2 : Str
  rptCall1 : Str
  rptCall2 : Str

namespace DCSHandler

variable {n : Nat}

/-- The group, the handler unless it is deleted, and the outputs after a call. -/
abbrev Turn (n : Nat) := GroupHandler × Option (DCSHandler n) × List HandlerOutput

def new (destination : Fin n) (reflector repeater address : Str) (myPort : Nat) : DCSHandler n where
  toLinkHandler := .new destination reflector repeater address dcsPort .outgoing 5 30
  myPort := myPort
  seqNo := 0
  yourCall := []
  myCall1 := []
  myCall2 := []
  rptCall1 := []
  rptCall2 := []

/-- The static `m_gatewayType` is set once, to `GT_SMARTGROUP`. -/
def linkPacket (h : DCSHandler n) : ConnectData :=
  .ofLink .smartgroup h.repeater h.reflector .link1 h.yourAddress h.yourPort 0

def unlinkPacket (h : DCSHandler n) : ConnectData :=
  .ofLink .repeater h.repeater h.reflector .unlink h.yourAddress h.yourPort 0

/-- The test with which `process(CAMBEData &)` looks for the handler. -/
def Hears (data : AMBEData) (h : DCSHandler n) : Prop :=
  h.yourAddress = data.yourAddress ∧ h.yourPort = data.yourPort ∧ h.myPort = data.myPort

instance (data : AMBEData) (h : DCSHandler n) : Decidable (h.Hears data) :=
  inferInstanceAs (Decidable (_ ∧ _ ∧ _))

/-- A stream is opened when none is coming in. -/
def openStream (env : Env) (data : AMBEData) (h : DCSHandler n) (g : GroupHandler) :
    GroupHandler × DCSHandler n × List Output :=
  if h.id = 0 then
    let processed := (g.processReflectorHeader env (LinkHandler.relayed data.header)).2
    (processed.1, { h with toLinkHandler := h.opened data.getId }, processed.2)
  else (g, h, [])

/-- The header is sent again every 21 frames. -/
def repeatHeader (env : Env) (data : AMBEData) (g : GroupHandler) : GroupHandler × List Output :=
  if data.getSeq = 0 then (g.processReflectorHeader env (LinkHandler.relayed data.header)).2 else (g, [])

/-- `processInt(CAMBEData &)`; the two directions differ in the name they expect. -/
def processAMBE (env : Env) (data : AMBEData) (h : DCSHandler n) (g : GroupHandler) : Turn n :=
  if h.linkState ≠ .linked then (g, some h, [])
  else if h.partner ≠ data.header.rptCall2 then (g, some h, [])
  else if h.id = 0 ∧ data.getSeq ≠ 0 then (g, some h, [])
  else
    let (g, h, opened) := h.openStream env data g
    if data.getId = h.id then
      let (g, repeated) := repeatHeader env data g
      let processed := (g.processReflectorAMBE env data).2
      let heard := h.heard data.getSeq
      (processed.1, some { h with toLinkHandler := if data.isEnd then heard.ended else heard },
        (opened ++ repeated ++ processed.2).map .group)
    else (g, some h, opened.map .group)

/-- The poll of the reflector that an outgoing link answers. -/
def Answers (poll : PollData) (h : DCSHandler n) : Prop :=
  h.reflector = poll.data1 ∧ h.repeater = poll.data2 ∧ h.yourAddress = poll.yourAddress ∧
    h.yourPort = poll.yourPort ∧ h.myPort = poll.myPort ∧ h.direction = .outgoing ∧
    h.linkState = .linked ∧ poll.length = 22

instance (poll : PollData) (h : DCSHandler n) : Decidable (h.Answers poll) :=
  inferInstanceAs (Decidable (_ ∧ _ ∧ _ ∧ _ ∧ _ ∧ _ ∧ _ ∧ _))

/-- The poll that an incoming link takes silently. -/
def Takes (poll : PollData) (h : DCSHandler n) : Prop :=
  h.reflector.take (longCallsignLength - 1) = poll.data1.take (longCallsignLength - 1) ∧
    h.yourAddress = poll.yourAddress ∧ h.yourPort = poll.yourPort ∧ h.myPort = poll.myPort ∧
    h.direction = .incoming ∧ h.linkState = .linked ∧ poll.length = 17

instance (poll : PollData) (h : DCSHandler n) : Decidable (h.Takes poll) :=
  inferInstanceAs (Decidable (_ ∧ _ ∧ _ ∧ _ ∧ _ ∧ _ ∧ _))

/-- The body of the loop of `process(CPollData &)` at the handler where it returns. -/
def processPoll (poll : PollData) (h : DCSHandler n) (g : GroupHandler) : Turn n :=
  let replies :=
    if h.Answers poll then
      [HandlerOutput.poll (.ofPair h.repeater h.reflector h.direction h.yourAddress h.yourPort 0)]
    else []
  (g, some { h with pollInactivityTimer := h.pollInactivityTimer.start }, replies)

/-- `processInt(CConnectData &, CD_TYPE)`; the other packets are only logged. -/
def processConnect (connect : ConnectData) (h : DCSHandler n) (g : GroupHandler) : Turn n :=
  if ¬h.From connect ∨ h.myPort ≠ connect.myPort then (g, some h, [])
  else
    match connect.type with
    | .ack =>
        if h.repeater ≠ connect.repeater then (g, some h, [])
        else if h.linkState = .linking then
          (if h.direction = .outgoing then g.linkUp else g,
            some { h with tryTimer := h.tryTimer.stop, linkState := .linked }, [])
        else (g, some h, [])
    | .nak =>
        if h.repeater ≠ connect.repeater then (g, some h, [])
        else if h.linkState = .linking then
          (if h.direction = .outgoing then g.linkRefused else g, none, [])
        else if h.linkState = .unlinking then
          (if h.direction = .outgoing then (g.linkFailed false).2 else g, none, [])
        else (g, some h, [])
    | .unlink =>
        if h.reflector ≠ connect.repeater then (g, some h, [])
        else if h.linkState = .linked then
          (if h.direction = .outgoing then (g.linkFailed false).2 else g, none, [])
        else (g, none, [])
    | .link1 => (g, some h, [])
    | .link2 => (g, some h, [])

/-- One turn of `unlink(CGroupHandler *, const std::string &, bool)`. -/
def unlink (env : Env) (group : Fin n) (callsign : Str) (exclude : Bool) (h : DCSHandler n)
    (g : GroupHandler) : Turn n :=
  if h.Selected group callsign exclude then
    let told := if h.Active then [HandlerOutput.connect h.unlinkPacket] else []
    let h : DCSHandler n := if h.Active then { h with toLinkHandler := h.attempt .unlinking } else h
    let eot := h.endOfTransmission env g
    (eot.1, some h, told ++ eot.2)
  else (g, some h, [])

/-! The parts of `clockInt` after the test of `m_pollInactivityTimer`. -/

def clockInactivity (h : DCSHandler n) : DCSHandler n :=
  if h.inactivityTimer.isRunning && h.inactivityTimer.hasExpired then
    { h with toLinkHandler := h.ended }
  else h

def clockPoll (h : DCSHandler n) : DCSHandler n × List HandlerOutput :=
  if h.pollTimer.isRunning && h.pollTimer.hasExpired then
    ({ h with pollTimer := h.pollTimer.start },
      [.poll (.ofPair h.repeater h.reflector h.direction h.yourAddress h.yourPort 0)])
  else (h, [])

def clockTry (h : DCSHandler n) : DCSHandler n × List HandlerOutput :=
  if h.tryTimer.isRunning && h.tryTimer.hasExpired then
    match h.linkState with
    | .linking => ({ h with toLinkHandler := h.tryAgain }, [.connect h.linkPacket])
    | .unlinking => ({ h with toLinkHandler := h.tryAgain }, [.connect h.unlinkPacket])
    | .linked => (h, [])
  else (h, [])

def clockRest (h : DCSHandler n) : DCSHandler n × List HandlerOutput :=
  let polled := h.clockInactivity.clockPoll
  let tried := polled.1.clockTry
  (tried.1, polled.2 ++ tried.2)

def clockInt (ms : Nat) (h : DCSHandler n) (g : GroupHandler) : Turn n :=
  let h : DCSHandler n := { h with toLinkHandler := h.clock ms }
  if h.pollInactivityTimer.isRunning && h.pollInactivityTimer.hasExpired then
    let h : DCSHandler n := { h with
      toLinkHandler := { h.clearStream with pollInactivityTimer := h.pollInactivityTimer.start } }
    if h.direction = .outgoing then
      let failed := g.linkFailed true
      if failed.1 then
        (failed.2, some { h with toLinkHandler := h.attempt .linking }, [.connect h.linkPacket])
      else (failed.2, none, [])
    else (g, none, [])
  else
    let rest := h.clockRest
    (g, some rest.1, rest.2)

/-- The test of `writeHeaderInt` and `writeAMBEInt`. -/
def Writes (group : Fin n) (direction : Direction) (h : DCSHandler n) : Prop :=
  h.linkState = .linked ∧ h.direction = direction ∧ h.destination = group ∧ h.id = 0

instance (group : Fin n) (direction : Direction) (h : DCSHandler n) :
    Decidable (h.Writes group direction) := inferInstanceAs (Decidable (_ ∧ _ ∧ _ ∧ _))

/-- A DCS frame carries its header, so the header is only remembered. -/
def writeHeader (group : Fin n) (header : HeaderData) (direction : Direction) (h : DCSHandler n)
    (g : GroupHandler) : Turn n :=
  if h.Writes group direction then
    (g, some { h with
      seqNo := 0
      yourCall := header.yourCall
      myCall1 := header.myCall1
      myCall2 := header.myCall2
      rptCall1 := header.rptCall1
      rptCall2 := header.rptCall2 }, [])
  else (g, some h, [])

def writeAMBE (group : Fin n) (data : AMBEData) (direction : Direction) (h : DCSHandler n)
    (g : GroupHandler) : Turn n :=
  if h.Writes group direction then
    let header := ((((data.header.setMyCall1 h.myCall1).setMyCall2 h.myCall2).setRptCall1
      h.rptCall1).setRptCall2 h.rptCall2).setCQCQCQ
    let sent := (({ data with header }).setRptSeq h.seqNo).setDestination h.yourAddress h.yourPort
    (g, some { h with seqNo := (h.seqNo + 1) % word }, [.ambe sent])
  else (g, some h, [])

end DCSHandler
end SmartGroup
