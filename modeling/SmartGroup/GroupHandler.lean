import SmartGroup.Packet
import SmartGroup.SlowData
import SmartGroup.Users

/-! `CGroupHandler`: one smart group, with the operations that G2 packets, reflector
packets, the remote control and the clock call. Calls into the link handlers, the
G2 sockets and the ircDDB clients are outputs. -/
namespace SmartGroup
open Bytes Sweep

/-- An entry of `m_repeaters`. -/
structure SGSRepeater where
  dest : Str
  rptr : Str
  gate : Str
  addr : Str
  deriving DecidableEq, Repr

/-- The arguments of `sendHeardWithTXMsg`. -/
structure Heard where
  myCall : Str
  myCallExt : Str
  yourCall : Str
  rpt1 : Str
  rpt2 : Str
  flags : UInt8 × UInt8 × UInt8
  destination : Str
  txMessage : Str
  deriving DecidableEq, Repr

/-- The places that report a user as removed. -/
inductive Removal where
  | unsubscribed
  | remoteControl
  | notFound
  | userTimeout
  deriving DecidableEq, Repr

inductive Output where
  | findUser (server : Nat) (user : Str)
  | heard (server : Nat) (message : Heard)
  | ping (server : Nat) (address : Str)
  /-- `sendToRepeaters(header)` is called, whatever the list of repeaters. -/
  | relayHeader (header : HeaderData)
  | relayAMBE (data : AMBEData)
  | writeHeader (server : Nat) (header : HeaderData)
  | writeAMBE (server : Nat) (data : AMBEData)
  | reflectorHeader (linkType : LinkType) (header : HeaderData)
  | reflectorAMBE (linkType : LinkType) (data : AMBEData)
  | adding (user : Str)
  | removing (user : Str) (why : Removal)
  | ack (server : Nat) (user text : Str)
  | cannotFind (user : Str)
  /-- A map entry is read through its iterator after it was erased. -/
  | erasedRead (user : Str)
  deriving DecidableEq, Repr

/-- The members of `CGroupHandler`, without `m_showlink`, which nothing reads. -/
structure GroupHandler where
  groupCallsign : Str
  offCallsign : Str
  repeater : Str
  infoText : Str
  linkReflector : Str
  linkGateway : Str
  linkStatus : LinkStatus
  oldlinkStatus : LinkStatus
  linkTimer : Timer
  linkType : LinkType
  id : Nat
  announceTimer : Timer
  pingTimer : Timer
  userTimeout : Nat
  listenOnly : Bool
  ids : OrdMap Nat (Option SGSId)
  users : Users
  repeaters : OrdMap Str SGSRepeater

abbrev GroupResult := Except Fault (GroupHandler × List Output)

namespace GroupHandler

def new (callsign logoff repeater infoText : Str) (userTimeout : Nat) (listenOnly : Bool)
    (reflector : Str) : GroupHandler where
  groupCallsign := callsign
  offCallsign := logoff
  repeater := repeater
  infoText := infoText
  linkReflector := reflector
  linkGateway := []
  linkStatus := .none
  oldlinkStatus := .init
  linkTimer := Timer.new 1000 networkTimeout 0
  linkType :=
    if reflector = [] then .none
    else if reflector.take 3 = str "XRF" then .dextra else .dcs
  id := 0
  announceTimer := (Timer.new 1000 (2 * 60) 0).start
  pingTimer := (Timer.new 1000 10 0).start
  userTimeout := userTimeout
  listenOnly := listenOnly
  ids := ∅
  users := .empty
  repeaters := ∅

/-! Sending. -/

def isIPv4 (addr : Str) : Bool := 58 ∉ addr

def g2Port (addr : Str) : Nat := if isIPv4 addr then g2DvPort else g2Ipv6Port

def sendToRepeaters (env : Env) (g : GroupHandler) (header : HeaderData) : List Output :=
  .relayHeader header :: g.repeaters.toList.map fun entry =>
    .writeHeader (env.server (isIPv4 entry.2.addr))
      (((header.setYourCall entry.2.dest).setDestination entry.2.addr (g2Port entry.2.addr)).setRepeaters
        entry.2.gate entry.1)

def sendAMBEToRepeaters (env : Env) (g : GroupHandler) (data : AMBEData) : List Output :=
  .relayAMBE data :: g.repeaters.toList.map fun entry =>
    .writeAMBE (env.server (isIPv4 entry.2.addr))
      (data.setDestination entry.2.addr (g2Port entry.2.addr))

def dataSyncBytes : Str := [0x55, 0x2D, 0x16]
def nullAMBEDataBytes : Str := [0x9E, 0x8D, 0x32, 0x88, 0x26, 0x1A, 0x3F, 0x61, 0xE8]
def endPatternBytes : Str := [0x55, 0x55, 0x55, 0x55, 0xC8, 0x7A, 0x00, 0x00, 0x00, 0x00, 0x00, 0x00]

/-- A sync frame and `n` frames that carry the text. -/
def textFrames (id : Nat) (text : Str) (n : Nat) : List AMBEData :=
  let slow := dataSyncBytes :: (SlowDataEncoder.setTextData text).getTexts n
  slow.mapIdx fun i bytes => ((AMBEData.blank.setId id).setData (nullAMBEDataBytes ++ bytes)).setSeq i

def sendFromText (env : Env) (g : GroupHandler) : List Output :=
  (textFrames g.id (str "VIA SMARTGP " ++ g.groupCallsign) 20).flatMap (sendAMBEToRepeaters env g)

/-- `CHeaderData::createId`: a remainder modulo `0xffff` that is not zero. -/
def createId (draw : Nat) : Nat := draw % 0xfffe + 1

def sendAck (env : Env) (g : GroupHandler) (i : Nat) (irc : IRCDDB) (user text : Str) (draw : Nat) :
    List Output :=
  let data := irc.cache.findUserData user
  let id := createId draw
  let header := ((HeaderData.ofCalls g.groupCallsign (str "    ") user data.gate data.rptr).setDestination
    data.addr (g2Port data.addr)).setId id
  let index := env.server (isIPv4 data.addr)
  let last := (((AMBEData.blank.setId id).setData
    (nullAMBEDataBytes ++ endPatternBytes.take 6)).setSeq 19).setEnd
  .ack i user text :: .writeHeader index header ::
    (textFrames id text 18 ++ [last]).map fun frame =>
      .writeAMBE index (frame.setDestination data.addr (g2Port data.addr))

/-! The G2 side. -/

/-- The repeater entry of a listener whose record is given. -/
def repeaterOf (data : UserData) : SGSRepeater where
  dest := str "/" ++ (data.rptr.take 6 ++ [data.rptr.getLast?.getD 0])
  rptr := data.rptr
  gate := data.gate
  addr := data.addr

/-- One turn of the loop that fills the repeater list; an entry already there stays. -/
def addRepeater (env : Env) (users : Users) (skip : Str → Bool)
    (repeaters : OrdMap Str SGSRepeater) (entry : Str × Nat) : OrdMap Str SGSRepeater :=
  match users.heap.cell entry.2 with
  | none => repeaters
  | some user =>
      let data := env.findUserData user.callsign
      if data.addr = [] ∨ skip data.rptr then repeaters
      else if data.rptr ∈ repeaters then repeaters
      else repeaters.insert data.rptr (repeaterOf data)

def fillRepeaters (env : Env) (g : GroupHandler) (skip : Str → Bool) : OrdMap Str SGSRepeater :=
  g.users.entries.foldl (addRepeater env g.users skip) g.repeaters

/-- The first half of `process(CHeaderData &)`: the users and the pending ids. The
result is `none` where the source returns, else whether the header is a login. -/
def recordHeader (env : Env) (g : GroupHandler) (header : HeaderData) :
    Option Bool × GroupHandler × List Output :=
  let my := header.myCall1
  let your := header.yourCall
  let id := header.getId
  let finds :=
    if env.findUserAddr my = [] then env.ircs.map fun irc => Output.findUser irc.1 my else []
  if your = g.groupCallsign then
    match g.users.find my with
    | none =>
        let user := g.users.heap.next
        let g := { g with
          users := g.users.login (.new my (g.userTimeout * 60 % word) env.now)
          ids := g.ids.insert id (some (SGSId.new id messageDelay user).setLogin) }
        (some true, g, finds ++ [.adding my])
    | some user =>
        let g := { g with users := g.users.reset user env.now }
        match g.ids[id]? with
        | some (some _) => (none, g, finds)
        | _ =>
            (some false,
              { g with ids := g.ids.insert id (some (SGSId.new id messageDelay user)) }, finds)
  else
    match g.users.find my with
    | none => (none, g, finds)
    | some user =>
        -- the owner is read through the iterator of the entry erased just before
        let g := { g with
          users := g.users.erase my
          ids := g.ids.insert id (some (SGSId.new id messageDelay user).setLogoff) }
        (none, g, finds ++ [.removing my .unsubscribed, .erasedRead my])

/-- The second half, on an idle group. -/
def openStream (env : Env) (g : GroupHandler) (header : HeaderData) (islogin : Bool) :
    GroupHandler × List Output :=
  let header₁ := header.setCQCQCQ.setFlags 0x00 0x00 0x00
  let linked := g.linkType ≠ .none ∧ ¬islogin ∧ ¬g.listenOnly
  let header₂ := if linked then header₁.setRepeaters g.linkGateway g.linkReflector else header₁
  let toReflector := if linked then [Output.reflectorHeader g.linkType header₂] else []
  let exclude := env.findUserRepeater header.myCall1
  let g := { g with id := header.getId, repeaters := g.fillRepeaters env (· = exclude) }
  let toRepeaters :=
    if islogin ∨ g.listenOnly then [] else g.sendToRepeaters env header₂ ++ g.sendFromText env
  (g, toReflector ++ toRepeaters)

def processHeader (env : Env) (g : GroupHandler) (header : HeaderData) :
    GroupHandler × List Output :=
  match g.recordHeader env header with
  | (none, g, outs) => (g, outs)
  | (some islogin, g, outs) =>
      if g.id ≠ 0 then (g, outs)
      else
        let (g, sent) := g.openStream env header islogin
        (g, outs ++ sent)

def clearStream (g : GroupHandler) : GroupHandler := { g with repeaters := ∅, id := 0 }

/-- The repeater list is cleared when the id is the relayed one. -/
def closeStream (g : GroupHandler) (id : Nat) : GroupHandler :=
  if id = g.id then g.clearStream else g

def processAMBE (env : Env) (g : GroupHandler) (data : AMBEData) : GroupResult :=
  let id := data.getId
  match g.ids[id]? with
  | none => .ok (g, [])
  | some none => .error .nullDeref
  | some (some tx) =>
      match g.users.heap.cell tx.user with
      | none => .error .useAfterDelete
      | some user =>
          let tx := tx.reset
          let g := { g with
            ids := g.ids.insert id (some tx)
            users := g.users.reset tx.user env.now }
          let outs :=
            if id = g.id ∧ ¬tx.login ∧ ¬g.listenOnly then
              (if g.linkType = .none then [] else [.reflectorAMBE g.linkType data]) ++
                g.sendAMBEToRepeaters env data
            else []
          if data.isEnd then
            let g := g.closeStream id
            if tx.login then
              .ok ({ g with ids := g.ids.insert id (some tx.reset.setEnd) }, outs)
            else if tx.logoff then
              .ok ({ g with
                users := g.users.erase user.callsign
                ids := g.ids.insert id (some tx.reset.setEnd) }, outs)
            else .ok ({ g with ids := g.ids.erase tx.id }, outs)
          else .ok (g, outs)

/-! The remote control. -/

/-- The entry at which the loop of `LogoffUser` stops: the first id the user owns. -/
def firstOwned (g : GroupHandler) (user : Nat) : Option (Nat × SGSId) :=
  g.ids.toList.findSome? fun entry =>
    match entry.2 with
    | some tx => if tx.user = user then some (entry.1, tx) else none
    | none => none

/-- That id is dropped, and with it the current stream when it is the stream's. -/
def dropFirstId (g : GroupHandler) (user : Nat) : GroupHandler :=
  match g.firstOwned user with
  | some (k, tx) =>
      { g with
        id := if tx.id = g.id then 0 else g.id
        ids := g.ids.erase k }
  | none => g

def logoffUser (g : GroupHandler) (callsign : Str) : Bool × GroupHandler × List Output :=
  if callsign = allUsers then
    let outs := g.users.entries.filterMap fun entry =>
      (g.users.heap.cell entry.2).map fun user => Output.removing user.callsign .remoteControl
    (true, { g with users := g.users.deleteAll, ids := ∅, repeaters := ∅, id := 0 }, outs)
  else
    match g.users.find callsign with
    | none => (false, g, [])
    | some user =>
        let g := g.dropFirstId user
        let g := { g with users := g.users.delete callsign }
        let g := if g.users.entries = [] then { g with ids := ∅, repeaters := ∅, id := 0 } else g
        (true, g, [.removing callsign .remoteControl])

/-! The reflector side. -/

def processReflectorHeader (env : Env) (g : GroupHandler) (header : HeaderData) :
    Bool × GroupHandler × List Output :=
  if g.id ≠ 0 then (false, g, [])
  else
    let header₁ := header.setCQCQCQ.setFlags 0x00 0x00 0x00
    let g := { g with id := header.getId, linkTimer := g.linkTimer.start }
    let g := { g with repeaters := g.fillRepeaters env fun _ => false }
    -- `m_ids[m_id]` creates a null entry where there is none
    let tx := (g.ids[g.id]?).getD none
    let g := { g with ids := g.ids.insert g.id tx }
    let outs := if tx.any (·.login) then [] else g.sendToRepeaters env header₁
    (true, g, outs ++ g.sendFromText env)

def processReflectorAMBE (env : Env) (g : GroupHandler) (data : AMBEData) :
    Bool × GroupHandler × List Output :=
  let id := data.getId
  if id ≠ g.id then (false, g, [])
  else
    let tx := (g.ids[id]?).getD none
    let g := { g with linkTimer := g.linkTimer.start, ids := g.ids.insert id tx }
    let outs := if tx.any (·.login) then [] else g.sendAMBEToRepeaters env data
    if data.isEnd then (true, { g with linkTimer := g.linkTimer.stop, id := 0, repeaters := ∅ }, outs)
    else (true, g, outs)

/-! The clock. -/

/-- The state of the ping scan: the users left and the addresses collected. -/
structure Scan where
  users : Users
  addresses : OrdMap Str Unit

def scanUser (env : Env) (s : Scan) (entry : Str × Nat) : Scan × List Output :=
  match s.users.heap.cell entry.2 with
  | none => (s, [])
  | some sgsuser =>
      let user := sgsuser.callsign
      let addr := env.findUserAddr user
      if addr = [] then
        if 600 ≤ env.now - sgsuser.found then
          ({ s with users := s.users.erase entry.1 }, [.removing user .notFound])
        else (s, env.ircs.map fun irc => .findUser irc.1 user)
      else
        (⟨s.users.setLastFound entry.2 env.now, s.addresses.insert addr ()⟩, [])

/-- An address with a dot is IPv4; the ping goes to the second socket when there is one. -/
def pingServer (env : Env) (addr : Str) : Nat := env.server (decide (46 ∈ addr))

def clockPing (env : Env) (ms : Nat) (g : GroupHandler) : GroupHandler × List Output :=
  let g := { g with pingTimer := g.pingTimer.clock ms }
  if g.pingTimer.isRunning && g.pingTimer.hasExpired then
    let (scan, outs) := forEach (scanUser env) ⟨g.users, ∅⟩ g.users.entries
    let pings := scan.addresses.toList.map fun address => Output.ping (pingServer env address.1) address.1
    ({ g with users := scan.users, pingTimer := g.pingTimer.start }, outs ++ pings)
  else (g, [])

def clockLink (ms : Nat) (g : GroupHandler) : GroupHandler :=
  let g := { g with linkTimer := g.linkTimer.clock ms }
  if g.linkTimer.isRunning && g.linkTimer.hasExpired then
    { g with linkTimer := g.linkTimer.stop, id := 0, repeaters := ∅ }
  else g

def announcement (env : Env) (g : GroupHandler) (callsign : Str) : Heard where
  myCall := callsign
  myCallExt := str "    "
  yourCall := str "CQCQCQ  "
  rpt1 := g.repeater
  rpt2 := env.gateway
  flags := (0x00, 0x00, 0x00)
  destination := []
  txMessage := g.infoText

def clockAnnounce (env : Env) (ms : Nat) (g : GroupHandler) : GroupHandler × List Output :=
  let g := { g with announceTimer := g.announceTimer.clock ms }
  if g.announceTimer.hasExpired then
    let names := g.groupCallsign ::
      (if g.offCallsign ≠ [] ∧ g.offCallsign ≠ str "        " then [g.offCallsign] else [])
    let outs := env.ircs.flatMap fun irc => names.map fun c => .heard irc.1 (g.announcement env c)
    ({ g with announceTimer := g.announceTimer.startFor (60 * 60) 0 }, outs)
  else (g, [])

/-- `updateReflectorInfo` sends nothing any more. -/
def clockStatus (env : Env) (g : GroupHandler) : GroupHandler :=
  if g.oldlinkStatus ≠ g.linkStatus ∧ env.irc0.connectionState = 7 then
    { g with oldlinkStatus := g.linkStatus }
  else g

/-- The acknowledgement of an ended login or logoff, by the first connection that
knows an address for the user. -/
def acknowledge (env : Env) (g : GroupHandler) (tx : SGSId) (callsign : Str) (draw : Nat) :
    List Output :=
  match env.ircs.find? (fun (_, irc) => irc.cache.findUserAddr callsign ≠ []) with
  | none => [.cannotFind callsign]
  | some (i, irc) =>
      if tx.login then g.sendAck env i irc callsign (str "Logged in") draw
      else if tx.logoff then g.sendAck env i irc callsign (str "Logged off") draw
      else []

/-- One turn of the loop over the incoming ids. -/
def clockId (env : Env) (ms : Nat) (g : GroupHandler) (entry : Nat × Option SGSId) : GroupResult :=
  match entry.2 with
  | none => .ok (g, [])
  | some tx =>
      let tx := tx.clock ms
      if ¬tx.hasExpired then .ok ({ g with ids := g.ids.insert entry.1 (some tx) }, [])
      else
        match g.users.heap.cell tx.user with
        | none => .error .useAfterDelete
        | some user =>
            if tx.ended then
              .ok ({ g with ids := g.ids.erase entry.1 },
                g.acknowledge env tx user.callsign (env.rand entry.1))
            else
              let g := g.closeStream tx.id
              if tx.login then
                .ok ({ g with ids := g.ids.insert entry.1 (some tx.reset.setEnd) }, [])
              else if tx.logoff then
                .ok ({ g with
                  users := g.users.erase user.callsign
                  ids := g.ids.insert entry.1 (some tx.reset.setEnd) }, [])
              else .ok ({ g with ids := g.ids.erase entry.1 }, [])

def clockIds (env : Env) (ms : Nat) (g : GroupHandler) : GroupResult :=
  tryEach (clockId env ms) g g.ids.toList

def clockUsers (ms : Nat) (g : GroupHandler) : GroupHandler :=
  { g with users := g.users.entries.foldl (fun t entry => t.clock entry.2 ms) g.users }

def expireUser (t : Users) (entry : Str × Nat) : Users × List Output :=
  match t.heap.cell entry.2 with
  | none => (t, [])
  | some user =>
      if user.hasExpired then (t.delete entry.1, [.removing user.callsign .userTimeout]) else (t, [])

def clockExpiry (g : GroupHandler) : GroupHandler × List Output :=
  if g.id ≠ 0 then (g, [])
  else
    let (users, outs) := forEach expireUser g.users g.users.entries
    ({ g with users }, outs)

def clockInt (env : Env) (ms : Nat) (g : GroupHandler) : GroupResult :=
  let (g, pings) := g.clockPing env ms
  let g := g.clockLink ms
  let (g, heard) := g.clockAnnounce env ms
  let g := g.clockStatus env
  match g.clockIds env ms with
  | .error f => .error f
  | .ok (g, acks) =>
      let (g, expired) := (g.clockUsers ms).clockExpiry
      .ok (g, pings ++ heard ++ acks ++ expired)

end GroupHandler
end SmartGroup
