import Mathlib.Logic.Function.Basic
import SmartGroup.Group.Step
import SmartGroup.Link.DExtraHandler
import SmartGroup.Link.DCSHandler

/-! The groups of the server with their link handlers, as one machine. The loops over
handlers hand each one its group; packets, commands and clock ticks come in any order. -/
namespace SmartGroup
open Bytes Sweep Machine

abbrev Groups (n : Nat) := Fin n → GroupHandler

/-- `callsign` is the static `m_callsign` of `CDExtraHandler`. -/
structure World (n : Nat) where
  groups : Groups n
  dextra : Registry (DExtraHandler n)
  dcs : Registry (DCSHandler n)
  callsign : Str

/-- What comes to a group past the link handlers. -/
inductive GroupInput where
  | g2Header (env : Env) (header : HeaderData)
  | g2AMBE (env : Env) (data : AMBEData)
  | logoffUser (callsign : Str)
  | clock (env : Env) (ms : Nat)

def GroupInput.event : GroupInput → GroupEvent
  | .g2Header env header => .g2Header env header
  | .g2AMBE env data => .g2AMBE env data
  | .logoffUser callsign => .logoffUser callsign
  | .clock env ms => .clock env ms

inductive DExtraInput where
  | header (env : Env) (header : HeaderData)
  | ambe (env : Env) (data : AMBEData)
  | poll (poll : PollData)
  | connect (connect : ConnectData)
  | clock (ms : Nat)

inductive DCSInput where
  | ambe (env : Env) (data : AMBEData)
  | poll (poll : PollData)
  | connect (connect : ConnectData)
  | clock (ms : Nat)

/-- A link command names the port of the socket that it can open, if any. -/
inductive LinkEvent (n : Nat) where
  | group (i : Fin n) (input : GroupInput)
  | dextra (input : DExtraInput)
  | dcs (input : DCSInput)
  | remoteLink (i : Fin n) (env : Env) (reflector : Str) (port : Option Nat)
  | remoteUnlink (i : Fin n) (env : Env)

/-- The remote control asks for a new link. -/
def LinkEvent.isLink {n : Nat} : LinkEvent n → Bool
  | .remoteLink _ _ _ _ => true
  | _ => false

/-- The outputs of a handler come with its reference. -/
inductive LinkOutput (n : Nat) where
  | group (i : Fin n) (out : Output)
  | handler (protocol : DStarProtocol) (r : Nat) (out : HandlerOutput)

namespace World

variable {n : Nat}

abbrev Result (n : Nat) := World n × List (LinkOutput n)

/-- The turn of a loop: a handler is called, with the group it points to. -/
def visit {α : Type} (destination : α → Fin n)
    (f : Nat → α → GroupHandler → GroupHandler × Option α × List HandlerOutput) (gs : Groups n)
    (r : Nat) (h : α) : Groups n × Option α × List HandlerOutput :=
  let turn := f r h (gs (destination h))
  (Function.update gs (destination h) turn.1, turn.2)

def sweepDExtra (w : World n) (f : Nat → DExtraHandler n → GroupHandler → DExtraHandler.Turn n) :
    Result n :=
  let swept := w.dextra.sweep (visit (·.destination) f) w.groups
  ({ w with groups := swept.1, dextra := swept.2.1 },
    swept.2.2.map fun o => .handler .dextra o.1 o.2)

def sweepDCS (w : World n) (f : Nat → DCSHandler n → GroupHandler → DCSHandler.Turn n) : Result n :=
  let swept := w.dcs.sweep (visit (·.destination) f) w.groups
  ({ w with groups := swept.1, dcs := swept.2.1 }, swept.2.2.map fun o => .handler .dcs o.1 o.2)

/-- A loop that returns at the first handler that passes the test. -/
def firstDCS (w : World n) (test : DCSHandler n → Bool)
    (f : DCSHandler n → GroupHandler → DCSHandler.Turn n) : Result n :=
  match w.dcs.entries.find? (test ·.2) with
  | none => (w, [])
  | some e => w.sweepDCS fun r h g => if r = e.1 then f h g else (g, some h, [])

def setGroup (w : World n) (i : Fin n) (g : GroupHandler) : World n :=
  { w with groups := Function.update w.groups i g }

/-! `CDExtraHandler::link` and `CDCSHandler::link`. -/

def linkDExtra (w : World n) (i : Fin n) (request : LinkRequest) : Option Nat → Result n
  | none => (w, [])
  | some _ =>
      let h := DExtraHandler.new i request.reflector request.repeater request.address
      ({ w with dextra := w.dextra.add h }, [.handler .dextra w.dextra.next (.connect h.linkPacket)])

/-- The group has an outgoing link that is not being unlinked. -/
def Busy (w : World n) (i : Fin n) : Prop :=
  ∃ e ∈ w.dcs.entries, e.2.direction = .outgoing ∧ e.2.destination = i ∧ e.2.linkState ≠ .unlinking

instance (w : World n) (i : Fin n) : Decidable (w.Busy i) :=
  inferInstanceAs (Decidable (∃ e ∈ w.dcs.entries, _ ∧ _ ∧ _))

def linkDCS (w : World n) (i : Fin n) (request : LinkRequest) (port : Option Nat) : Result n :=
  if w.Busy i then (w, [])
  else
    match port with
    | none => (w, [])
    | some port =>
        let h := DCSHandler.new i request.reflector request.repeater request.address port
        ({ w with dcs := w.dcs.add h }, [.handler .dcs w.dcs.next (.connect h.linkPacket)])

/-- The group after `linkInt`, and the call that `linkInt` makes. -/
def request (w : World n) (i : Fin n) (result : Bool × GroupHandler × Option LinkRequest)
    (port : Option Nat) : Result n :=
  let w := w.setGroup i result.2.1
  match result.2.2 with
  | none => (w, [])
  | some request =>
      match request.linkType with
      | .dextra => w.linkDExtra i request port
      | .dcs => w.linkDCS i request port
      | .none => (w, [])

/-- `CRemoteHandler::unlink`. -/
def remoteUnlink (w : World n) (i : Fin n) (env : Env) : Result n :=
  let g := w.groups i
  match g.linkType with
  | .none => (w, [])
  | .dextra =>
      let r := w.sweepDExtra fun _ h => h.unlink env i g.linkReflector false
      (r.1.setGroup i (r.1.groups i).clearLink, r.2)
  | .dcs =>
      let r := w.sweepDCS fun _ h => h.unlink env i g.linkReflector false
      (r.1.setGroup i (r.1.groups i).clearLink, r.2)

/-- What a group hands to its link goes to the handlers. -/
def forward (i : Fin n) (w : World n) : Output → Result n
  | .reflectorHeader .dextra header => w.sweepDExtra fun _ h => h.writeHeader i header .outgoing
  | .reflectorHeader .dcs header => w.sweepDCS fun _ h => h.writeHeader i header .outgoing
  | .reflectorAMBE .dextra data => w.sweepDExtra fun _ h => h.writeAMBE i data .outgoing
  | .reflectorAMBE .dcs data => w.sweepDCS fun _ h => h.writeAMBE i data .outgoing
  | _ => (w, [])

def stepGroup (w : World n) (i : Fin n) (input : GroupInput) : Except Fault (Result n) :=
  match (w.groups i).step input.event with
  | .error f => .error f
  | .ok (g, outs) =>
      let sent := forEach (forward i) (w.setGroup i g) outs
      .ok (sent.1, outs.map (.group i) ++ sent.2)

theorem stepGroup_ok {w w' : World n} {i : Fin n} {input : GroupInput} {outs : List (LinkOutput n)}
    (h : w.stepGroup i input = .ok (w', outs)) :
    ∃ g emitted, (w.groups i).step input.event = .ok (g, emitted) ∧
      w' = (forEach (forward i) (w.setGroup i g) emitted).1 ∧
      outs = emitted.map (.group i) ++ (forEach (forward i) (w.setGroup i g) emitted).2 := by
  unfold stepGroup at h
  split at h
  · cases h
  · rename_i g emitted taken
    simp only [Except.ok.injEq, Prod.mk.injEq] at h
    exact ⟨g, emitted, taken, h.1.symm, h.2.symm⟩

def stepDExtra (w : World n) : DExtraInput → Result n
  | .header env header => w.sweepDExtra fun _ h g =>
      if h.yourAddress = header.yourAddress ∧ h.yourPort = header.yourPort then
        h.processHeader env header g
      else (g, some h, [])
  | .ambe env data => w.sweepDExtra fun _ h g =>
      if h.yourAddress = data.yourAddress ∧ h.yourPort = data.yourPort then h.processAMBE env data g
      else (g, some h, [])
  | .poll poll => w.sweepDExtra fun _ h => h.processPoll poll
  | .connect connect => w.sweepDExtra fun _ h => h.processConnect connect
  | .clock ms => w.sweepDExtra fun _ h => h.clockInt w.callsign ms

def stepDCS (w : World n) : DCSInput → Result n
  | .ambe env data => w.firstDCS (fun h => h.Hears data) fun h => h.processAMBE env data
  | .poll poll => w.firstDCS (fun h => h.Answers poll ∨ h.Takes poll) fun h => h.processPoll poll
  | .connect connect => w.sweepDCS fun _ h => h.processConnect connect
  | .clock ms => w.sweepDCS fun _ h => h.clockInt ms

def step : Machine.Step (World n) (LinkEvent n) (LinkOutput n) Fault
  | w, .group i input => w.stepGroup i input
  | w, .dextra input => .ok (w.stepDExtra input)
  | w, .dcs input => .ok (w.stepDCS input)
  | w, .remoteLink i env reflector port =>
      .ok (w.request i ((w.groups i).remoteLink env reflector) port)
  | w, .remoteUnlink i env => .ok (w.remoteUnlink i env)

/-- The server before its loop, without links. -/
def boot (configs : Fin n → GroupHandler.Config) (callsign : Str) : World n where
  groups := fun i => .init (configs i)
  dextra := .empty
  dcs := .empty
  callsign := callsign

/-- What `CGroupHandler::link()` finds when the server starts: the cache, and for each
group the port of the socket that can be opened. -/
structure StartUp (n : Nat) where
  env : Env
  ports : Fin n → Option Nat

/-- `CGroupHandler::link()`, which is called once or not at all. -/
def linkAll (w : World n) : Option (StartUp n) → World n
  | none => w
  | some s => (List.finRange n).foldl
      (fun w i => (w.request i ((w.groups i).linkInt s.env) (s.ports i)).1) w

def start (configs : Fin n → GroupHandler.Config) (callsign : Str) (startUp : Option (StartUp n)) :
    World n :=
  (boot configs callsign).linkAll startUp

abbrev LinkEntry (n : Nat) := Entry (World n) (LinkEvent n) (LinkOutput n)

end World

/-! A server with one group, and the packets of two reflectors. -/
namespace Sample

def dcsReflector : Str := str "DCS001 B"
def dextraReflector : Str := str "XRF002 C"
def dcsAddress : Str := str "44.9.0.1"
def dextraAddress : Str := str "44.9.0.2"

/-- The world in which both reflectors are known. -/
def linkEnv : Env :=
  { env with
    irc0 := ⟨(CacheManager.empty.updateGate (str "DCS001 G") dcsAddress).updateGate (str "XRF002 G")
      dextraAddress, 7⟩ }

def server : World 1 := .start (fun _ => config) (str "SMART1  ") none

/-- A packet of the DCS reflector for the socket on port 40001. -/
def dcsPacket (type : CDType) (name : Str) : LinkEvent 1 :=
  .dcs (.connect (.ofLink .repeater name (padTo 8 []) type dcsAddress dcsPort 40001))

def dextraPacket (type : CDType) (name : Str) : LinkEvent 1 :=
  .dextra (.connect (.ofLink .repeater name (padTo 8 []) type dextraAddress dextraPort 40001))

/-- One turn of the main loop. -/
def tick (ms : Nat) : List (LinkEvent 1) :=
  [.group 0 (.clock linkEnv ms), .dextra (.clock ms), .dcs (.clock ms)]

/-- The remote control links the group to a DCS reflector, which accepts. -/
def linkDCS : List (LinkEvent 1) :=
  [.remoteLink 0 linkEnv dcsReflector (some 40001), dcsPacket .ack (str "SMART1 A")]

def linkDExtra : List (LinkEvent 1) :=
  [.remoteLink 0 linkEnv dextraReflector (some 40001), dextraPacket .ack (str "SMART1 A")]

def comes (input : GroupInput) : LinkEvent 1 := .group 0 input

end Sample
end SmartGroup
