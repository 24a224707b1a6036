import SmartGroup.GroupLink
import SmartGroup.Support.Machine

/-! One group as a machine. G2 packets arrive as `CG2Handler::process` lets them
through: a header unless it is a busy reply or for another group, a voice frame
when its id is the id of the current stream. -/
namespace SmartGroup
open Bytes Sweep Machine

inductive GroupEvent where
  | g2Header (env : Env) (header : HeaderData)
  | g2AMBE (env : Env) (data : AMBEData)
  | reflectorHeader (env : Env) (header : HeaderData)
  | reflectorAMBE (env : Env) (data : AMBEData)
  | logoffUser (callsign : Str)
  | clock (env : Env) (ms : Nat)
  /-- A link request or a callback of a link handler. -/
  | relink (info : LinkInfo)

namespace GroupHandler

/-- `CG2Handler::process(CHeaderData &)` hands the header to this group. -/
def Accepts (g : GroupHandler) (header : HeaderData) : Prop :=
  header.flag1 ≠ 0x01 ∧ (header.yourCall = g.groupCallsign ∨ header.yourCall = g.offCallsign)

instance (g : GroupHandler) (header : HeaderData) : Decidable (g.Accepts header) :=
  inferInstanceAs (Decidable (_ ∧ _))

def step : Machine.Step GroupHandler GroupEvent Output Fault
  | g, .g2Header env header =>
      if g.Accepts header then .ok (g.processHeader env header) else .ok (g, [])
  | g, .g2AMBE env data => if data.getId = g.id then g.processAMBE env data else .ok (g, [])
  | g, .reflectorHeader env header => .ok (g.processReflectorHeader env header).2
  | g, .reflectorAMBE env data => .ok (g.processReflectorAMBE env data).2
  | g, .logoffUser callsign => .ok (g.logoffUser callsign).2
  | g, .clock env ms => g.clockInt env ms
  | g, .relink info => .ok (g.withLink info, [])

/-- A group as `CGroupHandler::add` creates it. -/
structure Config where
  callsign : Str
  logoff : Str
  repeater : Str
  infoText : Str
  userTimeout : Nat
  listenOnly : Bool
  reflector : Str

def init (c : Config) : GroupHandler :=
  .new c.callsign c.logoff c.repeater c.infoText c.userTimeout c.listenOnly c.reflector

abbrev GroupRun (c : Config) := Run step (init c)

abbrev GroupEntry := Entry GroupHandler GroupEvent Output

end GroupHandler

/-! A group, a world and packets for the runs that show where a property fails. -/
namespace Sample

def smart : Str := str "SMART1  "
def leave : Str := str "SMART1 T"
def userA : Str := str "USERA   "
def userB : Str := str "USERB   "

def config : GroupHandler.Config where
  callsign := smart
  logoff := leave
  repeater := str "SMART1 A"
  infoText := str "Smart Group"
  userTimeout := 30
  listenOnly := false
  reflector := []

def env : Env where
  irc0 := ⟨.empty, 7⟩
  irc1 := none
  now := 0
  gateway := str "SMART1 G"
  rand := fun _ => 0

/-- The world in which the two users are known to the only cache. -/
def knownEnv : Env :=
  { env with
    irc0 := ⟨(CacheManager.empty.updateUser userA (str "RPTR1  B") (str "RPTR1  G") (str "44.0.0.1")
      []).updateUser userB (str "RPTR2  B") (str "RPTR2  G") (str "44.0.0.2") [], 7⟩ }

def call (my your : Str) (id : Nat) : HeaderData :=
  (HeaderData.ofCalls my (str "    ") your (str "RPTR1  B") (str "RPTR1  G")).setId id

def frame (id : Nat) : AMBEData := AMBEData.blank.setId id
def lastFrame (id : Nat) : AMBEData := (frame id).setEnd

/-- The run of the events from the start of the group. -/
theorem run (es : List GroupEvent) (p : List GroupHandler.GroupEntry → GroupHandler → Bool)
    (accepted : accepts GroupHandler.step (GroupHandler.init config) es p = true) :
    ∃ tr g, GroupHandler.GroupRun config tr g ∧ p tr g = true :=
  exists_run_of_accepts GroupHandler.step (GroupHandler.init config) es p accepted

end Sample
end SmartGroup
