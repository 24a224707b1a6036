import SmartGroup.Utils

/-! The configuration. `SGSConfig.cpp` reads a file through libconfig, which is a partial
map from paths to settings: a lookup that finds nothing, or a setting of another type,
leaves the default. -/
namespace SmartGroup
open Bytes

/-- A setting; a group or a list counts for its length. -/
inductive Setting where
  | int (n : Int)
  | bool (b : Bool)
  | string (s : Str)
  | aggregate (length : Nat)

abbrev Config := Str → Option Setting

namespace Config

def lookupInt (cfg : Config) (path : Str) : Option Int :=
  match cfg path with
  | some (.int n) => some n
  | _ => none

def lookupBool (cfg : Config) (path : Str) : Option Bool :=
  match cfg path with
  | some (.bool b) => some b
  | _ => none

def lookupString (cfg : Config) (path : Str) : Option Str :=
  match cfg path with
  | some (.string s) => some s
  | _ => none

/-- `lookup(path).getLength()`, where the lookup throws if there is no such setting. -/
def getLength (cfg : Config) (path : Str) : Except Str Nat :=
  match cfg path with
  | some (.aggregate length) => .ok length
  | some _ => .ok 0
  | none => .error path

end Config

structure Smodule where
  band : Str
  callsign : Str
  logoff : Str
  info : Str
  reflector : Str
  listenOnly : Bool
  showlink : Bool
  usertimeout : Nat
  deriving DecidableEq

structure Sircddb where
  hostname : Str
  username : Str
  password : Str
  deriving DecidableEq

structure CSGSConfig where
  callsign : Str
  modules : List Smodule
  ircddb : List Sircddb
  remoteEnabled : Bool
  remotePassword : Str
  remotePort : Nat
  ipv6 : Bool
  deriving DecidableEq

/-- `operator[]` of a string; the position at the end holds the terminator. -/
def letter (s : Str) (i : Nat) : UInt8 := s[i]?.getD 0

namespace CSGSConfig

/-- `int l = value.length()`. -/
def intLength (s : Str) : Int := (BitVec.ofNat 32 s.length).toInt

/-- `get_value` for a number. -/
def getInt (cfg : Config) (path : Str) (min max default : Int) : Int :=
  match cfg.lookupInt path with
  | some n => if n < min ∨ max < n then default else n
  | none => default

/-- `get_value` for a switch. -/
def getBool (cfg : Config) (path : Str) (default : Bool) : Bool :=
  (cfg.lookupBool path).getD default

/-- The length that `get_value` asks of a text. -/
def Measures (min max : Int) (s : Str) : Prop := min ≤ intLength s ∧ intLength s ≤ max

instance (min max : Int) (s : Str) : Decidable (Measures min max s) :=
  inferInstanceAs (Decidable (_ ∧ _))

/-- `get_value` for a text: the value and what the function returns. A text of a wrong
length is reported, and is the value all the same. -/
def getString (cfg : Config) (path : Str) (min max : Int) (default : Str) : Str × Bool :=
  match cfg.lookupString path with
  | some s => (s, decide (Measures min max s))
  | none => (default, true)

/-- `snprintf(key, 32, "list.[%d].option", i)`; 32 bytes hold each of them for any `int`. -/
def key (list : String) (i : Nat) (option : String) : Str :=
  str list ++ str ".[" ++ Calendar.decimal i ++ str "]." ++ str option

/-- An IRC server that the configuration names. -/
def serverAt (cfg : Config) (callsign : Str) (i : Nat) : Sircddb :=
  let username := (getString cfg (key "ircddb" i "username") 0 8 []).1
  { hostname := (getString cfg (key "ircddb" i "hostname") 5 64 (str "ircv4.openquad.net")).1
    username := if username = [] then callsign else toUpper username
    password := (getString cfg (key "ircddb" i "password") 0 30 []).1 }

/-- The IRC servers; without any there is the one of the network. -/
def servers (cfg : Config) (callsign : Str) : List Sircddb :=
  match cfg.getLength (str "ircddb") with
  | .error _ => [⟨str "ircv4.openquad.net", callsign, []⟩]
  | .ok 0 => [⟨str "ircv4.openquad.net", callsign, []⟩]
  | .ok 1 => [serverAt cfg callsign 0]
  | .ok _ => [serverAt cfg callsign 0, serverAt cfg callsign 1]

/-- The basename of a module, cleared where it is malformed. -/
def basenameAt (cfg : Config) (i : Nat) : Str :=
  let (basename, fits) := getString cfg (key "module" i "basename") 1 7 []
  if fits then if basename.all isAlnum then toUpper basename else [] else basename

/-- The form that a reflector must have. -/
def IsReflector (s : Str) : Prop :=
  (s.take 3 = str "XRF" ∨ s.take 3 = str "DCS") ∧ isAlnum (letter s 3) ∧ isAlnum (letter s 4) ∧
    isAlnum (letter s 5) ∧ letter s 6 = 32 ∧ isAlpha (letter s 7)

instance (s : Str) : Decidable (IsReflector s) := inferInstanceAs (Decidable (_ ∧ _))

/-- The reflector of a module. -/
def reflectorAt (cfg : Config) (i : Nat) : Str :=
  let (basename, fits) := getString cfg (key "module" i "reflector") 8 8 []
  let basename := if fits then basename else []
  if basename = [] then []
  else
    let basename := toUpper basename
    if IsReflector basename then basename else []

def bandAt (cfg : Config) (i : Nat) : Str :=
  toUpper (getString cfg (key "module" i "band") 1 1 (str "A")).1

def subscribeAt (cfg : Config) (i : Nat) : Str :=
  toUpper (getString cfg (key "module" i "subscribe") 1 1 (str "A")).1

def unsubscribeAt (cfg : Config) (i : Nat) : Str :=
  toUpper (getString cfg (key "module" i "unsubscribe") 1 1 (str "T")).1

/-- The basename behind the tests of the other letters; each that fails clears it. -/
def checkedAt (cfg : Config) (i : Nat) : Str :=
  let basename := basenameAt cfg i
  let band := bandAt cfg i
  let basename := if isAlpha (letter band 0) then basename else []
  let basename := if letter band 0 = 71 then [] else basename
  let subscribe := subscribeAt cfg i
  let basename :=
    if letter subscribe 0 ≠ 32 ∧ (letter subscribe 0 < 65 ∨ 90 < letter subscribe 0) then []
    else basename
  let basename := if letter subscribe 0 = 76 then [] else basename
  let unsubscribe := unsubscribeAt cfg i
  let basename :=
    if letter unsubscribe 0 < 65 ∨ 90 < letter unsubscribe 0 then [] else basename
  let basename := if letter unsubscribe 0 = 76 then [] else basename
  if subscribe = unsubscribe then [] else basename

/-- One turn of the loop over the modules; a module without basename is skipped. -/
def moduleAt (cfg : Config) (i : Nat) : Option Smodule :=
  let basename := checkedAt cfg i
  if basename = [] then none
  else
    let basename := padTo 7 basename
    let info := (getString cfg (key "module" i "info") 0 20 (str "Smart Group Server")).1
    let usertimeout := getInt cfg (key "module" i "usertimeout") 0 600 300
    let listenOnly := getBool cfg (key "module" i "rxonly") false
    let reflector := reflectorAt cfg i
    some
      { band := bandAt cfg i
        callsign := basename ++ subscribeAt cfg i
        logoff := basename ++ unsubscribeAt cfg i
        info := if info = [] then [] else padTo 20 info
        reflector
        listenOnly := if listenOnly ∧ reflector.length < 8 then false else listenOnly
        showlink := getBool cfg (key "module" i "showlink") true
        usertimeout := (usertimeout % 4294967296).toNat }

/-- The part for the remote control. -/
def readRemote (cfg : Config) (c : CSGSConfig) : CSGSConfig :=
  if getBool cfg (str "remote.enabled") false then
    { c with
      remoteEnabled := true
      remotePassword := (getString cfg (str "remote.password") 6 30 []).1
      remotePort := (getInt cfg (str "remote.port") 1000 65000 39999 % 65536).toNat
      ipv6 := 52 ∉ (getString cfg (str "remote.family") 0 30 (str "ipv4")).1 }
  else { c with remoteEnabled := false, remotePassword := [], remotePort := 0, ipv6 := false }

/-- The constructor, on memory that says what the members hold which have no constructor
of their own. There is no configuration where the file has no name, cannot be read or is
not well formed. -/
def read (memory : CSGSConfig) (file : Option Config) : Except Str CSGSConfig :=
  let c := { memory with callsign := [], modules := [], ircddb := [], remotePassword := [] }
  match file with
  | none => .ok c
  | some cfg =>
      let (callsign, fits) := getString cfg (str "gateway.callsign") 3 8 []
      if !fits ∨ callsign = [] then .ok { c with callsign }
      else
        let callsign := toUpper callsign
        match cfg.getLength (str "module") with
        | .error path => .error path
        | .ok n =>
            .ok (readRemote cfg
              { c with
                callsign
                ircddb := servers cfg callsign
                modules := (List.range n).filterMap (moduleAt cfg) })

end CSGSConfig
end SmartGroup
