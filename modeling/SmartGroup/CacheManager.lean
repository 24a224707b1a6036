import SmartGroup.Defs

/-! `CCacheManager`. A lookup that finds nothing returns the empty string. Hash maps
are modelled by ordered ones: their order shows only in `findServerUser`, which is
given the order in which it meets the names. -/
namespace SmartGroup
open Bytes Sweep

structure CacheManager where
  userTime : OrdMap Str Str
  userRptr : OrdMap Str Str
  rptrGate : OrdMap Str Str
  gateAddr : OrdMap Str Str
  nameNick : OrdMap Str Str

/-- The three strings that `findUserData` returns. -/
structure UserData where
  rptr : Str
  gate : Str
  addr : Str
  deriving DecidableEq, Repr

theorem set_last {s : Str} (eight : s.length = 8) (b : UInt8) : s.set 7 b = s.take 7 ++ [b] := by
  rw [List.set_eq_take_append_cons_drop, if_pos (by omega), List.drop_eq_nil_of_le (by omega)]

namespace CacheManager

def empty : CacheManager := ⟨∅, ∅, ∅, ∅, ∅⟩

def findUserRptr (c : CacheManager) (user : Str) : Str :=
  if user = [] then [] else (c.userRptr[user]?).getD []

/-- A repeater without an entry has the gateway of its own name. -/
def findRptrGate (c : CacheManager) (rptr : Str) : Str :=
  if rptr = [] then []
  else
    match c.rptrGate[rptr]? with
    | some gate => gate
    | none => rptr.set 7 71

def findGateAddr (c : CacheManager) (gate : Str) : Str :=
  if gate = [] then [] else (c.gateAddr[gate]?).getD []

def findUserData (c : CacheManager) (user : Str) : UserData :=
  let rptr := c.findUserRptr user
  let gate := c.findRptrGate rptr
  ⟨rptr, gate, c.findGateAddr gate⟩

def findUserAddr (c : CacheManager) (user : Str) : Str :=
  c.findGateAddr (c.findRptrGate (c.findUserRptr user))

/-- The gateway and the address that `findRptrData` returns. -/
def findRptrData (c : CacheManager) (rptr : Str) : Str × Str :=
  let gate := c.findRptrGate rptr
  (gate, c.findGateAddr gate)

def findUserRepeater (c : CacheManager) (user : Str) : Str := c.findUserRptr user

def findGateAddress (c : CacheManager) (gate : Str) : Str := c.findGateAddr gate

def updateUser (c : CacheManager) (user rptr gate addr time : Str) : CacheManager :=
  if user = [] then c
  else
    let c := if time = [] then c else { c with userTime := c.userTime.insert user time }
    if rptr = [] then c
    else
      let c := { c with userRptr := c.userRptr.insert user rptr }
      if gate = [] ∨ addr = [] then c
      else
        -- the gateway of the repeater's own name is supplied at lookup
        let c := if rptr.take 7 = gate.take 7 then c
          else { c with rptrGate := c.rptrGate.insert rptr gate }
        { c with gateAddr := c.gateAddr.insert gate addr }

/-- `updateGate`: underscores of the gateway stand for blanks. -/
def updateGate (c : CacheManager) (gate addr : Str) : CacheManager :=
  if gate = [] ∨ addr = [] then c
  else
    { c with gateAddr := c.gateAddr.insert (gate.map fun b => if b = 95 then 32 else b) addr }

/-- `updateRptr`: unlike in `updateUser` the gateway is kept whatever its name. -/
def updateRptr (c : CacheManager) (rptr gate addr : Str) : CacheManager :=
  if rptr = [] ∨ gate = [] then c
  else
    let c := { c with rptrGate := c.rptrGate.insert rptr gate }
    if addr = [] then c else { c with gateAddr := c.gateAddr.insert gate addr }

def updateName (c : CacheManager) (name nick : Str) : CacheManager :=
  if name = [] ∨ nick = [] then c else { c with nameNick := c.nameNick.insert name nick }

def eraseGate (c : CacheManager) (gate : Str) : CacheManager :=
  { c with gateAddr := c.gateAddr.erase gate }

def eraseName (c : CacheManager) (name : Str) : CacheManager :=
  { c with nameNick := c.nameNick.erase name }

/-- A reflector's gateway, which `clearGate` keeps. -/
def isReflector (gate : Str) : Bool := gate.take 3 = str "DCS" || gate.take 3 = str "XRF"

def clearGate (c : CacheManager) : CacheManager :=
  { c with gateAddr := c.gateAddr.filter fun gate _ => isReflector gate, nameNick := ∅ }

/-- The names in the order in which an iteration over the hash map meets them: the
listed ones first. -/
def names (c : CacheManager) (order : List Str) : List Str :=
  let keys := c.nameNick.keys
  order.filter (· ∈ keys) ++ keys.filter (· ∉ order)

/-- The name of an ircDDB server. -/
def isServer (name : Str) : Bool := name.take 2 = str "s-"

/-- `findServerUser`: the first server the iteration meets. -/
def findServerUser (c : CacheManager) (order : List Str) : Str :=
  ((c.names order).find? isServer).getD []

/-! What the updates leave alone. -/

@[simp] theorem updateUser_nameNick (c : CacheManager) (user rptr gate addr time : Str) :
    (c.updateUser user rptr gate addr time).nameNick = c.nameNick := by
  unfold updateUser
  split
  · rfl
  · simp only
    repeat' split
    all_goals rfl

/-- Without a gateway the update is about the user's repeater only. -/
@[simp] theorem updateUser_rptrGate (c : CacheManager) (user rptr time : Str) :
    (c.updateUser user rptr [] [] time).rptrGate = c.rptrGate := by
  simp only [updateUser, true_or, if_true]
  split
  · rfl
  · split <;> split <;> rfl

/-- Such an update writes no address. -/
@[simp] theorem updateUser_gateAddr (c : CacheManager) (user rptr time : Str) :
    (c.updateUser user rptr [] [] time).gateAddr = c.gateAddr := by
  simp only [updateUser, true_or, if_true]
  split
  · rfl
  · split <;> split <;> rfl

@[simp] theorem updateRptr_gateAddr (c : CacheManager) (rptr gate : Str) :
    (c.updateRptr rptr gate []).gateAddr = c.gateAddr := by
  simp only [updateRptr, if_true]
  split <;> rfl

@[simp] theorem updateGate_nameNick (c : CacheManager) (gate addr : Str) :
    (c.updateGate gate addr).nameNick = c.nameNick := by
  unfold updateGate
  split <;> rfl

@[simp] theorem updateGate_rptrGate (c : CacheManager) (gate addr : Str) :
    (c.updateGate gate addr).rptrGate = c.rptrGate := by
  unfold updateGate
  split <;> rfl

@[simp] theorem updateRptr_nameNick (c : CacheManager) (rptr gate addr : Str) :
    (c.updateRptr rptr gate addr).nameNick = c.nameNick := by
  unfold updateRptr
  split
  · rfl
  · simp only
    split <;> rfl

@[simp] theorem updateName_rptrGate (c : CacheManager) (name nick : Str) :
    (c.updateName name nick).rptrGate = c.rptrGate := by
  unfold updateName
  split <;> rfl

@[simp] theorem updateName_gateAddr (c : CacheManager) (name nick : Str) :
    (c.updateName name nick).gateAddr = c.gateAddr := by
  unfold updateName
  split <;> rfl

@[simp] theorem findUserData_addr (c : CacheManager) (user : Str) :
    (c.findUserData user).addr = c.findUserAddr user := rfl

@[simp] theorem findUserData_rptr (c : CacheManager) (user : Str) :
    (c.findUserData user).rptr = c.findUserRepeater user := rfl

/-- A user without a repeater has no address. -/
theorem findUserAddr_of_no_repeater (c : CacheManager) {user : Str}
    (unknown : c.findUserRepeater user = []) : c.findUserAddr user = [] := by
  unfold findUserRepeater at unknown
  simp [findUserAddr, unknown, findRptrGate, findGateAddr]

end CacheManager

/-- What the group handlers use of a `CIRCDDB`. -/
structure IRCDDB where
  cache : CacheManager
  connectionState : Nat

/-- What a group operation finds in the world around it: the one or two ircDDB
connections, the wall clock, the gateway's callsign and the random numbers. -/
structure Env where
  irc0 : IRCDDB
  irc1 : Option IRCDDB
  now : Int
  gateway : Str
  rand : Nat → Nat

namespace Env

/-- The loops over the connections that are there. -/
def ircs (env : Env) : List (Nat × IRCDDB) :=
  (0, env.irc0) :: env.irc1.toList.map fun irc => (1, irc)

/-- The address in the first cache, else in the second one. -/
def findUserAddr (env : Env) (user : Str) : Str :=
  let address := env.irc0.cache.findUserAddr user
  match env.irc1 with
  | some irc1 => if address = [] then irc1.cache.findUserAddr user else address
  | none => address

/-- The record through which a listener is reached. -/
def findUserData (env : Env) (user : Str) : UserData :=
  let data := env.irc0.cache.findUserData user
  match env.irc1 with
  | some irc1 => if data.addr = [] then irc1.cache.findUserData user else data
  | none => data

/-- The home repeater that a relayed header is not sent to. -/
def findUserRepeater (env : Env) (user : Str) : Str :=
  let exclude := env.irc0.cache.findUserRepeater user
  match env.irc1 with
  | some irc1 => if exclude = [] then irc1.cache.findUserRepeater user else exclude
  | none => exclude

/-- The connection, and so the G2 socket, that reaches an IPv4 or an IPv6 address. -/
def server (env : Env) (isIPv4 : Bool) : Nat := if isIPv4 && env.irc1.isSome then 1 else 0

theorem findUserData_addr (env : Env) (user : Str) :
    (env.findUserData user).addr = env.findUserAddr user := by
  unfold findUserData findUserAddr
  cases env.irc1 with
  | none => rfl
  | some irc1 =>
      by_cases unknown : env.irc0.cache.findUserAddr user = [] <;> simp [unknown]

end Env
end SmartGroup
