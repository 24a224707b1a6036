import SmartGroup.Support.Bytes
import SmartGroup.Support.Heap
import SmartGroup.Support.Sweep

/-! Constants and enumerations of `Defs.h` and `DStarDefines.h`, and `CTimer`. -/
namespace SmartGroup
open Bytes Sweep

def longCallsignLength : Nat := 8
def shortCallsignLength : Nat := 4
def dcsPort : Nat := 30051
def dextraPort : Nat := 30001
def g2DvPort : Nat := 40000
def g2Ipv6Port : Nat := 9011
def networkTimeout : Nat := 2

/-- `MESSAGE_DELAY` of `GroupHandler.cpp`, in seconds. -/
def messageDelay : Nat := 4

/-- The name that `LogoffUser` takes for every user. -/
def allUsers : Str := str "ALL     "

inductive LinkType where
  | none
  | dextra
  | dcs
  deriving DecidableEq, Repr

inductive LinkStatus where
  | none
  | pendingIrcddb
  | linkingLoopback
  | linkingDextra
  | linkingDcs
  | linkedLoopback
  | linkedDextra
  | linkedDcs
  | init
  deriving DecidableEq, Repr

inductive Direction where
  | incoming
  | outgoing
  deriving DecidableEq, Repr

inductive GatewayType where
  | repeater
  | hotspot
  | dongle
  | smartgroup
  deriving DecidableEq, Repr

/-- How the program can go wrong in a way that C++ leaves undefined. -/
inductive Fault where
  | nullDeref
  | useAfterDelete
  deriving DecidableEq, Repr

/-- `unsigned int`. -/
def word : Nat := 2 ^ 32

/-- `CTimer`: milliseconds for `ticksPerSec = 1000`, running when `timer` is not zero. -/
structure Timer where
  ticksPerSec : Nat
  timeout : Nat
  timer : Nat
  deriving DecidableEq, Repr

namespace Timer

def span (ticksPerSec secs msecs : Nat) : Nat :=
  if 0 < secs ∨ 0 < msecs then ((secs * 1000 + msecs) * ticksPerSec / 1000 + 1) % word else 0

/-- The constructor. -/
def new (ticksPerSec secs msecs : Nat) : Timer :=
  ⟨ticksPerSec, span ticksPerSec secs msecs, 0⟩

def setTimeout (t : Timer) (secs msecs : Nat) : Timer :=
  if 0 < secs ∨ 0 < msecs then { t with timeout := span t.ticksPerSec secs msecs }
  else { t with timeout := 0, timer := 0 }

/-- `start()`. -/
def start (t : Timer) : Timer := if 0 < t.timeout then { t with timer := 1 } else t

/-- `start(secs, msecs)`. -/
def startFor (t : Timer) (secs msecs : Nat) : Timer := (t.setTimeout secs msecs).start

def stop (t : Timer) : Timer := { t with timer := 0 }

def isRunning (t : Timer) : Bool := 0 < t.timer

def hasExpired (t : Timer) : Bool := t.timeout ≠ 0 && t.timer ≠ 0 && t.timeout ≤ t.timer

def clock (t : Timer) (ms : Nat) : Timer :=
  if 0 < t.timer ∧ 0 < t.timeout then { t with timer := (t.timer + ms) % word } else t

/-- `isRunning() && hasExpired()` after `clock(ms)`. -/
def fires (t : Timer) (ms : Nat) : Bool := (t.clock ms).isRunning && (t.clock ms).hasExpired

end Timer
end SmartGroup
