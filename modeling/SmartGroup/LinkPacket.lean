import SmartGroup.Packet

/-! Polls and link control, `CPollData` and `CConnectData`. -/
namespace SmartGroup
open Bytes

structure PollData where
  data1 : Str
  data2 : Str
  direction : Direction
  dongle : Bool
  length : Nat
  yourAddress : Str
  yourPort : Nat
  myPort : Nat
  deriving DecidableEq, Repr

namespace PollData

def blank : PollData where
  data1 := []
  data2 := []
  direction := .outgoing
  dongle := false
  length := 0
  yourAddress := []
  yourPort := 0
  myPort := 0

/-- The outgoing poll that a DCS handler writes. -/
def ofPair (data1 data2 : Str) (direction : Direction) (yourAddress : Str)
    (yourPort myPort : Nat) : PollData :=
  { blank with data1, data2, direction, yourAddress, yourPort, myPort }

def ofOne (data : Str) (yourAddress : Str) (yourPort myPort : Nat) : PollData :=
  { blank with data1 := data, yourAddress, yourPort, myPort }

def setDExtraData (p : PollData) (data : List UInt8) (length : Nat) (yourAddress : Str)
    (yourPort myPort : Nat) : Try PollData := do
  require (decide (9 ≤ length))
  require (decide (0 < yourPort))
  let text ← cstring data
  let last ← byte data longCallsignLength
  return { p with
    data1 := padTo longCallsignLength text
    dongle := last ≠ 0
    length, yourAddress, yourPort, myPort }

def setDCSData (p : PollData) (data : List UInt8) (length : Nat) (yourAddress : Str)
    (yourPort myPort : Nat) : Try PollData := do
  require (decide (0 < yourPort))
  let sdata ← cstring data
  if length = 17 then
    let data1 ← substr sdata 0 longCallsignLength
    let data2 ← substr sdata 9 longCallsignLength
    return { p with data1, data2, length, direction := .incoming, yourAddress, yourPort, myPort }
  else if length = 22 then
    let data1 ← substr sdata 0 longCallsignLength
    let data2 ← substr sdata 9 (longCallsignLength - 1)
    let last ← charAt sdata 17
    return { p with
      data1
      data2 := data2 ++ [last]
      length
      direction := .outgoing
      yourAddress, yourPort, myPort }
  else return p

def getDExtraData (p : PollData) : List UInt8 := padTo longCallsignLength p.data1 ++ [0]

def getDCSData (p : PollData) : List UInt8 :=
  match p.direction with
  | .outgoing => padTo longCallsignLength p.data1 ++ 0 :: padTo longCallsignLength p.data2
  | .incoming =>
      padTo longCallsignLength p.data1 ++ 32 :: padTo (longCallsignLength - 1) p.data2 ++
        (32 :: p.data2.getD (longCallsignLength - 1) 32 :: [0x0A, 0x00, 32, 32])

end PollData

inductive CDType where
  | link1
  | link2
  | unlink
  | ack
  | nak
  deriving DecidableEq, Repr

structure ConnectData where
  gatewayType : GatewayType
  repeater : Str
  reflector : Str
  type : CDType
  locator : Str
  yourAddress : Str
  yourPort : Nat
  myPort : Nat
  deriving DecidableEq, Repr

namespace ConnectData

def blank : ConnectData where
  gatewayType := .repeater
  repeater := padTo longCallsignLength []
  reflector := []
  type := .link1
  locator := []
  yourAddress := []
  yourPort := 0
  myPort := 0

/-- The constructors; the ones without a reflector or repeater leave it empty. -/
def ofLink (gatewayType : GatewayType) (repeater reflector : Str) (type : CDType)
    (yourAddress : Str) (yourPort myPort : Nat) : ConnectData :=
  { blank with gatewayType, repeater, reflector, type, yourAddress, yourPort, myPort }

/-- The repeater name with the band letter that follows it in the packet. -/
def callsign (data : List UInt8) (start last : Nat) : Try Str := do
  let name ← copy data start longCallsignLength
  let band ← byte data last
  return name.set (longCallsignLength - 1) band

/-- The answer in the three bytes behind the band letters. -/
def answer (data : List UInt8) : Try (Option CDType) := do
  let a ← byte data (longCallsignLength + 2)
  let b ← byte data (longCallsignLength + 3)
  let c ← byte data (longCallsignLength + 4)
  return if [a, b, c] = str "ACK" then some .ack else if [a, b, c] = str "NAK" then some .nak else none

/-- `none` where the packet is refused. -/
def setDExtraData (p : ConnectData) (data : List UInt8) (length : Nat) (yourAddress : Str)
    (yourPort myPort : Nat) : Try (Option ConnectData) := do
  require (decide (11 ≤ length))
  require (decide (0 < yourPort))
  let repeater ← callsign data 0 longCallsignLength
  let band ← byte data (longCallsignLength + 1)
  let reflector := (padTo longCallsignLength []).set (longCallsignLength - 1) band
  let p := { p with repeater, reflector }
  if length = 11 then
    let type := if reflector = padTo longCallsignLength [] then .unlink else .link1
    return some { p with type, yourAddress, yourPort, myPort }
  else if length = 14 then
    let type ← answer data
    return type.map fun type => { p with type, yourAddress, yourPort, myPort }
  else return none

def setDCSData (p : ConnectData) (data : List UInt8) (length : Nat) (yourAddress : Str)
    (yourPort myPort : Nat) : Try (Option ConnectData) := do
  require (decide (11 ≤ length))
  require (decide (0 < yourPort))
  let repeater ← callsign data 0 longCallsignLength
  let p := { p with repeater }
  if length = 519 then
    let reflector ← callsign data (longCallsignLength + 3) (longCallsignLength + 1)
    return some { p with reflector, type := .link1, yourAddress, yourPort, myPort }
  else if length = 19 then
    let reflector ← callsign data (longCallsignLength + 3) (longCallsignLength + 1)
    return some { p with reflector, type := .unlink, yourAddress, yourPort, myPort }
  else if length = 14 then
    let type ← answer data
    return type.map fun type => { p with type, yourAddress, yourPort, myPort }
  else return none

end ConnectData
end SmartGroup
