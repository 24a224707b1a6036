import SmartGroup.Defs

/-! The decoded packets: headers, voice frames, polls and link control. -/
namespace SmartGroup
open Bytes

/-- `CHeaderData`; the callsigns are byte arrays of their fixed lengths. -/
structure HeaderData where
  id : Nat
  band1 : UInt8
  band2 : UInt8
  band3 : UInt8
  flag1 : UInt8
  flag2 : UInt8
  flag3 : UInt8
  rptCall1 : Str
  rptCall2 : Str
  yourCall : Str
  myCall1 : Str
  myCall2 : Str
  yourAddress : Str
  yourPort : Nat
  myPort : Nat
  deriving DecidableEq, Repr

namespace HeaderData

/-- `CHeaderData()`. -/
def blank : HeaderData where
  id := 0
  band1 := 0x00
  band2 := 0x02
  band3 := 0x01
  flag1 := 0
  flag2 := 0
  flag3 := 0
  rptCall1 := padTo longCallsignLength []
  rptCall2 := padTo longCallsignLength []
  yourCall := padTo longCallsignLength []
  myCall1 := padTo longCallsignLength []
  myCall2 := padTo shortCallsignLength []
  yourAddress := []
  yourPort := 0
  myPort := 0

/-- The constructor from callsigns, with flags zero. -/
def ofCalls (myCall1 myCall2 yourCall rptCall1 rptCall2 : Str) : HeaderData :=
  { blank with
    band2 := 0
    band3 := 0
    myCall1 := padTo longCallsignLength myCall1
    myCall2 := padTo shortCallsignLength myCall2
    yourCall := padTo longCallsignLength yourCall
    rptCall1 := padTo longCallsignLength rptCall1
    rptCall2 := padTo longCallsignLength rptCall2 }

/-- `getId` returns an `unsigned short`. -/
def getId (h : HeaderData) : Nat := h.id % 65536

def setId (h : HeaderData) (id : Nat) : HeaderData := { h with id }

def setYourCall (h : HeaderData) (your : Str) : HeaderData :=
  { h with yourCall := padTo longCallsignLength your }

def setMyCall1 (h : HeaderData) (my1 : Str) : HeaderData :=
  { h with myCall1 := padTo longCallsignLength my1 }

def setMyCall2 (h : HeaderData) (my2 : Str) : HeaderData :=
  { h with myCall2 := padTo shortCallsignLength my2 }

def setRptCall1 (h : HeaderData) (rpt1 : Str) : HeaderData :=
  { h with rptCall1 := padTo longCallsignLength rpt1 }

def setRptCall2 (h : HeaderData) (rpt2 : Str) : HeaderData :=
  { h with rptCall2 := padTo longCallsignLength rpt2 }

/-- `setRepeaters` copies eight bytes of each `c_str()`. -/
def setRepeaters (h : HeaderData) (rpt1 rpt2 : Str) : HeaderData :=
  { h with
    rptCall1 := (rpt1 ++ List.replicate longCallsignLength 0).take longCallsignLength
    rptCall2 := (rpt2 ++ List.replicate longCallsignLength 0).take longCallsignLength }

def setCQCQCQ (h : HeaderData) : HeaderData := { h with yourCall := str "CQCQCQ  " }

def setFlags (h : HeaderData) (flag1 flag2 flag3 : UInt8) : HeaderData :=
  { h with flag1, flag2, flag3 }

def setDestination (h : HeaderData) (address : Str) (port : Nat) : HeaderData :=
  { h with yourAddress := address, yourPort := port }

/-- `setG2Data` with `check = false`, the only way the server calls it. -/
def setG2Data (h : HeaderData) (data : List UInt8) (length : Nat) (yourAddress : Str)
    (yourPort : Nat) : Try HeaderData := do
  require (decide (56 ≤ length))
  let band1 ← byte data 9
  let band2 ← byte data 10
  let band3 ← byte data 11
  let high ← byte data 12
  let low ← byte data 13
  let flag1 ← byte data 15
  let flag2 ← byte data 16
  let flag3 ← byte data 17
  let rptCall2 ← copy data 18 longCallsignLength
  let rptCall1 ← copy data 26 longCallsignLength
  let yourCall ← copy data 34 longCallsignLength
  let myCall1 ← copy data 42 longCallsignLength
  let myCall2 ← copy data 50 shortCallsignLength
  return { h with
    band1, band2, band3
    id := high.toNat * 256 + low.toNat
    flag1, flag2, flag3, rptCall2, rptCall1, yourCall, myCall1, myCall2, yourAddress, yourPort }

def setDCSData (h : HeaderData) (data : List UInt8) (length : Nat) (yourAddress : Str)
    (yourPort myPort : Nat) : Try HeaderData := do
  require (decide (100 ≤ length))
  let high ← byte data 44
  let low ← byte data 43
  let flag1 ← byte data 4
  let flag2 ← byte data 5
  let flag3 ← byte data 6
  let rptCall2 ← copy data 7 longCallsignLength
  let rptCall1 ← copy data 15 longCallsignLength
  let yourCall ← copy data 23 longCallsignLength
  let myCall1 ← copy data 31 longCallsignLength
  let myCall2 ← copy data 39 shortCallsignLength
  return { h with
    id := high.toNat * 256 + low.toNat
    flag1, flag2, flag3, rptCall2, rptCall1, yourCall, myCall1, myCall2
    yourAddress, yourPort, myPort }

end HeaderData

/-- `CAMBEData`. -/
structure AMBEData where
  rptSeq : Nat
  outSeq : UInt8
  id : Nat
  band1 : UInt8
  band2 : UInt8
  band3 : UInt8
  yourAddress : Str
  yourPort : Nat
  myPort : Nat
  header : HeaderData
  data : Str
  deriving DecidableEq, Repr

namespace AMBEData

def dvFrameLength : Nat := 12

/-- `CAMBEData()`; the constructor leaves the twelve data bytes unset, and every
caller sets them before it sends the frame. -/
def blank : AMBEData where
  rptSeq := 0
  outSeq := 0
  id := 0
  band1 := 0x00
  band2 := 0x02
  band3 := 0x01
  yourAddress := []
  yourPort := 0
  myPort := 0
  header := .blank
  data := List.replicate dvFrameLength 0

def getId (d : AMBEData) : Nat := d.id % 65536
def setId (d : AMBEData) (id : Nat) : AMBEData := { d with id := id % 65536 }
def getSeq (d : AMBEData) : Nat := (d.outSeq &&& 0x1F).toNat
def setSeq (d : AMBEData) (seqNo : Nat) : AMBEData := { d with outSeq := UInt8.ofNat seqNo }
def isEnd (d : AMBEData) : Bool := d.outSeq &&& 0x40 = 0x40
def setEnd (d : AMBEData) : AMBEData := { d with outSeq := d.outSeq ||| 0x40 }
def setRptSeq (d : AMBEData) (seqNo : Nat) : AMBEData := { d with rptSeq := seqNo }
def setData (d : AMBEData) (data : Str) : AMBEData := { d with data := data.take dvFrameLength }

def setDestination (d : AMBEData) (address : Str) (port : Nat) : AMBEData :=
  { d with yourAddress := address, yourPort := port }

def setG2Data (d : AMBEData) (data : List UInt8) (length : Nat) (yourAddress : Str)
    (yourPort : Nat) : Try AMBEData := do
  require (decide (27 ≤ length))
  let band1 ← byte data 9
  let band2 ← byte data 10
  let band3 ← byte data 11
  let high ← byte data 12
  let low ← byte data 13
  let outSeq ← byte data 14
  let voice ← copy data 15 dvFrameLength
  return { d with
    band1, band2, band3, outSeq
    id := high.toNat * 256 + low.toNat
    data := voice
    yourAddress, yourPort }

def setDCSData (d : AMBEData) (data : List UInt8) (length : Nat) (yourAddress : Str)
    (yourPort myPort : Nat) : Try AMBEData := do
  require (decide (100 ≤ length))
  let header ← d.header.setDCSData data length yourAddress yourPort myPort
  let high ← byte data 44
  let low ← byte data 43
  let outSeq ← byte data 45
  let voice ← copy data 46 dvFrameLength
  let seq2 ← byte data 60
  let seq1 ← byte data 59
  let seq0 ← byte data 58
  return { d with
    header, outSeq
    id := high.toNat * 256 + low.toNat
    data := voice
    rptSeq := seq2.toNat * 65536 + seq1.toNat * 256 + seq0.toNat
    yourAddress, yourPort, myPort }

end AMBEData
end SmartGroup
