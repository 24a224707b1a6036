import SmartGroup.SlowText
import SmartGroup.Protocol.Wire
import SmartGroup.Support.Machine

/-! `CSlowDataEncoder` with all of its members; `SlowDataEncoder` is its part for the text. The
arrays are the encoder's own, and a pointer to one may outlive it. -/
namespace SmartGroup
open Bytes

def slowDataBlockSize : Nat := 6
def slowHeaderSize : Nat := 54
def slowTextSize : Nat := 24

/-- How a call goes wrong: outside an array, through a pointer that leads to none, or in a
loop that has not ended in the turns that it was given. -/
inductive SlowFault where
  | bytes (f : Failure)
  | pointer (f : Fault)
  | unfinished
  deriving DecidableEq, Repr

abbrev SlowTry := Except SlowFault

def access {α : Type} : Try α → SlowTry α
  | .ok a => .ok a
  | .error f => .error (.bytes f)

theorem slow_bind {α β : Type} (a : α) (f : α → SlowTry β) : (.ok a : SlowTry α) >>= f = f a := rfl

theorem slow_bind_eq_ok {α β : Type} {t : SlowTry α} {f : α → SlowTry β} {b : β} :
    t >>= f = .ok b ↔ ∃ a, t = .ok a ∧ f a = .ok b := by
  cases t with
  | error fault => simp [bind, Except.bind]
  | ok a => simp [slow_bind]

theorem access_eq_ok {α : Type} {t : Try α} {a : α} : access t = .ok a ↔ t = .ok a := by
  cases t <;> simp [access]

inductive Pointer where
  | null
  | owned (bytes : Str)
  | freed
  deriving DecidableEq, Repr

namespace Pointer

theorem owned_ne_null {b : Str} : owned b ≠ null := by simp

theorem owned_ne_freed {b : Str} : owned b ≠ freed := by simp

theorem null_ne_owned {b : Str} : null ≠ owned b := by simp

theorem freed_ne_owned {b : Str} : freed ≠ owned b := by simp

theorem freed_ne_null : freed ≠ null := by simp

theorem null_ne_freed : null ≠ freed := by simp

/-- The pointer as a condition. -/
def isSet : Pointer → Bool
  | null => false
  | owned _ => true
  | freed => true

theorem isSet_iff {p : Pointer} : p.isSet ↔ p ≠ null := by cases p <;> simp [isSet]

/-- The array that is read through the pointer. -/
def target : Pointer → SlowTry Str
  | null => .error (.pointer .nullDeref)
  | owned bytes => .ok bytes
  | freed => .error (.pointer .useAfterDelete)

/-- `delete[]`. -/
def delete : Pointer → SlowTry Unit
  | freed => .error (.pointer .useAfterDelete)
  | _ => .ok ()

/-- The array is made where the pointer is null, and written as a whole. -/
def fill (bytes : Str) : Pointer → SlowTry Pointer
  | freed => .error (.pointer .useAfterDelete)
  | _ => .ok (owned bytes)

theorem delete_eq_ok_iff {p : Pointer} : p.delete = .ok () ↔ p ≠ freed := by
  cases p <;> simp [delete]

theorem fill_ok {p : Pointer} (live : p ≠ freed) (bytes : Str) : p.fill bytes = .ok (owned bytes) := by
  cases p with
  | freed => exact absurd rfl live
  | null | owned => rfl

end Pointer

structure SlowEncoder where
  headerData : Pointer
  textData : Pointer
  gpsData : Pointer
  interleavedData : Pointer
  headerPtr : Nat
  textPtr : Nat
  gpsPtr : Nat
  interleavedPtr : Nat
  gpsDataSize : Nat
  gpsDataFullSize : Nat
  interleavedDataFullSize : Nat
  deriving DecidableEq, Repr

namespace SlowEncoder

def new : SlowEncoder := ⟨.null, .null, .null, .null, 0, 0, 0, 0, 0, 0, 0⟩

/-! Clearing. -/

/-- What the four functions do with their pointer and position. -/
def clear (data : Pointer) (ptr : Nat) : SlowTry (Pointer × Nat) :=
  if data.isSet then do
    data.delete
    return (.null, 0)
  else return (data, ptr)

theorem clear_ok {data : Pointer} (live : data ≠ .freed) (ptr : Nat) :
    clear data ptr = .ok (.null, if data.isSet then 0 else ptr) := by
  cases data with
  | freed => exact absurd rfl live
  | null | owned => rfl

def clearHeaderData (e : SlowEncoder) : SlowTry SlowEncoder := do
  let (headerData, headerPtr) ← clear e.headerData e.headerPtr
  return { e with headerData, headerPtr }

def clearTextData (e : SlowEncoder) : SlowTry SlowEncoder := do
  let (textData, textPtr) ← clear e.textData e.textPtr
  return { e with textData, textPtr }

def clearGPSData (e : SlowEncoder) : SlowTry SlowEncoder := do
  let (gpsData, gpsPtr) ← clear e.gpsData e.gpsPtr
  return { e with gpsData, gpsPtr }

def clearInterleavedData (e : SlowEncoder) : SlowTry SlowEncoder := do
  let (interleavedData, interleavedPtr) ← clear e.interleavedData e.interleavedPtr
  return { e with interleavedData, interleavedPtr }

theorem clearHeaderData_ok {e : SlowEncoder} (live : e.headerData ≠ .freed) : e.clearHeaderData = .ok
    { e with headerData := .null, headerPtr := if e.headerData.isSet then 0 else e.headerPtr } := by
  rw [clearHeaderData, clear_ok live]
  rfl

theorem clearTextData_ok {e : SlowEncoder} (live : e.textData ≠ .freed) : e.clearTextData = .ok
    { e with textData := .null, textPtr := if e.textData.isSet then 0 else e.textPtr } := by
  rw [clearTextData, clear_ok live]
  rfl

theorem clearGPSData_ok {e : SlowEncoder} (live : e.gpsData ≠ .freed) : e.clearGPSData = .ok
    { e with gpsData := .null, gpsPtr := if e.gpsData.isSet then 0 else e.gpsPtr } := by
  rw [clearGPSData, clear_ok live]
  rfl

/-- What `clearInterleavedData` leaves. -/
def uninterleaved (e : SlowEncoder) : SlowEncoder :=
  { e with interleavedData := .null, interleavedPtr := if e.interleavedData.isSet then 0 else e.interleavedPtr }

theorem clearInterleavedData_ok {e : SlowEncoder} (live : e.interleavedData ≠ .freed) :
    e.clearInterleavedData = .ok e.uninterleaved := by
  rw [clearInterleavedData, clear_ok live]
  rfl

/-- The destructor does the same. -/
def reset (e : SlowEncoder) : SlowTry SlowEncoder := do
  let e ← e.clearHeaderData
  let e ← e.clearTextData
  let e ← e.clearGPSData
  e.clearInterleavedData

def sync (e : SlowEncoder) : SlowEncoder :=
  { e with headerPtr := 0, textPtr := 0, gpsPtr := 0, interleavedPtr := 0 }

/-! Setting. -/

def setTextData (e : SlowEncoder) (text : Str) : SlowTry SlowEncoder := do
  let e ← e.clearInterleavedData
  let textData ← e.textData.fill (SlowDataEncoder.blockOf text)
  return { e with textData, textPtr := 0 }

/-- The array that `setHeaderData` fills; `at` throws outside the callsign. -/
def headerBlock (h : HeaderData) : Try Str := do
  let front ← List.mapM id [
    .ok (0x50 ||| 5), .ok h.flag1, .ok h.flag2, .ok h.flag3, charOf h.rptCall2 0, charOf h.rptCall2 1,
    .ok (0x50 ||| 5), charOf h.rptCall2 2, charOf h.rptCall2 3, charOf h.rptCall2 4, charOf h.rptCall2 5, charOf h.rptCall2 6,
    .ok (0x50 ||| 5), charOf h.rptCall2 7, charOf h.rptCall1 0, charOf h.rptCall1 1, charOf h.rptCall1 2, charOf h.rptCall1 3,
    .ok (0x50 ||| 5), charOf h.rptCall1 4, charOf h.rptCall1 5, charOf h.rptCall1 6, charOf h.rptCall1 7, charOf h.yourCall 0,
    .ok (0x50 ||| 5), charOf h.yourCall 1, charOf h.yourCall 2, charOf h.yourCall 3, charOf h.yourCall 4, charOf h.yourCall 5,
    .ok (0x50 ||| 5), charOf h.yourCall 6, charOf h.yourCall 7, charOf h.myCall1 0, charOf h.myCall1 1, charOf h.myCall1 2,
    .ok (0x50 ||| 5), charOf h.myCall1 3, charOf h.myCall1 4, charOf h.myCall1 5, charOf h.myCall1 6, charOf h.myCall1 7,
    .ok (0x50 ||| 5), charOf h.myCall2 0, charOf h.myCall2 1, charOf h.myCall2 2, charOf h.myCall2 3]
  let covered ← List.mapM id [copy front 1 5, copy front 7 5, copy front 13 5, copy front 19 5,
    copy front 25 5, copy front 31 5, copy front 37 5, copy front 43 4]
  let checkSum := (covered.foldl CCITTChecksum.update CCITTChecksum.new).result
  let first ← byte checkSum 0
  let second ← byte checkSum 1
  let blocks := front ++ [first, 0x50 ||| 1, second]
  return blocks ++ List.replicate (slowDataFullBlockSize - blocks.length) 102

def setHeaderData (e : SlowEncoder) (h : HeaderData) : SlowTry SlowEncoder := do
  let e ← e.clearInterleavedData
  let bytes ← access (headerBlock h)
  let headerData ← e.headerData.fill bytes
  return { e with headerData, headerPtr := 0 }

/-- `FULL_BLOCK_SIZE * (1U + ((size - 1U) / FULL_BLOCK_SIZE))`. -/
def fullSize (size : Nat) : Nat :=
  slowDataFullBlockSize * (1 + (size + (word - 1)) % word / slowDataFullBlockSize) % word

/-- The loop of `setGPSData` from `pos` on, where `rest` of the string is left. -/
def fillGPS (full : Nat) : Nat → Nat → Str → Str → SlowTry Str
  | 0, pos, _, data => if pos < full then .error .unfinished else .ok data
  | turns + 1, pos, rest, data =>
      if pos < full then do
        let characters := rest.take 5
        let data ← access (write data pos [0x30 ||| UInt8.ofNat characters.length])
        let data ← access (write data (pos + 1) characters)
        fillGPS full turns (pos + 1 + characters.length) (rest.drop 5) data
      else .ok data

/-- `1U + ((gpsDataStrLen - 1U) / 6U) + gpsDataStrLen`. -/
def gpsSizeOf (s : Str) : Nat := (1 + (s.length - 1) / 6 + s.length) % word

/-- The array that is deleted is not forgotten. -/
def setGPSData (e : SlowEncoder) (s : Str) : SlowTry SlowEncoder := do
  let e ← e.clearInterleavedData
  e.gpsData.delete
  if s = [] then
    return { e with gpsData := if e.gpsData.isSet then .freed else .null, gpsDataSize := 0, gpsPtr := 0 }
  else
    let full := fullSize (gpsSizeOf s)
    let data ← fillGPS full full 0 s (List.replicate full 102)
    return { e with gpsData := .owned data, gpsDataSize := gpsSizeOf s, gpsDataFullSize := full, gpsPtr := 0 }

/-! Interleaving. -/

def interleavedSize (e : SlowEncoder) : Nat :=
  fullSize (((if e.textData.isSet then slowTextSize else 0) +
    (if e.headerData.isSet then slowHeaderSize else 0) +
    if e.gpsData.isSet then e.gpsDataSize else 0) % word)

def getInterleavedDataLength (e : SlowEncoder) : Nat × SlowEncoder :=
  (e.interleavedSize, { e with interleavedDataFullSize := e.interleavedSize })

/-- `memcpy` from one of the arrays. -/
def move (source : Pointer) (ptr n : Nat) (data : Str) (place : Nat) : SlowTry Str := do
  let bytes ← source.target
  let block ← access (copy bytes ptr n)
  access (write data place block)

/-- The variables of the loop in `buildInterleavedData`. -/
structure Interleaving where
  data : Str
  textPtr : Nat
  gpsPtr : Nat
  headerPtr : Nat

/-- The turn for the block at `interleavedPtr`, which is six times the slot. -/
def fillSlot (e : SlowEncoder) (s : Interleaving) (slot : Nat) : SlowTry Interleaving :=
  if s.textPtr < slowTextSize ∧ slot % 2 = 0 then do
    let data ← move e.textData s.textPtr slowDataBlockSize s.data (slowDataBlockSize * slot)
    return { s with data, textPtr := s.textPtr + slowDataBlockSize }
  else if s.gpsPtr < e.gpsDataSize then do
    let data ← move e.gpsData s.gpsPtr slowDataBlockSize s.data (slowDataBlockSize * slot)
    return { s with data, gpsPtr := s.gpsPtr + slowDataBlockSize }
  else if e.headerData.isSet ∧ s.headerPtr < slowHeaderSize then do
    let data ← move e.headerData s.headerPtr slowDataBlockSize s.data (slowDataBlockSize * slot)
    return { s with data, headerPtr := s.headerPtr + slowDataBlockSize }
  else return s

/-- Two full blocks one after the other. -/
def twoBlocks (first second : Pointer) (data : Str) : SlowTry Str := do
  let data ← move first 0 slowDataFullBlockSize data 0
  move second 0 slowDataFullBlockSize data slowDataFullBlockSize

/-- The array that `buildInterleavedData` makes. -/
def interleave (e : SlowEncoder) : SlowTry Str :=
  let size := e.interleavedSize
  let data := List.replicate size 102
  if e.textData.isSet && e.gpsData.isSet then do
    let slots := List.range ((size + (slowDataBlockSize - 1)) / slowDataBlockSize)
    let s ← slots.foldlM e.fillSlot ⟨data, 0, 0, 0⟩
    return s.data
  else if e.textData.isSet && !e.gpsData.isSet && e.headerData.isSet then
    twoBlocks e.textData e.headerData data
  else if !e.textData.isSet && e.gpsData.isSet && e.headerData.isSet then
    twoBlocks e.gpsData e.headerData data
  else return data

/-- The size is first asked of `getInterleavedDataLength`, which keeps it. -/
def buildInterleavedData (e : SlowEncoder) : SlowTry SlowEncoder :=
  if e.interleavedData.isSet then return e
  else do
    let bytes ← e.interleave
    return { e with interleavedDataFullSize := e.interleavedSize, interleavedData := .owned bytes }

/-! Reading. -/

def getData (source : Pointer) (ptr length : Nat) : SlowTry (Str × Nat) := do
  let bytes ← if source.isSet then source.target else .ok slowDataFillerBytes
  let first ← access (byte bytes ptr)
  let second ← access (byte bytes (ptr + 1))
  let third ← access (byte bytes (ptr + 2))
  return ([first ^^^ 0x70, second ^^^ 0x4F, third ^^^ 0x93], if length ≤ ptr + 3 then 0 else ptr + 3)

def getHeaderData (e : SlowEncoder) : SlowTry (Str × SlowEncoder) := do
  let (data, headerPtr) ← getData e.headerData e.headerPtr slowDataFullBlockSize
  return (data, { e with headerPtr })

def getTextData (e : SlowEncoder) : SlowTry (Str × SlowEncoder) := do
  let (data, textPtr) ← getData e.textData e.textPtr slowDataFullBlockSize
  return (data, { e with textPtr })

def getGPSData (e : SlowEncoder) : SlowTry (Str × SlowEncoder) := do
  let (data, gpsPtr) ← getData e.gpsData e.gpsPtr e.gpsDataFullSize
  return (data, { e with gpsPtr })

/-- The length is that of the GPS data. -/
def getInterleavedData (e : SlowEncoder) : SlowTry (Str × SlowEncoder) :=
  if e.textData.isSet && !e.gpsData.isSet && !e.headerData.isSet then e.getTextData
  else if !e.textData.isSet && e.gpsData.isSet && !e.headerData.isSet then e.getGPSData
  else if !e.textData.isSet && !e.gpsData.isSet && e.headerData.isSet then e.getHeaderData
  else do
    let e ← e.buildInterleavedData
    let (data, interleavedPtr) ← getData e.interleavedData e.interleavedPtr e.gpsDataFullSize
    return (data, { e with interleavedPtr })

end SlowEncoder

/-! The calls. -/

/-- A header as the class holds it. -/
abbrev RadioHeader := { h : HeaderData // h.Sized }

theorem HeaderData.blank_sized : HeaderData.blank.Sized := ⟨rfl, rfl, rfl, rfl, rfl⟩

/-- `CHeaderData()`. -/
def RadioHeader.blank : RadioHeader := ⟨HeaderData.blank, HeaderData.blank_sized⟩

inductive SlowCall where
  | setHeaderData (h : RadioHeader)
  | setTextData (text : Str)
  | setGPSData (s : Str)
  | clearHeaderData
  | clearTextData
  | clearGPSData
  | clearInterleavedData
  | getHeaderData
  | getTextData
  | getGPSData
  | getInterleavedData
  | getInterleavedDataLength
  | reset
  | sync

/-- What a call gives back. -/
inductive SlowAnswer where
  | frame (data : Str)
  | length (n : Nat)
  deriving DecidableEq, Repr

namespace SlowEncoder
open SlowAnswer

def quiet (e : SlowTry SlowEncoder) : SlowTry (SlowEncoder × List SlowAnswer) := do
  let e ← e
  return (e, [])

def framed (r : SlowTry (Str × SlowEncoder)) : SlowTry (SlowEncoder × List SlowAnswer) := do
  let (data, e) ← r
  return (e, [frame data])

def step : Machine.Step SlowEncoder SlowCall SlowAnswer SlowFault
  | e, .setHeaderData h => quiet (e.setHeaderData h)
  | e, .setTextData text => quiet (e.setTextData text)
  | e, .setGPSData s => quiet (e.setGPSData s)
  | e, .clearHeaderData => quiet e.clearHeaderData
  | e, .clearTextData => quiet e.clearTextData
  | e, .clearGPSData => quiet e.clearGPSData
  | e, .clearInterleavedData => quiet e.clearInterleavedData
  | e, .getHeaderData => framed e.getHeaderData
  | e, .getTextData => framed e.getTextData
  | e, .getGPSData => framed e.getGPSData
  | e, .getInterleavedData => framed e.getInterleavedData
  | e, .getInterleavedDataLength =>
      let (n, e) := e.getInterleavedDataLength
      .ok (e, [length n])
  | e, .reset => quiet e.reset
  | e, .sync => .ok (e.sync, [])

end SlowEncoder
end SmartGroup
