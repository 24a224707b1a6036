import SmartGroup.Defs

/-! The text part of `CSlowDataEncoder`. -/
namespace SmartGroup
open Bytes

def slowDataFullBlockSize : Nat := 60
def slowDataFillerBytes : Str := str "fff"

/-- The text block and the position `getTextData` reads from next. -/
structure SlowDataEncoder where
  textData : Option Str
  textPtr : Nat

namespace SlowDataEncoder

def new : SlowDataEncoder := ⟨none, 0⟩

/-- The five characters of the text that block `n` carries behind its type byte. -/
def textBlock (padded : Str) (n : Nat) : Str :=
  (0x40 ||| UInt8.ofNat n) :: (padded.drop (5 * n)).take 5

def setTextData (text : Str) : SlowDataEncoder :=
  let padded := padTo 20 text
  let blocks := textBlock padded 0 ++ textBlock padded 1 ++ textBlock padded 2 ++ textBlock padded 3
  ⟨some (blocks ++ List.replicate (slowDataFullBlockSize - blocks.length) 102), 0⟩

/-- Three scrambled bytes of the source, or of the filler, and the next position. -/
def getData (source : Option Str) (ptr length : Nat) : Str × Nat :=
  let s := source.getD slowDataFillerBytes
  ([s.getD ptr 0 ^^^ 0x70, s.getD (ptr + 1) 0 ^^^ 0x4F, s.getD (ptr + 2) 0 ^^^ 0x93],
    if length ≤ ptr + 3 then 0 else ptr + 3)

def getTextData (e : SlowDataEncoder) : Str × SlowDataEncoder :=
  let (data, ptr) := getData e.textData e.textPtr slowDataFullBlockSize
  (data, { e with textPtr := ptr })

/-- The results of `n` calls of `getTextData` in a row. -/
def getTexts (e : SlowDataEncoder) : Nat → List Str
  | 0 => []
  | n + 1 => e.getTextData.1 :: e.getTextData.2.getTexts n

end SlowDataEncoder
end SmartGroup
