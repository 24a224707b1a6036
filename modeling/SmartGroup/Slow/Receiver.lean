import SmartGroup.Support.Blocks
import SmartGroup.Support.Bytes

/-! How slow data is read: blocks of six bytes, the first of which tells what the block is
a part of and how many of the bytes behind it count. -/
namespace SmartGroup
open Bytes Blocks

abbrev blocks (data : Str) : List Str := cut 6 data

/-- The high half of the type byte. -/
def kind (block : Str) : UInt8 := block.headD 0 &&& 0xF0

/-- The bytes that the low half of the type byte counts. -/
def payload (block : Str) : Str := (block.drop 1).take (block.headD 0 &&& 0x0F).toNat

@[simp] theorem kind_cons (type : UInt8) (rest : Str) : kind (type :: rest) = type &&& 0xF0 := rfl

@[simp] theorem payload_cons (type : UInt8) (rest : Str) :
    payload (type :: rest) = rest.take (type &&& 0x0F).toNat := rfl

def payloads (blocks : List Str) : Str := blocks.flatMap payload

/-- Six bytes of filler. -/
def fillerBlock : Str := List.replicate 6 102

end SmartGroup
