import SmartGroup.Protocol.Checksum
import SmartGroup.Support.Crc

/-! The table of `CCCITTChecksum` against the definition of its checksum, CRC-16/X.25, by
single bits; and the versions of its functions that take the bits of an array. -/
namespace SmartGroup
open Bytes Crc

/-- `bitsToByte`, the first bit highest. -/
def bitsToByte (bits : Vector Bool 8) : UInt8 :=
  bits.toList.foldl (fun val bit => (val <<< 1) ||| if bit then 0x01 else 0x00) 0x00

/-- The bits of a byte, the least significant one first. -/
def byteBits (b : UInt8) : List Bool := List.ofFn fun i : Fin 8 => b.toBitVec.getLsbD i

def bitsOf (data : Str) : List Bool := data.flatMap byteBits

/-- The two bytes of a register, the low one first. -/
def lowFirst (crc : BitVec 16) : Str := [⟨crc.setWidth 8⟩, ⟨(crc >>> 8).setWidth 8⟩]

namespace CCITTChecksum

/-- The polynomial, its highest power in the bit that is shifted out first. -/
def polynomial : BitVec 16 := 0x8408#16

/-- CRC-16/X.25 of the bytes. -/
def crc16 (data : Str) : BitVec 16 := ~~~feed polynomial 0xFFFF#16 (bitsOf data)

/-- `m_crc` after `result`: the complement, its bytes in the other order. -/
def swapped (c : CCITTChecksum) : UInt16 :=
  let tmp := ~~~c.crc
  (tmp <<< 8) ||| ((tmp >>> 8) &&& 0xFF)

/-- `update(const bool *)`. -/
def updateBits (c : CCITTChecksum) (data : Vector Bool 8) : CCITTChecksum :=
  c.updateByte (bitsToByte data)

/-- `result(bool *)`. -/
def resultBits (c : CCITTChecksum) : Vector Bool 16 :=
  Vector.ofFn fun i => c.swapped &&& (0x8000 >>> UInt16.ofNat i) ≠ 0

/-- `check(const bool *)`. -/
def checkBits (c : CCITTChecksum) (data : Vector Bool 16) : Bool := c.resultBits = data

/-! The table. -/

theorem ccittTab_eq :
    ccittTab = (List.range 256).map fun n => ⟨(shift polynomial)^[8] (BitVec.ofNat 16 n)⟩ := by
  decide +kernel

theorem ccittTab_getD {n : Nat} (inside : n < 256) :
    (ccittTab.getD n 0).toBitVec = (shift polynomial)^[8] (BitVec.ofNat 16 n) := by
  rw [ccittTab_eq, List.getD_eq_getElem?_getD, List.getElem?_map, List.getElem?_range inside]
  rfl

theorem getD_byteBits (b : UInt8) (i : Nat) : (byteBits b).getD i false = b.toBitVec.getLsbD i := by
  rw [byteBits, List.getD_eq_getElem?_getD, List.getElem?_ofFn]
  by_cases early : i < 8
  · simp [early]
  · simp [early, BitVec.getLsbD_of_ge b.toBitVec i (by omega)]

theorem pack_byteBits (b : UInt8) : (pack (byteBits b) : BitVec 16) = b.toBitVec.setWidth 16 := by
  apply BitVec.eq_of_getLsbD_eq
  intro i inside
  rw [getLsbD_pack, BitVec.getLsbD_setWidth, getD_byteBits]

/-- A step through the table is eight steps of the register. -/
theorem updateByte_crc (c : CCITTChecksum) (b : UInt8) :
    (c.updateByte b).crc.toBitVec = feed polynomial c.crc.toBitVec (byteBits b) := by
  let x := c.crc.toBitVec ^^^ b.toBitVec.setWidth 16
  let tmp := (c.crc &&& 0x00FF) ^^^ b.toUInt16
  have index : tmp.toBitVec = (x.setWidth 8).setWidth 16 := by
    have mask : (0x00FF : UInt16).toBitVec = (BitVec.allOnes 8).setWidth 16 := rfl
    apply BitVec.eq_of_getLsbD_eq
    intro i inside
    simp only [tmp, x, UInt16.toBitVec_xor, UInt16.toBitVec_and, UInt8.toBitVec_toUInt16, mask,
      BitVec.getLsbD_xor, BitVec.getLsbD_and, BitVec.getLsbD_setWidth, BitVec.getLsbD_allOnes, inside]
    by_cases early : i < 8
    · simp [early]
    · simp [early, BitVec.getLsbD_of_ge b.toBitVec i (by omega)]
  have moved : x >>> 8 = c.crc.toBitVec >>> 8 := by
    apply BitVec.eq_of_getLsbD_eq
    intro i inside
    simp [x, BitVec.getLsbD_ushiftRight]
  have number : tmp.toNat = (x.setWidth 8).toNat := by
    rw [← UInt16.toNat_toBitVec, index]
    exact BitVec.toNat_setWidth_of_le (by decide)
  have inside : tmp.toNat < 256 := number ▸ (x.setWidth 8).isLt
  calc
    (c.updateByte b).crc.toBitVec
      = (c.crc >>> 8).toBitVec ^^^ (ccittTab.getD tmp.toNat 0).toBitVec := rfl
    _ = (shift polynomial)^[8] ((x.setWidth 8).setWidth 16) ^^^ x >>> 8 := by
      rw [ccittTab_getD inside, moved, BitVec.xor_comm, number, BitVec.ofNat_toNat]
      rfl
    _ = (shift polynomial)^[8] x := (shifts_split polynomial x 8).symm
    _ = feed polynomial c.crc.toBitVec (byteBits b) := by
      rw [feed_eq_shifts polynomial _ (by simp [byteBits]), pack_byteBits]
      simp [byteBits, x]

theorem update_crc (c : CCITTChecksum) (data : Str) :
    (c.update data).crc.toBitVec = feed polynomial c.crc.toBitVec (bitsOf data) := by
  unfold update bitsOf
  induction data generalizing c with
  | nil => rfl
  | cons b data ih =>
      rw [List.foldl_cons, ih, updateByte_crc, List.flatMap_cons, feed_append]

theorem new_update_crc (data : Str) : ~~~(new.update data).crc.toBitVec = crc16 data := by
  rw [update_crc]
  rfl

/-- The pieces in which the bytes come do not matter. -/
theorem update_pieces (c : CCITTChecksum) (pieces : List Str) :
    pieces.foldl update c = c.update pieces.flatten := (List.foldl_flatten ..).symm

/-! The result. -/

theorem toBitVec_mask : (0xFF : UInt16).toBitVec = (BitVec.allOnes 8).setWidth 16 := rfl

theorem toBitVec_left (t : UInt16) : (t <<< 8).toBitVec = t.toBitVec <<< 8 := rfl

theorem toBitVec_right (t : UInt16) : (t >>> 8).toBitVec = t.toBitVec >>> 8 := rfl

theorem low_byte (t : UInt16) : (t &&& 0xFF).toUInt8 = ⟨t.toBitVec.setWidth 8⟩ := by
  apply UInt8.toBitVec_inj.mp
  apply BitVec.eq_of_getLsbD_eq
  intro i inside
  simp only [UInt16.toBitVec_toUInt8, UInt16.toBitVec_and, toBitVec_mask, BitVec.getLsbD_setWidth,
    BitVec.getLsbD_and, BitVec.getLsbD_allOnes, inside, show i < 16 by omega]
  simp

/-- The two bytes of the complement change places. -/
theorem getLsbD_swapped (c : CCITTChecksum) {i : Nat} (inside : i < 8) :
    c.swapped.toBitVec.getLsbD i = (~~~c.crc.toBitVec).getLsbD (8 + i) ∧
      c.swapped.toBitVec.getLsbD (8 + i) = (~~~c.crc.toBitVec).getLsbD i := by
  simp only [swapped, UInt16.toBitVec_and, UInt16.toBitVec_or, toBitVec_left, toBitVec_right,
    toBitVec_mask, UInt16.toBitVec_not, BitVec.getLsbD_setWidth, BitVec.getLsbD_and,
    BitVec.getLsbD_or, BitVec.getLsbD_shiftLeft, BitVec.getLsbD_ushiftRight, BitVec.getLsbD_allOnes,
    inside, show i < 16 by omega, show 8 + i < 16 by omega, show ¬8 + i < 8 by omega]
  simp

theorem result_eq (c : CCITTChecksum) : c.result = lowFirst (~~~c.crc.toBitVec) := by
  refine congrArg₂ (fun high low => [high, low]) ((low_byte _).trans ?_) ((low_byte _).trans ?_)
  all_goals
    congr 1
    apply BitVec.eq_of_getLsbD_eq
    intro i inside
    simp only [BitVec.getLsbD_setWidth, inside, decide_true, Bool.true_and, toBitVec_right,
      BitVec.getLsbD_ushiftRight]
  · exact (c.getLsbD_swapped inside).2
  · exact (c.getLsbD_swapped inside).1

/-! The arrays of bits. -/

theorem getLsbD_bitsToByte (bits : Vector Bool 8) (i : Fin 8) :
    (bitsToByte bits).toBitVec.getLsbD (7 - i) = bits[i] := by
  obtain ⟨⟨bits⟩, eight⟩ := bits
  obtain _ | ⟨b₀, _ | ⟨b₁, _ | ⟨b₂, _ | ⟨b₃, _ | ⟨b₄, _ | ⟨b₅, _ | ⟨b₆, _ | ⟨b₇, _ | ⟨b₈, rest⟩⟩⟩⟩⟩⟩⟩⟩⟩ := bits
  case cons.cons.cons.cons.cons.cons.cons.cons.nil =>
    revert b₀ b₁ b₂ b₃ b₄ b₅ b₆ b₇ i
    decide +kernel
  all_goals cases eight

theorem bitsToByte_eq_iff {bits : Vector Bool 8} {b : UInt8} :
    bitsToByte bits = b ↔ ∀ i : Fin 8, bits[i] = b.toBitVec.getLsbD (7 - i) := by
  constructor
  · rintro rfl i
    exact (getLsbD_bitsToByte bits i).symm
  · intro same
    apply UInt8.toBitVec_inj.mp
    apply BitVec.eq_of_getLsbD_eq
    intro i inside
    have bit := getLsbD_bitsToByte bits ⟨7 - i, by omega⟩
    rw [same ⟨7 - i, by omega⟩] at bit
    simpa [show 7 - (7 - i) = i by omega] using bit

/-- Every byte is that of its bits. -/
theorem exists_bitsToByte (b : UInt8) : ∃ bits, bitsToByte bits = b :=
  ⟨Vector.ofFn fun i : Fin 8 => b.toBitVec.getLsbD (7 - i), bitsToByte_eq_iff.mpr fun i => by simp⟩

/-- The mask of the loop in `result` picks one bit. -/
theorem getElem_resultBits (c : CCITTChecksum) (i : Fin 16) :
    c.resultBits[i] = c.swapped.toBitVec.getLsbD (15 - i) := by
  have one (i : Fin 16) :
      (0x8000 >>> UInt16.ofNat i : UInt16).toBitVec = BitVec.twoPow 16 (15 - i) := by
    revert i
    decide +kernel
  have some_bit (i : Fin 16) : BitVec.twoPow 16 (15 - i) ≠ 0#16 := by
    revert i
    decide +kernel
  have masked : (c.swapped &&& (0x8000 >>> UInt16.ofNat i)).toBitVec =
      if c.swapped.toBitVec.getLsbD (15 - i) then BitVec.twoPow 16 (15 - i) else 0#16 := by
    rw [UInt16.toBitVec_and, one, BitVec.and_twoPow]
  have found : c.resultBits[i] = decide (c.swapped &&& (0x8000 >>> UInt16.ofNat i) ≠ 0) := by
    simp [resultBits]
  rw [found]
  cases bit : c.swapped.toBitVec.getLsbD (15 - i)
  · rw [bit, if_neg Bool.false_ne_true] at masked
    exact decide_eq_false (not_not_intro (UInt16.toBitVec_inj.mp masked))
  · rw [bit, if_pos rfl] at masked
    apply decide_eq_true
    intro none
    exact some_bit i (masked.symm.trans (congrArg UInt16.toBitVec none))

/-- The sixteen bits of the result are those of its bytes. -/
theorem resultBits_eq_iff (c : CCITTChecksum) {high low : Vector Bool 8} :
    c.resultBits = high ++ low ↔ c.result = [bitsToByte high, bitsToByte low] := by
  have bytes : c.result =
      [⟨(c.swapped.toBitVec >>> 8).setWidth 8⟩, ⟨c.swapped.toBitVec.setWidth 8⟩] :=
    congrArg₂ (fun first second => [first, second]) (low_byte _) (low_byte _)
  have bit (i : Nat) (inside : i < 16) : c.resultBits[i] = c.swapped.toBitVec.getLsbD (15 - i) :=
    c.getElem_resultBits ⟨i, inside⟩
  have upper (i : Nat) (inside : i < 8) :
      ((c.swapped.toBitVec >>> 8).setWidth 8).getLsbD (7 - i) = c.resultBits[i] := by
    rw [bit i (by omega), BitVec.getLsbD_setWidth, BitVec.getLsbD_ushiftRight,
      show 8 + (7 - i) = 15 - i by omega, decide_eq_true (by omega), Bool.true_and]
  have lower (i : Nat) (inside : i < 8) :
      (c.swapped.toBitVec.setWidth 8).getLsbD (7 - i) = c.resultBits[i + 8] := by
    rw [bit (i + 8) (by omega), BitVec.getLsbD_setWidth, show 15 - (i + 8) = 7 - i by omega,
      decide_eq_true (by omega), Bool.true_and]
  rw [bytes, List.cons_eq_cons, List.cons_eq_cons, eq_comm (b := bitsToByte high),
    eq_comm (b := bitsToByte low), bitsToByte_eq_iff, bitsToByte_eq_iff]
  simp only [upper _ (Fin.isLt _), lower _ (Fin.isLt _)]
  constructor
  · intro same
    refine ⟨fun i => ?_, fun i => ?_, trivial⟩
    · simp only [same, Vector.getElem_append_left i.isLt, Fin.getElem_fin]
    · simp only [same]
      rw [Vector.getElem_append_right (by omega) (by omega)]
      simp
  · rintro ⟨first, second, -⟩
    apply Vector.ext
    intro i inside
    by_cases early : i < 8
    · rw [Vector.getElem_append_left early]
      exact (first ⟨i, early⟩).symm
    · rw [Vector.getElem_append_right (by omega) (by omega)]
      have found := second ⟨i - 8, by omega⟩
      simp only [show i - 8 + 8 = i by omega] at found
      exact found.symm

/-- The checksum over bytes in any pieces is CRC-16/X.25, and its check takes nothing else;
the functions on bits do what those on bytes do. -/
theorem checksum_is_crc16 (pieces : List Str) (c : CCITTChecksum) :
    (pieces.foldl update new).result = lowFirst (crc16 pieces.flatten) ∧
      (∀ first second, (pieces.foldl update new).check [first, second] = true ↔
        [first, second] = lowFirst (crc16 pieces.flatten)) ∧
      (∀ bits, c.updateBits bits = c.update [bitsToByte bits]) ∧
      (∃ high low, c.resultBits = high ++ low ∧ c.result = [bitsToByte high, bitsToByte low]) ∧
      ∀ high low, c.checkBits (high ++ low) = c.check [bitsToByte high, bitsToByte low] := by
  have written : (pieces.foldl update new).result = lowFirst (crc16 pieces.flatten) := by
    rw [update_pieces, result_eq, new_update_crc]
  refine ⟨written, fun first second => ?_, fun bits => rfl, ?_, fun high low => ?_⟩
  · rw [check, decide_eq_true_eq, written, eq_comm]
  · obtain ⟨high, first⟩ := exists_bitsToByte ((c.swapped >>> 8) &&& 0xFF).toUInt8
    obtain ⟨low, second⟩ := exists_bitsToByte (c.swapped &&& 0xFF).toUInt8
    have bytes : c.result = [bitsToByte high, bitsToByte low] := by
      rw [first, second]
      rfl
    exact ⟨high, low, c.resultBits_eq_iff.mpr bytes, bytes⟩
  · exact decide_eq_decide.mpr c.resultBits_eq_iff

end CCITTChecksum
end SmartGroup
