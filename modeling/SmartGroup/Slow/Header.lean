import SmartGroup.Slow.Encoder
import SmartGroup.Slow.Receiver
import SmartGroup.Protocol.Crc

/-! The header in slow data against the radio header of `CHeaderData::getData`. -/
namespace SmartGroup
open Bytes

namespace HeaderData

def radioFields (h : HeaderData) : List Field :=
  [(0, [h.flag1, h.flag2, h.flag3]),
    (3, h.rptCall2),
    (11, h.rptCall1),
    (19, h.yourCall),
    (27, h.myCall1),
    (35, h.myCall2)]

/-- The radio header and the number of its bytes. -/
def getData (h : HeaderData) (data : List UInt8) (length : Nat) (check : Bool) :
    Try (List UInt8 × Nat) := do
  require (decide (radioHeaderLength ≤ length))
  let data ← writeAll data h.radioFields
  if check then
    let covered ← copy data 0 (radioHeaderLength - 2)
    let data ← write data (radioHeaderLength - 2) (CCITTChecksum.new.update covered).result
    return (data, radioHeaderLength)
  else return (data, radioHeaderLength - 2)

/-- What the checksum covers. -/
def radioBytes (h : HeaderData) : Str :=
  [h.flag1, h.flag2, h.flag3] ++ h.rptCall2 ++ h.rptCall1 ++ h.yourCall ++ h.myCall1 ++ h.myCall2

end HeaderData

namespace SlowEncoder

theorem eight_characters {s : Str} (long : s.length = longCallsignLength) :
    ∃ a b c d e f g i, s = [a, b, c, d, e, f, g, i] := by
  match s, long with
  | [a, b, c, d, e, f, g, i], _ => exact ⟨a, b, c, d, e, f, g, i, rfl⟩

theorem four_characters {s : Str} (short : s.length = shortCallsignLength) : ∃ a b c d, s = [a, b, c, d] := by
  match s, short with
  | [a, b, c, d], _ => exact ⟨a, b, c, d, rfl⟩

/-- Nine blocks and one of filler. -/
theorem headerBlock_parts (h : RadioHeader) : ∃ parts : List Str, headerBlock h.1 = .ok (parts ++ [fillerBlock]).flatten ∧
    parts.length = 9 ∧ (∀ part ∈ parts, part.length = 6 ∧ kind part = 0x50) ∧
    payloads parts = h.1.radioBytes ++ (CCITTChecksum.new.update h.1.radioBytes).result := by
  obtain ⟨h, sized⟩ := h
  obtain ⟨a0, a1, a2, a3, a4, a5, a6, a7, rpt1⟩ := eight_characters sized.rptCall1
  obtain ⟨b0, b1, b2, b3, b4, b5, b6, b7, rpt2⟩ := eight_characters sized.rptCall2
  obtain ⟨c0, c1, c2, c3, c4, c5, c6, c7, your⟩ := eight_characters sized.yourCall
  obtain ⟨d0, d1, d2, d3, d4, d5, d6, d7, my1⟩ := eight_characters sized.myCall1
  obtain ⟨e0, e1, e2, e3, my2⟩ := four_characters sized.myCall2
  -- what the eight partial updates cover
  let pieces : List Str := [[h.flag1, h.flag2, h.flag3, b0, b1], [b2, b3, b4, b5, b6], [b7, a0, a1, a2, a3],
    [a4, a5, a6, a7, c0], [c1, c2, c3, c4, c5], [c6, c7, d0, d1, d2], [d3, d4, d5, d6, d7], [e0, e1, e2, e3]]
  have covered : h.radioBytes = pieces.flatten := by
    rw [HeaderData.radioBytes, rpt1, rpt2, your, my1, my2]
    rfl
  obtain ⟨first, second, sum⟩ :
      ∃ first second, (pieces.foldl CCITTChecksum.update CCITTChecksum.new).result = [first, second] := ⟨_, _, rfl⟩
  let bytes := pieces.flatMap ((0x50 ||| 5) :: ·) ++ [first, 0x50 ||| 1, second] ++ List.replicate 10 102
  have built : headerBlock h = .ok bytes := by
    have front : headerBlock h = (do
        let first ← byte (pieces.foldl CCITTChecksum.update CCITTChecksum.new).result 0
        let second ← byte (pieces.foldl CCITTChecksum.update CCITTChecksum.new).result 1
        .ok (pieces.flatMap ((0x50 ||| 5) :: ·) ++ [first, 0x50 ||| 1, second] ++ List.replicate 10 102)) := by
      rw [headerBlock, rpt1, rpt2, your, my1, my2]
      rfl
    rw [front, sum]
    rfl
  -- the checksum is split between the last two of the nine blocks
  let parts := (pieces.take 7).map ((0x50 ||| 5) :: ·) ++
    [[0x50 ||| 5, e0, e1, e2, e3, first], [0x50 ||| 1, second, 102, 102, 102, 102]]
  refine ⟨parts, built, rfl, ?_, ?_⟩
  · simp +decide [parts, pieces]
  · rw [covered, ← CCITTChecksum.update_pieces, sum]
    simp +decide [parts, pieces, payloads]

theorem headerBlock_blocks (h : RadioHeader) : ∃ bytes, headerBlock h.1 = .ok bytes ∧ bytes.length = 60 ∧
    (blocks bytes).filter (fun b => kind b = 0x50) = (blocks bytes).take 9 ∧
    payloads ((blocks bytes).take 9) = h.1.radioBytes ++ (CCITTChecksum.new.update h.1.radioBytes).result := by
  obtain ⟨parts, built, nine, each, carried⟩ := headerBlock_parts h
  have whole : ∀ part ∈ parts ++ [fillerBlock], part.length = 6 := by
    intro part member
    rcases List.mem_append.mp member with header | filler
    · exact (each part header).1
    · rw [List.mem_singleton.mp filler]
      rfl
  have parted : blocks (parts ++ [fillerBlock]).flatten = parts ++ [fillerBlock] :=
    Blocks.cut_flatten (by decide) whole
  have front : (parts ++ [fillerBlock]).take 9 = parts := List.take_left' nine
  refine ⟨_, built, ?_, ?_, ?_⟩
  · rw [Blocks.length_flatten whole, List.length_append, nine]
    rfl
  · rw [parted, front, List.filter_append, List.filter_eq_self.mpr fun part member => by simp [(each part member).2]]
    exact List.append_nil parts
  · rw [parted, front, carried]

end SlowEncoder

namespace HeaderData

theorem length_radioBytes {h : HeaderData} (sized : h.Sized) : h.radioBytes.length = 39 := by
  obtain ⟨rpt1, rpt2, your, my1, my2⟩ := sized
  simp only [longCallsignLength, shortCallsignLength] at rpt1 rpt2 your my1 my2
  simp [radioBytes, *]

theorem getData_holds {h : HeaderData} (sized : h.Sized) {buffer : List UInt8} {length : Nat}
    (fits : 41 ≤ length) (inside : length ≤ buffer.length) :
    ∃ data, h.getData buffer length true = .ok (data, 41) ∧
      data.take 41 = h.radioBytes ++ (CCITTChecksum.new.update h.radioBytes).result := by
  have long := length_radioBytes sized
  obtain ⟨rpt1, rpt2, your, my1, my2⟩ := sized
  simp only [longCallsignLength, shortCallsignLength] at rpt1 rpt2 your my1 my2
  have apart : h.radioFields.Pairwise Field.Apart := by simp [radioFields, Field.Apart, *]
  obtain ⟨data, written, size, holds, -⟩ := writeAll_holds buffer h.radioFields
    (fun f member => by
      have room : ∀ f ∈ h.radioFields, f.1 + f.2.length ≤ 39 := by simp [radioFields, *]
      have := room f member
      unfold Field.Fits
      omega) apart
  have next {s t : Str} {k : Nat} (front : Holds data (0, s)) (length : s.length = k)
      (rear : Holds data (k, t)) : Holds data (0, s ++ t) := front.append (by rwa [Nat.zero_add, length])
  have covered : Holds data (0, h.radioBytes) := by
    refine next (next (next (next (next (holds _ ?_) rfl (holds (3, _) ?_)) ?_ (holds (11, _) ?_)) ?_
      (holds (19, _) ?_)) ?_ (holds (27, _) ?_)) ?_ (holds (35, _) ?_)
    all_goals simp [radioFields, *]
  let sum := CCITTChecksum.new.update h.radioBytes
  have fits_sum : Field.Fits data (39, sum.result) := by
    simp only [Field.Fits, CCITTChecksum.length_result]
    omega
  have both : Holds (put data 39 sum.result) (0, h.radioBytes ++ sum.result) :=
    (covered.put (g := (39, sum.result)) (.inl (by simp [long]))).append (by
      rw [long]
      exact holds_put fits_sum)
  have whole : (h.radioBytes ++ sum.result).length = 41 := by
    rw [List.length_append, long, CCITTChecksum.length_result]
  have read : copy (put data 39 sum.result) 0 41 = .ok (h.radioBytes ++ sum.result) :=
    both.copy whole (by decide)
  refine ⟨put data 39 sum.result, ?_, ?_⟩
  · have last : write data 39 sum.result = .ok (put data 39 sum.result) := write_ok fits_sum
    have before : copy data 0 39 = .ok h.radioBytes := covered.copy long (by decide)
    have required : decide (radioHeaderLength ≤ length) = true := decide_eq_true fits
    rw [getData, require, if_pos required, ok_bind, written, ok_bind, if_pos rfl,
      show radioHeaderLength - 2 = 39 from rfl, before, ok_bind, last]
    rfl
  · rw [copy_ok (by rw [length_put]; omega)] at read
    exact Except.ok.inj read

end HeaderData

namespace SlowEncoder

/-- The payload of the header blocks is the radio header with its checksum, whatever the
encoder held before. -/
theorem header_agrees (h : RadioHeader) {buffer : List UInt8} {length : Nat} (fits : radioHeaderLength ≤ length)
    (inside : length ≤ buffer.length) :
    ∃ bytes data, h.1.getData buffer length true = .ok (data, radioHeaderLength) ∧
      payloads ((blocks bytes).filter fun b => kind b = 0x50) = data.take radioHeaderLength ∧
      ∀ e : SlowEncoder, e.interleavedData ≠ .freed → e.headerData ≠ .freed →
        ∃ e', e.setHeaderData h.1 = .ok e' ∧ e'.headerData = .owned bytes := by
  obtain ⟨bytes, built, -, nine, carried⟩ := headerBlock_blocks h
  obtain ⟨data, written, front⟩ := HeaderData.getData_holds h.2 fits inside
  refine ⟨bytes, data, written, ?_, ?_⟩
  · rw [nine]
    exact carried.trans front.symm
  intro e interleaved header
  have filled : e.uninterleaved.headerData.fill bytes = .ok (.owned bytes) := Pointer.fill_ok header bytes
  refine ⟨{ e.uninterleaved with headerData := .owned bytes, headerPtr := 0 }, ?_, rfl⟩
  rw [setHeaderData, clearInterleavedData_ok interleaved, slow_bind, access_eq_ok.mpr built, slow_bind, filled]
  rfl

/-- A header whose flags and callsigns are all different. -/
def callHeader : RadioHeader :=
  ⟨{ HeaderData.ofCalls (str "N0CALL  ") (str "ID51") (str "CQCQCQ  ") (str "RPTR1  B") (str "RPTR2  G") with
      flag1 := 0x40, flag2 := 0x01, flag3 := 0x1A }, ⟨rfl, rfl, rfl, rfl, rfl⟩⟩

/-- Its payload begins with the flags and the second repeater. -/
theorem header_agrees_call :
    ∃ bytes data, callHeader.1.getData (List.replicate 50 0xFF) 41 true = .ok (data, radioHeaderLength) ∧
      payloads ((blocks bytes).filter fun b => kind b = 0x50) = data.take radioHeaderLength ∧
      ∀ e : SlowEncoder, e.interleavedData ≠ .freed → e.headerData ≠ .freed →
        ∃ e', e.setHeaderData callHeader.1 = .ok e' ∧ e'.headerData = .owned bytes :=
  header_agrees callHeader (by decide) (by decide)

end SlowEncoder
end SmartGroup
