import SmartGroup.Protocol.Crc
import SmartGroup.Protocol.G2
import SmartGroup.Protocol.RoundTrip

/-! Radio headers that were damaged on the way: the checksum finds every error whose bits
lie close together, in the callsigns, in the checksum's own bytes or across both. -/
namespace SmartGroup
open Bytes Crc

namespace CCITTChecksum

theorem length_byteBits (b : UInt8) : (byteBits b).length = 8 := List.length_ofFn

theorem length_bitsOf (data : Str) : (bitsOf data).length = 8 * data.length := by
  induction data with
  | nil => rfl
  | cons b data ih =>
      rw [bitsOf, List.flatMap_cons, List.length_append, length_byteBits, ← bitsOf, ih, List.length_cons]
      omega

theorem bitsOf_append (front rear : Str) : bitsOf (front ++ rear) = bitsOf front ++ bitsOf rear :=
  List.flatMap_append

theorem bitsOf_drop (data : Str) (n : Nat) : bitsOf (data.drop n) = (bitsOf data).drop (8 * n) := by
  by_cases inside : n ≤ data.length
  · have front : 8 * n = (bitsOf (data.take n)).length := by
      rw [length_bitsOf, List.length_take, Nat.min_eq_left inside]
    conv_rhs => rw [← List.take_append_drop n data, bitsOf_append, front, List.drop_left]
  · rw [List.drop_eq_nil_of_le (by omega), List.drop_eq_nil_of_le (by rw [length_bitsOf]; omega)]
    rfl

theorem byteBits_inj {a b : UInt8} (same : byteBits a = byteBits b) : a = b := by
  apply UInt8.toBitVec_inj.mp
  apply BitVec.eq_of_getLsbD_eq
  intro i inside
  rw [← getD_byteBits, same, getD_byteBits]

theorem bitsOf_inj {left right : Str} (same : bitsOf left = bitsOf right) : left = right := by
  induction left generalizing right with
  | nil =>
      have none := congrArg List.length same
      rw [length_bitsOf, length_bitsOf] at none
      simpa using none
  | cons a left ih =>
      cases right with
      | nil =>
          have some_bit := congrArg List.length same
          rw [length_bitsOf, length_bitsOf] at some_bit
          simp at some_bit
      | cons b right =>
          obtain ⟨first, others⟩ := List.append_inj (show byteBits a ++ bitsOf left = byteBits b ++ bitsOf right from same) ((length_byteBits a).trans (length_byteBits b).symm)
          rw [byteBits_inj first, ih others]

theorem top_polynomial : polynomial.getLsbD 15 = true := by decide

/-- What the register holds behind bytes and their checksum. -/
def residue : BitVec 16 := (shift polynomial)^[16] (BitVec.allOnes 16)

/-- A register is the two bytes whose bits it has. -/
theorem lowFirst_eq_iff (r : BitVec 16) (first second : UInt8) :
    lowFirst r = [first, second] ↔ r = pack (bitsOf [first, second]) := by
  have length := length_byteBits first
  have low {i : Nat} (inside : i < 8) :
      (bitsOf [first, second]).getD i false = first.toBitVec.getLsbD i := by
    rw [← getD_byteBits, bitsOf, List.flatMap_cons, List.getD_eq_getElem?_getD,
      List.getElem?_append_left (by omega), List.getD_eq_getElem?_getD]
  have high (i : Nat) :
      (bitsOf [first, second]).getD (8 + i) false = second.toBitVec.getLsbD i := by
    rw [← getD_byteBits, bitsOf, List.flatMap_cons, List.getD_eq_getElem?_getD,
      List.getElem?_append_right (by omega), List.getD_eq_getElem?_getD, length]
    simp
  have bytes : lowFirst r = [first, second] ↔
      r.setWidth 8 = first.toBitVec ∧ (r >>> 8).setWidth 8 = second.toBitVec := by
    simp [lowFirst, ← UInt8.toBitVec_inj]
  rw [bytes]
  constructor
  · rintro ⟨here, there⟩
    apply BitVec.eq_of_getLsbD_eq
    intro i inside
    rw [getLsbD_pack, decide_eq_true inside, Bool.true_and]
    by_cases early : i < 8
    · rw [low early, ← here, BitVec.getLsbD_setWidth, decide_eq_true early, Bool.true_and]
    · obtain ⟨j, rfl⟩ := Nat.exists_eq_add_of_le (Nat.not_lt.mp early)
      rw [high j, ← there, BitVec.getLsbD_setWidth, BitVec.getLsbD_ushiftRight,
        decide_eq_true (by omega), Bool.true_and]
  · rintro rfl
    refine ⟨BitVec.eq_of_getLsbD_eq fun i early => ?_, BitVec.eq_of_getLsbD_eq fun i early => ?_⟩
    · rw [BitVec.getLsbD_setWidth, getLsbD_pack, low early, decide_eq_true early,
        decide_eq_true (by omega), Bool.true_and, Bool.true_and]
    · rw [BitVec.getLsbD_setWidth, BitVec.getLsbD_ushiftRight, getLsbD_pack, high i,
        decide_eq_true early, decide_eq_true (by omega), Bool.true_and, Bool.true_and]

/-- A checksum is right exactly when it takes the register on to the residue. -/
theorem check_iff (covered : Str) (first second : UInt8) :
    (new.update covered).check [first, second] = true ↔
      feed polynomial 0xFFFF#16 (bitsOf (covered ++ [first, second])) = residue := by
  have sixteen : (bitsOf [first, second]).length = 16 := length_bitsOf _
  have register : (new.update covered).crc.toBitVec = feed polynomial 0xFFFF#16 (bitsOf covered) :=
    update_crc new covered
  have whole (r : BitVec 16) : r ^^^ ~~~r = BitVec.allOnes 16 := by
    rw [BitVec.not_def, ← BitVec.xor_assoc, BitVec.xor_comm r, BitVec.xor_assoc, BitVec.xor_self,
      BitVec.xor_zero]
  rw [bitsOf_append, feed_append, feed_eq_shifts polynomial _ (by rw [sixteen]), sixteen, residue,
    shifts_inj polynomial top_polynomial, check, decide_eq_true_eq, result_eq, register,
    lowFirst_eq_iff, ← whole (feed polynomial 0xFFFF#16 (bitsOf covered)), BitVec.xor_right_inj,
    eq_comm]

end CCITTChecksum

namespace HeaderData
open CCITTChecksum

/-- The checksum of a header in a memory. -/
theorem checkDSVT_eq {data : Str} (rest : Str) (sized : data.length = 56) :
    ∃ valid, checkDSVT (data ++ rest) = .ok valid ∧
      (valid = true ↔ feed polynomial 0xFFFF#16 (bitsOf (data.drop 15)) = residue) := by
  obtain ⟨first, second, sum⟩ : ∃ first second, data.drop 54 = [first, second] :=
    List.length_eq_two.mp (by rw [List.length_drop, sized])
  have covered : copy (data ++ rest) 15 39 = .ok ((data.drop 15).take 39) := by
    rw [copy_ok (by rw [List.length_append]; omega), List.drop_append_of_le_length (by omega),
      List.take_append_of_le_length (by rw [List.length_drop]; omega)]
  have read : copy (data ++ rest) 54 2 = .ok [first, second] := by
    rw [copy_ok (by rw [List.length_append]; omega), List.drop_append_of_le_length (by omega), sum]
    rfl
  have all : (data.drop 15).take 39 ++ [first, second] = data.drop 15 := by
    rw [← sum, show 54 = 15 + 39 from rfl, ← List.drop_drop, List.take_append_drop]
  refine ⟨(new.update ((data.drop 15).take 39)).check [first, second], ?_, ?_⟩
  · unfold checkDSVT
    rw [show radioHeaderLength - 2 = 39 from rfl, show 15 + radioHeaderLength - 2 = 54 from rfl,
      covered, ok_bind, read, ok_bind]
    rfl
  · rw [check_iff, all]

/-- What has a checksum to look at has its place. -/
theorem length_of_checkDSVT {packet : Str} (cut : packet.length ≤ 56) {right : Bool}
    (checked : checkDSVT packet = .ok right) : packet.length = 56 := by
  by_contra short
  have lost : copy packet 54 2 = .error .overread := if_neg (by omega)
  unfold checkDSVT at checked
  rw [show 15 + radioHeaderLength - 2 = 54 from rfl, lost] at checked
  cases copied : copy packet 15 (radioHeaderLength - 2) with
  | error e =>
      rw [copied] at checked
      cases checked
  | ok s =>
      rw [copied] at checked
      cases checked

/-- An error behind the first fifteen bytes, within sixteen bits in a row, changes the remainder. -/
theorem feed_damaged_ne {damaged packet : Str} (size : damaged.length = 56) (packet_size : packet.length = 56)
    (front : damaged.take 15 = packet.take 15) (differs : damaged ≠ packet) {start : Nat}
    (burst : ∀ k < 8 * 56, (bitsOf damaged)[k]? ≠ (bitsOf packet)[k]? → start ≤ k ∧ k < start + 16) :
    feed polynomial 0xFFFF#16 (bitsOf (damaged.drop 15)) ≠
      feed polynomial 0xFFFF#16 (bitsOf (packet.drop 15)) := by
  have differ : bitsOf (damaged.drop 15) ≠ bitsOf (packet.drop 15) := by
    intro equal
    apply differs
    rw [← List.take_append_drop 15 damaged, front, bitsOf_inj equal, List.take_append_drop]
  have late (k : Nat) (apart : (bitsOf (damaged.drop 15))[k]? ≠ (bitsOf (packet.drop 15))[k]?) :
      start - 120 ≤ k ∧ k < start - 120 + 16 := by
    have shorter : k < 8 * 41 := by
      by_contra long
      rw [List.getElem?_eq_none (by rw [length_bitsOf, List.length_drop]; omega),
        List.getElem?_eq_none (by rw [length_bitsOf, List.length_drop]; omega)] at apart
      exact apart rfl
    rw [bitsOf_drop, bitsOf_drop, List.getElem?_drop, List.getElem?_drop] at apart
    have found := burst (8 * 15 + k) (by omega) apart
    omega
  exact burst_detected polynomial top_polynomial
    (by rw [length_bitsOf, length_bitsOf, List.length_drop, List.length_drop, size, packet_size])
    differ (start - 120) late _

/-- A header that arrives with an error in its fields or its checksum, the flipped bits
within sixteen in a row, is refused. -/
theorem damaged_header_refused {h : HeaderData} (sized : h.Sized) {buffer : List UInt8} {length : Nat}
    (fits : 56 ≤ length) (inside : length ≤ buffer.length) :
    ∃ data, h.getG2Data buffer length true = .ok (data, 56) ∧
      ∀ (damaged rest : Str) (start n : Nat) (h₀ : HeaderData) (address : Str) (port : Nat),
        damaged.length = 56 → damaged.take 15 = data.take 15 → damaged ≠ data.take 56 →
        (∀ k < 8 * 56, (bitsOf damaged)[k]? ≠ (bitsOf (data.take 56))[k]? →
          start ≤ k ∧ k < start + 16) →
        56 ≤ n →
        ∃ h', h₀.setG2DataChecked (damaged ++ rest) n true address port = .ok (false, h') := by
  obtain ⟨data, encoded, valid, -⟩ := getG2Data_holds sized fits inside
  refine ⟨data, encoded, ?_⟩
  intro damaged rest start n h₀ address port size front differs burst enough
  let packet := data.take 56
  have packet_size : packet.length = 56 := length_of_checkDSVT (List.length_take_le _ _) valid
  obtain ⟨right, checked, right_iff⟩ := checkDSVT_eq [] packet_size
  rw [List.append_nil] at checked
  obtain rfl : right = true := by
    rw [valid] at checked
    exact (Except.ok.inj checked).symm
  obtain ⟨wrong, found, wrong_iff⟩ := checkDSVT_eq rest size
  obtain ⟨h', read⟩ : ∃ h', h₀.setG2Data (damaged ++ rest) n address port = .ok h' :=
    (h₀.completes_setG2Data (by simp [size]) n address port).mpr enough
  refine ⟨h', ?_⟩
  rw [setG2DataChecked, read, ok_bind, if_pos rfl, found, ok_bind]
  cases wrong with
  | false => rfl
  | true =>
      have same : feed polynomial 0xFFFF#16 (bitsOf (damaged.drop 15)) =
          feed polynomial 0xFFFF#16 (bitsOf (packet.drop 15)) :=
        (wrong_iff.mp rfl).trans (right_iff.mp rfl).symm
      have front : damaged.take 15 = packet.take 15 := by
        rw [front, List.take_take]
        rfl
      exact absurd same (feed_damaged_ne size packet_size front differs burst)

end HeaderData

namespace Sample

/-- The header of the stream as it is sent. -/
def sentHeader : Str :=
  str "DSVT" ++ [0x10, 0x00, 0x15, 0x09, 0x20, 0x00, 0x00, 0x00, 0x12, 0x34, 0x80, 0x00, 0x00, 0x00] ++
    str "SMART1 ASMART1 GCQCQCQ  AB1CDE  ID51" ++ [198, 28]

/-- The same with three bits flipped in the last callsign and eight in the checksum. -/
def damagedHeader : Str :=
  sentHeader.mapIdx fun i b => if i = 53 then b ^^^ 0xE0 else if i = 54 then b ^^^ 0xFF else b

theorem streamHeader_sent :
    ((streamHeader 4660).getG2Data (List.replicate 60 0) 60 true).map (fun sent => sent.1.take 56) =
      .ok sentHeader := by
  decide +kernel

theorem straddling_burst_refused :
    ∃ h', HeaderData.blank.setG2DataChecked damagedHeader 56 true (str "44.1.2.3") 40000 =
      .ok (false, h') := by
  obtain ⟨data, encoded, refused⟩ := HeaderData.damaged_header_refused (streamHeader_sized 4660)
    (show 56 ≤ 60 by decide) (show 60 ≤ (List.replicate 60 (0 : UInt8)).length by decide)
  have sent : data.take 56 = sentHeader := by
    have read := streamHeader_sent
    rw [encoded] at read
    exact Except.ok.inj read
  have front : data.take 15 = sentHeader.take 15 := by
    rw [← sent, List.take_take]
    rfl
  have burst : ∀ k < 8 * 56, (bitsOf damagedHeader)[k]? ≠ (bitsOf sentHeader)[k]? →
      429 ≤ k ∧ k < 429 + 16 := fun k _ apart =>
    differ_between (by decide +kernel) (by decide +kernel) k apart
  have differs : damagedHeader ≠ sentHeader := by decide +kernel
  have kept : damagedHeader.take 15 = sentHeader.take 15 := by decide +kernel
  obtain ⟨h', read⟩ := refused damagedHeader [] 429 56 .blank (str "44.1.2.3") 40000
    (by decide +kernel) (kept.trans front.symm) (sent ▸ differs) (sent ▸ burst) (by decide)
  rw [List.append_nil] at read
  exact ⟨h', read⟩

end Sample
end SmartGroup
