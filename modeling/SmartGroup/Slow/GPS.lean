import SmartGroup.Slow.Encoder
import SmartGroup.Slow.Receiver

/-! The blocks that `setGPSData` makes of a string, and which strings they carry whole. -/
namespace SmartGroup
open Bytes Blocks

/-- The block for the next characters; the bytes behind them are type bytes of blocks
without any. -/
def gpsBlock (rest : Str) : Str :=
  (0x30 ||| UInt8.ofNat (rest.take 5).length) :: (rest.take 5 ++ List.replicate (5 - (rest.take 5).length) 0x30)

def gpsBlocks : Nat → Str → List Str
  | 0, _ => []
  | count + 1, rest => gpsBlock rest :: gpsBlocks count (rest.drop 5)

theorem length_gpsBlock (rest : Str) : (gpsBlock rest).length = 6 := by
  simp only [gpsBlock, List.length_cons, List.length_append, List.length_replicate, List.length_take]
  omega

theorem length_gpsBlocks (count : Nat) (rest : Str) : (gpsBlocks count rest).length = count := by
  induction count generalizing rest with
  | zero => rfl
  | succ count ih => rw [gpsBlocks, List.length_cons, ih]

theorem whole_gpsBlocks (count : Nat) (rest : Str) : ∀ block ∈ gpsBlocks count rest, block.length = 6 := by
  induction count generalizing rest with
  | zero => exact List.forall_mem_nil _
  | succ count ih => exact List.forall_mem_cons.mpr ⟨length_gpsBlock rest, ih _⟩

theorem gpsBlocks_nil (count : Nat) : (gpsBlocks count []).flatten = List.replicate (6 * count) 0x30 := by
  induction count with
  | zero => rfl
  | succ count ih =>
      have block : gpsBlock [] = List.replicate 6 0x30 := by decide
      rw [gpsBlocks, List.flatten_cons, List.drop_nil, ih, block, List.replicate_append_replicate]
      congr 1
      omega

/-- The low half of the type byte is the number of the characters. -/
theorem gpsType {n : Nat} (few : n ≤ 5) :
    ((0x30 ||| UInt8.ofNat n) &&& 0x0F).toNat = n ∧ (0x30 ||| UInt8.ofNat n) &&& 0xF0 = 0x30 := by
  have cases : n = 0 ∨ n = 1 ∨ n = 2 ∨ n = 3 ∨ n = 4 ∨ n = 5 := by omega
  rcases cases with rfl | rfl | rfl | rfl | rfl | rfl <;> decide

theorem payload_gpsBlock (rest : Str) : payload (gpsBlock rest) = rest.take 5 := by
  have few : (rest.take 5).length ≤ 5 := List.length_take_le 5 rest
  rw [gpsBlock, payload_cons, (gpsType few).1, List.take_left]

theorem payloads_gpsBlocks (count : Nat) (rest : Str) : payloads (gpsBlocks count rest) = rest.take (5 * count) := by
  induction count generalizing rest with
  | zero => rfl
  | succ count ih =>
      calc
        payloads (gpsBlocks (count + 1) rest)
          = payload (gpsBlock rest) ++ payloads (gpsBlocks count (rest.drop 5)) := rfl
        _ = rest.take 5 ++ (rest.drop 5).take (5 * count) := by rw [payload_gpsBlock, ih]
        _ = rest.take (5 * (count + 1)) := by rw [← List.take_add, Nat.mul_add, Nat.mul_one, Nat.add_comm]

namespace SlowEncoder

/-! The loop. -/

section
variable {full turns pos : Nat} {rest data : Str}

theorem fillGPS_end (turns : Nat) (rest data : Str) : fillGPS full turns full rest data = .ok data := by
  cases turns with
  | zero => exact if_neg (Nat.lt_irrefl full)
  | succ turns => exact if_neg (Nat.lt_irrefl full)

/-- A turn writes a type byte and the characters behind it, if there is room. -/
theorem fillGPS_turn (before : pos < full) (inside : pos < data.length) :
    fillGPS full (turns + 1) pos rest data =
      if pos + 1 + (rest.take 5).length ≤ data.length then
        fillGPS full turns (pos + 1 + (rest.take 5).length) (rest.drop 5)
          (put data pos ((0x30 ||| UInt8.ofNat (rest.take 5).length) :: rest.take 5))
      else .error (.bytes .outOfRange) := by
  have first : write data pos [0x30 ||| UInt8.ofNat (rest.take 5).length] =
      .ok (put data pos [0x30 ||| UInt8.ofNat (rest.take 5).length]) := write_ok (f := (pos, [_])) inside
  rw [fillGPS, if_pos before]
  dsimp only
  rw [first, access, slow_bind, write, length_put]
  split
  · rw [access, slow_bind, put_put]
  · rfl

/-- A turn that stays inside the array. -/
theorem fillGPS_next (turns : Nat) (room : pos + 1 + (rest.take 5).length ≤ data.length) (before : pos < full) :
    ∃ data', fillGPS full (turns + 1) pos rest data =
        fillGPS full turns (pos + 1 + (rest.take 5).length) (rest.drop 5) data' ∧
      data'.length = data.length ∧
      data'.take (pos + 1 + (rest.take 5).length) =
        data.take pos ++ ((0x30 ||| UInt8.ofNat (rest.take 5).length) :: rest.take 5) := by
  let written := (0x30 ||| UInt8.ofNat (rest.take 5).length) :: rest.take 5
  have size : written.length = 1 + (rest.take 5).length := Nat.add_comm _ _
  have front : (data.take pos ++ written).length = pos + 1 + (rest.take 5).length := by
    rw [List.length_append, List.length_take_of_le (by omega), size]
    omega
  refine ⟨put data pos written, ?_, length_put _ _ _, ?_⟩
  · rw [fillGPS_turn before (by omega), if_pos room]
  · rw [put_eq_append (by omega), ← List.append_assoc, ← front, List.take_left]

/-- When the characters are through, each turn writes one byte. -/
theorem fillGPS_rest (enough : full - pos ≤ turns) (size : data.length = full) (inside : pos ≤ full) :
    fillGPS full turns pos [] data = .ok (data.take pos ++ List.replicate (full - pos) 0x30) := by
  induction turns generalizing pos data with
  | zero =>
      obtain rfl : pos = full := by omega
      rw [fillGPS_end, Nat.sub_self, ← size, List.take_length, List.replicate_zero, List.append_nil]
  | succ turns ih =>
      by_cases before : pos < full
      · have room : pos + 1 + (([] : Str).take 5).length ≤ data.length := by
          simp only [List.take_nil, List.length_nil]
          omega
        obtain ⟨data', next, size', front⟩ := fillGPS_next turns room before
        simp only [List.take_nil, List.length_nil, Nat.add_zero] at next front
        have byte : (0x30 ||| UInt8.ofNat 0) = 0x30 := by decide
        rw [next, List.drop_nil, ih (by omega) (size'.trans size) before, front, byte,
          show full - pos = full - (pos + 1) + 1 by omega, List.replicate_succ, List.append_assoc]
        rfl
      · obtain rfl : pos = full := by omega
        rw [fillGPS_end, Nat.sub_self, ← size, List.take_length, List.replicate_zero, List.append_nil]

/-- The loop fills whole blocks. -/
theorem fillGPS_blocks {count : Nat} (enough : 6 * count ≤ turns) (size : data.length = full)
    (room : full = pos + 6 * count) :
    fillGPS full turns pos rest data = .ok (data.take pos ++ (gpsBlocks count rest).flatten) := by
  induction count generalizing pos rest data turns with
  | zero =>
      obtain rfl : pos = full := by omega
      rw [fillGPS_end, ← size, List.take_length]
      exact congrArg _ (List.append_nil data).symm
  | succ count ih =>
      obtain ⟨turns, rfl⟩ : ∃ t, turns = t + 1 := ⟨turns - 1, by omega⟩
      have few : (rest.take 5).length ≤ 5 := List.length_take_le 5 rest
      have inside : pos + 1 + (rest.take 5).length ≤ data.length := by omega
      have before : pos < full := by omega
      obtain ⟨data', next, size', front⟩ := fillGPS_next turns inside before
      rw [next, gpsBlocks, List.flatten_cons]
      by_cases more : (rest.take 5).length = 5
      · rw [ih (by omega) (size'.trans size) (by omega), front, gpsBlock, more]
        simp
      · -- the last characters: from here on the loop writes type bytes only
        have through : rest.drop 5 = [] := by
          rw [List.length_take] at more few
          exact List.drop_eq_nil_of_le (by omega)
        rw [through, fillGPS_rest (by omega) (size'.trans size) (by omega), front, gpsBlocks_nil, gpsBlock,
          show full - (pos + 1 + (rest.take 5).length) = 5 - (rest.take 5).length + 6 * count by omega,
          ← List.replicate_append_replicate]
        simp only [List.append_assoc, List.cons_append]

/-- An array whose length is no multiple of six is overrun while there are characters. -/
theorem fillGPS_overrun {count : Nat} (size : data.length = full) (room : full = pos + 6 * count + 2)
    (long : 5 * (count + 1) ≤ rest.length) (turns : Nat) : ∀ d, fillGPS full turns pos rest data ≠ .ok d := by
  induction turns generalizing count pos rest data with
  | zero =>
      have before : pos < full := by omega
      rw [fillGPS, if_pos before]
      simp
  | succ turns ih =>
      have five : (rest.take 5).length = 5 := List.length_take_of_le (by omega)
      cases count with
      | zero =>
          rw [fillGPS_turn (by omega) (by omega), if_neg (by omega)]
          simp
      | succ count =>
          have inside : pos + 1 + (rest.take 5).length ≤ data.length := by omega
          have before : pos < full := by omega
          obtain ⟨data', next, size', -⟩ := fillGPS_next turns inside before
          have left : full = pos + 1 + (rest.take 5).length + 6 * count + 2 := by omega
          rw [next]
          exact ih (size'.trans size) left (by rw [List.length_drop]; omega)

end

/-! The sizes. -/

theorem fullSize_eq {size : Nat} (some : 0 < size) (small : size ≤ 4294967280) :
    fullSize size = 60 * ((size + 59) / 60) := by
  simp only [fullSize, slowDataFullBlockSize, word]
  omega

/-- Near the end of the numbers the product wraps. -/
theorem fullSize_wrapped {size : Nat} (huge : 4294967280 < size) (small : size < word) : fullSize size = 44 := by
  simp only [fullSize, slowDataFullBlockSize, word] at *
  omega

theorem fullSize_zero : fullSize 0 = 44 := by decide

/-- A full size is one of whole full blocks, or the wrapped one. -/
theorem fullSize_cases {size : Nat} (small : size < word) :
    (0 < size ∧ size ≤ 4294967280 ∧ fullSize size = 60 * ((size + 59) / 60)) ∨
      (size = 0 ∨ 4294967280 < size) ∧ fullSize size = 44 := by
  rcases Nat.eq_zero_or_pos size with rfl | some
  · exact .inr ⟨.inl rfl, fullSize_zero⟩
  · rcases Nat.lt_or_ge 4294967280 size with huge | fits
    · exact .inr ⟨.inr huge, fullSize_wrapped huge small⟩
    · exact .inl ⟨some, fits, fullSize_eq some fits⟩

theorem gpsSizeOf_lt (s : Str) : gpsSizeOf s < word := Nat.mod_lt _ (by decide)

/-! The call. -/

/-- The array that the call fills, where it does. -/
theorem fillGPS_eq {s : Str} (fits : fullSize (gpsSizeOf s) ≠ 44) :
    fillGPS (fullSize (gpsSizeOf s)) (fullSize (gpsSizeOf s)) 0 s (List.replicate (fullSize (gpsSizeOf s)) 102) =
      .ok (gpsBlocks (10 * ((gpsSizeOf s + 59) / 60)) s).flatten := by
  obtain ⟨-, -, full⟩ | ⟨-, wrapped⟩ := fullSize_cases (gpsSizeOf_lt s)
  · rw [full]
    exact fillGPS_blocks (by omega) List.length_replicate (by omega)
  · exact absurd wrapped fits

theorem fillGPS_wrapped {s : Str} (wrapped : fullSize (gpsSizeOf s) = 44) (turns : Nat) (some : s ≠ []) :
    ∀ d, fillGPS 44 turns 0 s (List.replicate 44 102) ≠ .ok d := by
  have length := List.length_pos_iff.mpr some
  have long : 5 * (7 + 1) ≤ s.length := by
    obtain ⟨-, -, full⟩ | ⟨huge, -⟩ := fullSize_cases (gpsSizeOf_lt s)
    · omega
    · by_contra short
      have exact : gpsSizeOf s = 1 + (s.length - 1) / 6 + s.length :=
        Nat.mod_eq_of_lt (by simp only [word]; omega)
      omega
  exact fillGPS_overrun List.length_replicate rfl long turns

/-- The string is in the blocks that the call has left in the array. -/
def GPSKept (e : SlowEncoder) (s : Str) : Prop :=
  ∃ e' bytes, e.setGPSData s = .ok e' ∧ e'.gpsData = .owned bytes ∧ payloads (blocks bytes) = s

theorem setGPSData_some {e : SlowEncoder} {s : Str} (some : s ≠ []) (interleaved : e.interleavedData ≠ .freed)
    (live : e.gpsData ≠ .freed) :
    e.setGPSData s = do
      let data ← fillGPS (fullSize (gpsSizeOf s)) (fullSize (gpsSizeOf s)) 0 s
        (List.replicate (fullSize (gpsSizeOf s)) 102)
      return { e.uninterleaved with
        gpsData := .owned data, gpsDataSize := gpsSizeOf s, gpsDataFullSize := fullSize (gpsSizeOf s), gpsPtr := 0 } := by
  have deleted : e.uninterleaved.gpsData.delete = .ok () := Pointer.delete_eq_ok_iff.mpr live
  rw [setGPSData, clearInterleavedData_ok interleaved, slow_bind]
  dsimp only
  rw [deleted, slow_bind, if_neg some]

/-- The pointer to the array that was deleted stays. -/
theorem setGPSData_nil {e : SlowEncoder} (interleaved : e.interleavedData ≠ .freed) (live : e.gpsData ≠ .freed) :
    e.setGPSData [] = .ok { e.uninterleaved with
      gpsData := if e.gpsData.isSet then .freed else .null, gpsDataSize := 0, gpsPtr := 0 } := by
  have deleted : e.uninterleaved.gpsData.delete = .ok () := Pointer.delete_eq_ok_iff.mpr live
  rw [setGPSData, clearInterleavedData_ok interleaved, slow_bind]
  dsimp only
  rw [deleted, slow_bind, if_pos rfl]
  rfl

theorem live_of_setGPSData {e e' : SlowEncoder} {s : Str} (done : e.setGPSData s = .ok e') :
    e.interleavedData ≠ .freed ∧ e.gpsData ≠ .freed := by
  have interleaved : e.interleavedData ≠ .freed := by
    intro freed
    rw [setGPSData, clearInterleavedData, freed] at done
    cases done
  refine ⟨interleaved, fun freed => ?_⟩
  have deleted : e.uninterleaved.gpsData.delete = .error (.pointer .useAfterDelete) := by
    rw [show e.uninterleaved.gpsData = e.gpsData from rfl, freed]
    rfl
  rw [setGPSData, clearInterleavedData_ok interleaved, slow_bind] at done
  dsimp only at done
  rw [deleted] at done
  cases done

/-- The characters that the array carries. -/
theorem payloads_array (s : Str) (count : Nat) : payloads (blocks (gpsBlocks count s).flatten) = s.take (5 * count) := by
  rw [blocks, cut_flatten (by decide) (whole_gpsBlocks count s), payloads_gpsBlocks]

/-- How many characters there is room for, of a string whose size is not wrapped. -/
theorem gps_room {s : Str} (some : s ≠ []) :
    s.length ≤ 50 * ((s.length + (s.length + 5) / 6 + 59) / 60) ↔
      fullSize (gpsSizeOf s) ≠ 44 ∧ s.length ≤ 5 * (10 * ((gpsSizeOf s + 59) / 60)) := by
  have positive := List.length_pos_iff.mpr some
  have estimate : 1 + (s.length - 1) / 6 + s.length = s.length + (s.length + 5) / 6 := by omega
  rw [gpsSizeOf, estimate]
  constructor
  · intro room
    have exact : (s.length + (s.length + 5) / 6) % word = s.length + (s.length + 5) / 6 :=
      Nat.mod_eq_of_lt (by simp only [word]; omega)
    rw [exact, fullSize_eq (by omega) (by omega)]
    omega
  · rintro ⟨-, room⟩
    have small : (s.length + (s.length + 5) / 6) % word < word := Nat.mod_lt _ (by decide)
    by_cases exact : s.length + (s.length + 5) / 6 < word
    · rw [Nat.mod_eq_of_lt exact] at room
      omega
    · simp only [word] at small exact room
      omega

/-- The string is in the array exactly when the array has room for it. -/
theorem gps_kept_iff {e : SlowEncoder} {s : Str} (some : s ≠ []) :
    e.GPSKept s ↔ (e.interleavedData ≠ .freed ∧ e.gpsData ≠ .freed) ∧
      s.length ≤ 50 * ((s.length + (s.length + 5) / 6 + 59) / 60) := by
  rw [gps_room some]
  constructor
  · rintro ⟨e', bytes, done, held, kept⟩
    have live := live_of_setGPSData done
    rw [setGPSData_some some live.1 live.2] at done
    have unwrapped : fullSize (gpsSizeOf s) ≠ 44 := by
      intro wrapped
      obtain ⟨d, filled, -⟩ := slow_bind_eq_ok.mp done
      rw [wrapped] at filled
      exact fillGPS_wrapped wrapped 44 some d filled
    rw [fillGPS_eq unwrapped, slow_bind] at done
    cases done
    cases held
    rw [payloads_array] at kept
    have length := congrArg List.length kept
    rw [List.length_take] at length
    exact ⟨live, unwrapped, by omega⟩
  · rintro ⟨⟨interleaved, live⟩, unwrapped, room⟩
    have done := setGPSData_some some interleaved live
    rw [fillGPS_eq unwrapped, slow_bind] at done
    refine ⟨_, (gpsBlocks (10 * ((gpsSizeOf s + 59) / 60)) s).flatten, done, rfl, ?_⟩
    rw [payloads_array, List.take_of_length_le room]

theorem gps_kept_thirty : new.GPSKept (List.replicate 30 65) :=
  (gps_kept_iff (by decide)).mpr ⟨by decide, by decide⟩

/-- Of fifty-one characters the last one is lost. -/
theorem fifty_one_lost : List.replicate 51 (65 : UInt8) ≠ [] ∧ ¬new.GPSKept (List.replicate 51 65) := by
  refine ⟨by decide, ?_⟩
  rintro ⟨e', bytes, done, held, kept⟩
  rw [setGPSData_some (by decide) (by decide) (by decide), fillGPS_eq (by decide), slow_bind] at done
  cases done
  cases held
  rw [payloads_array] at kept
  exact absurd (congrArg List.length kept) (by decide)

end SlowEncoder
end SmartGroup
