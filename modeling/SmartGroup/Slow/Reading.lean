import SmartGroup.Slow.Bounds

/-! A row of calls of `getInterleavedData`, when the interleaved array is there. -/
namespace SmartGroup
open Bytes Blocks Outcome

namespace SlowEncoder
open SlowDataEncoder (unscramble)

/-- The calls in a row, with what they give back. -/
def getInterleaveds (e : SlowEncoder) : Nat → SlowTry (List Str × SlowEncoder)
  | 0 => .ok ([], e)
  | n + 1 => do
      let (frame, e) ← e.getInterleavedData
      let (frames, e) ← e.getInterleaveds n
      return (frame :: frames, e)

/-- The position after a read. -/
def following (length ptr : Nat) : Nat := if length ≤ ptr + 3 then 0 else ptr + 3

/-- The position of the read with number `i`. -/
def position (length ptr i : Nat) : Nat := (following length)^[i] ptr

/-- The three bytes that each of the reads is about. -/
def slices (b : Str) (length ptr n : Nat) : List Str :=
  (List.range n).map fun i => (b.drop (position length ptr i)).take 3

theorem slices_succ (b : Str) (length ptr n : Nat) :
    slices b length ptr (n + 1) = (b.drop ptr).take 3 :: slices b length (following length ptr) n := by
  rw [slices, List.range_succ_eq_map, List.map_cons, List.map_map]
  rfl

theorem position_succ (length ptr i : Nat) : position length ptr (i + 1) = position length (following length ptr) i :=
  Function.iterate_succ_apply (following length) i ptr

/-- One call reads three bytes, where there are three. -/
theorem getInterleavedData_read {e : SlowEncoder} {b : Str} (several : ¬e.Single) (owned : e.interleavedData = .owned b) :
    Exactly (e.interleavedPtr + 3 ≤ b.length) (fun r => unscramble r.1 = (b.drop e.interleavedPtr).take 3 ∧
      r.2 = { e with interleavedPtr := following e.gpsDataFullSize e.interleavedPtr }) e.getInterleavedData := by
  rw [getInterleavedData_built several owned]
  by_cases inside : e.interleavedPtr + 3 ≤ b.length
  · rw [getData_owned inside]
    exact ⟨inside, SlowDataEncoder.unscramble_getData inside e.gpsDataFullSize, rfl⟩
  · have outside := getData_exactly b e.interleavedPtr e.gpsDataFullSize
    cases ran : getData (.owned b) e.interleavedPtr e.gpsDataFullSize with
    | error f => exact inside
    | ok r =>
        rw [ran] at outside
        exact absurd outside.1 inside

/-- The calls complete when all of the reads stay inside the array. -/
theorem getInterleaveds_exactly (b : Str) (n : Nat) : ∀ {e : SlowEncoder}, ¬e.Single → e.interleavedData = .owned b →
    Exactly (∀ i < n, position e.gpsDataFullSize e.interleavedPtr i + 3 ≤ b.length)
      (fun r => r.1.map unscramble = slices b e.gpsDataFullSize e.interleavedPtr n ∧ r.2.interleavedData = .owned b)
      (e.getInterleaveds n) := by
  induction n with
  | zero =>
      intro e _ owned
      have none : ∀ i < 0, position e.gpsDataFullSize e.interleavedPtr i + 3 ≤ b.length := fun i less => absurd less (Nat.not_lt_zero i)
      exact ⟨none, rfl, owned⟩
  | succ n ih =>
      intro e several owned
      have inside : (e.interleavedPtr + 3 ≤ b.length ∧
          ∀ i < n, position e.gpsDataFullSize (following e.gpsDataFullSize e.interleavedPtr) i + 3 ≤ b.length) ↔
            ∀ i < n + 1, position e.gpsDataFullSize e.interleavedPtr i + 3 ≤ b.length := by
        rw [Nat.forall_lt_succ_left]
        simp only [position_succ]
        rfl
      refine ((getInterleavedData_read several owned).bind fun r _ read => ?_).congr inside fun _ holds => holds
      obtain ⟨frame, e'⟩ := r
      obtain ⟨plain, rfl⟩ := read
      let moved := { e with interleavedPtr := following e.gpsDataFullSize e.interleavedPtr }
      refine (ih (e := moved) several owned).bind_ok fun r later => exactly_ok ?_
      rw [List.map_cons, plain, later.1, slices_succ]
      exact ⟨rfl, later.2⟩

/-- The encoder when the array has been made. -/
def withArray (e : SlowEncoder) (b : Str) (size : Nat) : SlowEncoder :=
  { e with interleavedDataFullSize := size, interleavedData := .owned b }

/-- The first call builds the array. -/
theorem getInterleaveds_null {e : SlowEncoder} {b : Str} (several : ¬e.Single) (null : e.interleavedData = .null)
    (built : e.interleave = .ok b) (n : Nat) :
    e.getInterleaveds (n + 1) = (e.withArray b e.interleavedSize).getInterleaveds (n + 1) := by
  have same : e.getInterleavedData = (e.withArray b e.interleavedSize).getInterleavedData := by
    rw [getInterleavedData_null several null, built, slow_bind]
    generalize e.interleavedSize = size
    exact (getInterleavedData_built (e := e.withArray b size) several rfl).symm
  rw [getInterleaveds, getInterleaveds, same]

/-! Which bytes the calls give back. -/

section
variable {b : Str} {length n : Nat}

theorem position_inside {i : Nat} (inside : 3 * i < length) : position length 0 i = 3 * i := by
  induction i with
  | zero => rfl
  | succ i ih =>
      have more : ¬length ≤ 3 * i + 3 := by omega
      rw [position, Function.iterate_succ_apply', ← position, ih (by omega), following, if_neg more]
      rfl

/-- Behind the length the reads start again. -/
theorem position_again {i : Nat} (whole : length = 3 * (i + 1)) : position length 0 (i + 1) = 0 := by
  have last : length ≤ 3 * i + 3 := by omega
  rw [position, Function.iterate_succ_apply', ← position, position_inside (by omega), following, if_pos last]

theorem slices_inside (size : b.length = 3 * n) (enough : b.length ≤ length) : slices b length 0 n = cut 3 b := by
  have count : (b.length + 3 - 1) / 3 = n := by omega
  rw [cut, count, slices]
  apply List.map_congr_left
  intro i member
  have inside := List.mem_range.mp member
  rw [position_inside (by omega)]

theorem whole_slices (inside : ∀ i < n, position length 0 i + 3 ≤ b.length) :
    ∀ slice ∈ slices b length 0 n, slice.length = 3 := by
  intro slice member
  obtain ⟨j, listed, rfl⟩ := List.mem_map.mp member
  have := inside j (List.mem_range.mp listed)
  rw [List.length_take, List.length_drop]
  omega

theorem length_slices (inside : ∀ i < n, position length 0 i + 3 ≤ b.length) :
    (slices b length 0 n).flatten.length = 3 * n := by
  rw [length_flatten (whole_slices inside), slices, List.length_map, List.length_range]

/-- When the bytes are all of the array, each read gives its own three. -/
theorem slice_of_whole (inside : ∀ i < n, position length 0 i + 3 ≤ b.length)
    (whole : (slices b length 0 n).flatten = b) {i : Nat} (less : i < n) :
    (b.drop (3 * i)).take 3 = (b.drop (position length 0 i)).take 3 := by
  have cuts : cut 3 b = slices b length 0 n := by
    rw [← cut_flatten (by decide) (whole_slices inside), whole]
  have there : i < (slices b length 0 n).length := by rwa [slices, List.length_map, List.length_range]
  have here : i < (cut 3 b).length := by rwa [cuts]
  calc
    (b.drop (3 * i)).take 3 = (cut 3 b)[i] := (getElem_cut here).symm
    _ = (slices b length 0 n)[i] := List.getElem_of_eq cuts here
    _ = (b.drop (position length 0 i)).take 3 := by simp [slices]

theorem headD_take (b : Str) (k : Nat) : (b.take (k + 1)).headD 0 = b.headD 0 := by cases b <;> rfl

/-- An array longer than what is read of it has a later block with the first type byte. -/
theorem type_again {m : Nat} (size : b.length = 6 * m) (some : 10 ≤ m) (full : length % 60 = 0) (short : length < b.length)
    (inside : ∀ i < 2 * m, position length 0 i + 3 ≤ b.length) (whole : (slices b length 0 (2 * m)).flatten = b) :
    ∃ j, 1 ≤ j ∧ length ≤ 6 * j ∧ ∃ block, (blocks b)[j]? = .some block ∧ block.headD 0 = b.headD 0 := by
  have place : ∃ j, 1 ≤ j ∧ length ≤ 6 * j ∧ j < m ∧ position length 0 (2 * j) = 0 := by
    rcases Nat.eq_zero_or_pos length with rfl | positive
    · exact ⟨1, Nat.le_refl 1, Nat.zero_le _, by omega, rfl⟩
    · have back := position_again (i := length / 3 - 1) (show length = 3 * (length / 3 - 1 + 1) by omega)
      refine ⟨length / 6, by omega, by omega, by omega, ?_⟩
      rwa [show 2 * (length / 6) = length / 3 - 1 + 1 by omega]
  obtain ⟨j, later, behind, less, start⟩ := place
  have same := slice_of_whole inside whole (show 2 * j < 2 * m by omega)
  rw [start, List.drop_zero, ← Nat.mul_assoc] at same
  have here : j < (blocks b).length := by rwa [blocks, length_cut_mul (by decide) size]
  refine ⟨j, later, behind, _, List.getElem?_eq_getElem here, ?_⟩
  calc
    (blocks b)[j].headD 0 = ((b.drop (6 * j)).take 6).headD 0 := congrArg (·.headD 0) (getElem_cut here)
    _ = ((b.drop (6 * j)).take 3).headD 0 := (headD_take _ 5).trans (headD_take _ 2).symm
    _ = (b.take 3).headD 0 := congrArg (·.headD 0) same
    _ = b.headD 0 := headD_take b 2

end

end SlowEncoder
end SmartGroup
