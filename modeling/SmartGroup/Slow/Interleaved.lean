import SmartGroup.Slow.GPS

/-! The array that `buildInterleavedData` makes: the slots of six bytes are filled from the
queues of the sources' blocks. -/
namespace SmartGroup
open Bytes Blocks

/-- The first `count` blocks of an array from a position on. -/
def queue (data : Str) (count ptr : Nat) : List Str := ((blocks data).take count).drop (ptr / 6)

theorem queue_cons {data : Str} {count ptr : Nat} (at_block : ptr % 6 = 0) (inside : ptr < 6 * count)
    (enough : 6 * count ≤ data.length) :
    queue data count ptr = (data.drop ptr).take 6 :: queue data count (ptr + 6) := by
  have place : 6 * (ptr / 6) = ptr := by omega
  have first : ptr / 6 < (blocks data).length := by
    rw [blocks, length_cut]
    omega
  have here : ptr / 6 < ((blocks data).take count).length := by
    rw [List.length_take]
    omega
  have next : (ptr + 6) / 6 = ptr / 6 + 1 := by omega
  rw [queue, queue, List.drop_eq_getElem_cons here, List.getElem_take, next]
  congr 1
  exact (getElem_cut first).trans (by rw [place])

theorem queue_nil {data : Str} {count ptr : Nat} (through : 6 * count ≤ ptr) : queue data count ptr = [] := by
  rw [queue]
  apply List.drop_eq_nil_of_le
  rw [List.length_take]
  omega

theorem queue_empty (count ptr : Nat) : queue [] count ptr = [] := by
  rw [queue, blocks, cut_nil, List.take_nil, List.drop_nil]

namespace Pointer

/-- The bytes that can be read through the pointer. -/
def bytes : Pointer → Str
  | owned bytes => bytes
  | _ => []

end Pointer

namespace SlowEncoder

theorem move_ok {bytes data : Str} {ptr n place : Nat} (inside : ptr + n ≤ bytes.length)
    (room : place + n ≤ data.length) :
    move (.owned bytes) ptr n data place =
      .ok (data.take place ++ ((bytes.drop ptr).take n ++ data.drop (place + n))) := by
  have length : ((bytes.drop ptr).take n).length = n := by
    rw [List.length_take, List.length_drop]
    omega
  have written : write data place ((bytes.drop ptr).take n) = .ok (put data place ((bytes.drop ptr).take n)) :=
    write_ok (f := (place, (bytes.drop ptr).take n)) (by rw [Field.Fits, length]; exact room)
  rw [move, Pointer.target, slow_bind, access_eq_ok.mpr (copy_ok inside), slow_bind,
    access_eq_ok.mpr written, put_eq_append (by rw [length]; exact room), length]

/-- A copy that completes leaves the length, and had room. -/
theorem room_of_move {source : Pointer} {data data' : Str} {ptr n place : Nat}
    (done : move source ptr n data place = .ok data') (some : 0 < n) :
    data'.length = data.length ∧ place + n ≤ data.length := by
  obtain ⟨bytes, -, rest⟩ := slow_bind_eq_ok.mp done
  obtain ⟨block, copied, written⟩ := slow_bind_eq_ok.mp rest
  rw [access_eq_ok] at copied written
  have length : block.length = n := by
    unfold copy at copied
    split at copied
    · cases copied
      rw [List.length_take, List.length_drop]
      omega
    · cases copied
  unfold write at written
  split at written
  · cases written
    exact ⟨length_put _ _ _, by omega⟩
  · cases written

/-! The loop. -/

/-- The sources hold what the loop reads of them. -/
structure Readable (e : SlowEncoder) : Prop where
  text : ∃ b, e.textData = .owned b ∧ b.length = 60
  gps : e.gpsDataSize = 0 ∨ ∃ b, e.gpsData = .owned b ∧ 6 * ((e.gpsDataSize + 5) / 6) ≤ b.length
  header : e.headerData = .null ∨ ∃ b, e.headerData = .owned b ∧ b.length = 60

def textQueue (e : SlowEncoder) (ptr : Nat) : List Str := queue e.textData.bytes 4 ptr

def gpsQueue (e : SlowEncoder) (ptr : Nat) : List Str := queue e.gpsData.bytes ((e.gpsDataSize + 5) / 6) ptr

def headerQueue (e : SlowEncoder) (ptr : Nat) : List Str := queue e.headerData.bytes 9 ptr

/-- What the loop still puts into the next `n` slots. -/
def remaining (e : SlowEncoder) (s : Interleaving) (slot n : Nat) : List Str :=
  schedule fillerBlock (slot % 2 == 0) n (e.textQueue s.textPtr) (e.gpsQueue s.gpsPtr) (e.headerQueue s.headerPtr)

/-- The loop before the turn for the slot, when `n` slots are left. -/
structure Interleaving.Before (s : Interleaving) (slot n : Nat) : Prop where
  length : s.data.length = 6 * (slot + n)
  filler : s.data.drop (6 * slot) = List.replicate (6 * n) 102
  text : s.textPtr % 6 = 0
  gps : s.gpsPtr % 6 = 0
  header : s.headerPtr % 6 = 0

theorem Interleaving.Before.behind {s : Interleaving} {slot n : Nat} (before : s.Before slot (n + 1)) :
    s.data.drop (6 * slot + 6) = List.replicate (6 * n) 102 := by
  rw [← List.drop_drop, before.filler, List.drop_replicate]
  rfl

/-- A block of six bytes in the next slot, which may be the filler that is there. -/
theorem Interleaving.Before.placed {s : Interleaving} {slot n : Nat} (before : s.Before slot (n + 1))
    {block data : Str} (six : block.length = 6)
    (moved : data = s.data.take (6 * slot) ++ (block ++ s.data.drop (6 * slot + 6))) :
    data.length = 6 * (slot + 1 + n) ∧ data.drop (6 * (slot + 1)) = List.replicate (6 * n) 102 ∧
      data.take (6 * (slot + 1)) = s.data.take (6 * slot) ++ block := by
  have length := before.length
  have front : (s.data.take (6 * slot) ++ block).length = 6 * (slot + 1) := by
    rw [List.length_append, List.length_take_of_le (by omega), six]
    rfl
  rw [moved, before.behind, ← List.append_assoc, ← front, List.take_left, List.drop_left, List.length_append, front,
    List.length_replicate]
  exact ⟨by omega, rfl, rfl⟩

theorem even_next (slot : Nat) : ((slot + 1) % 2 == 0) = !(slot % 2 == 0) := by
  rcases Nat.mod_two_eq_zero_or_one slot with even | odd
  · simp [even, show (slot + 1) % 2 = 1 by omega]
  · simp [odd, show (slot + 1) % 2 = 0 by omega]

theorem length_block {data : Str} {ptr : Nat} (inside : ptr + 6 ≤ data.length) : ((data.drop ptr).take 6).length = 6 := by
  rw [List.length_take, List.length_drop]
  omega

/-- The turn for a slot goes through, and takes what comes first of what remains. -/
def Turns (e : SlowEncoder) (s : Interleaving) (slot n : Nat) : Prop :=
  ∃ s' block, e.fillSlot s slot = .ok s' ∧ s'.Before (slot + 1) n ∧
    s'.data.take (6 * (slot + 1)) = s.data.take (6 * slot) ++ block ∧
    e.remaining s slot (n + 1) = block :: e.remaining s' (slot + 1) n

section
variable {e : SlowEncoder} {s : Interleaving} {slot n : Nat}

theorem Interleaving.Before.room (before : s.Before slot (n + 1)) : 6 * slot + 6 ≤ s.data.length := by
  have := before.length
  omega

theorem turns_text (readable : e.Readable) (before : s.Before slot (n + 1))
    (first : s.textPtr < slowTextSize ∧ slot % 2 = 0) : e.Turns s slot n := by
  obtain ⟨t, text, text_size⟩ := readable.text
  obtain ⟨early, even⟩ := first
  have inside : s.textPtr < 24 := early
  have turn := before.text
  have head : e.textQueue s.textPtr = (t.drop s.textPtr).take 6 :: e.textQueue (s.textPtr + 6) := by
    rw [textQueue, textQueue, text]
    exact queue_cons turn inside (by rw [Pointer.bytes]; omega)
  have inside : s.textPtr + 6 ≤ t.length := by omega
  obtain ⟨length, filler, front⟩ := before.placed (length_block inside) rfl
  refine ⟨{ s with data := _, textPtr := s.textPtr + 6 }, _, ?_,
    ⟨length, filler, by dsimp only; omega, before.gps, before.header⟩, front, ?_⟩
  · rw [fillSlot, if_pos ⟨early, even⟩, text, slowDataBlockSize, move_ok inside before.room]
    rfl
  · rw [remaining, head, even]
    simp only [remaining, even_next, even]
    rfl

/-- The text is not in turn, or through. -/
theorem text_passed (first : ¬(s.textPtr < slowTextSize ∧ slot % 2 = 0)) :
    (slot % 2 == 0) = false ∨ e.textQueue s.textPtr = [] := by
  by_cases early : s.textPtr < slowTextSize
  · have odd : ¬slot % 2 = 0 := fun even => first ⟨early, even⟩
    exact .inl (by simpa using odd)
  · have late : 24 ≤ s.textPtr := Nat.le_of_not_lt early
    exact .inr (queue_nil late)

theorem gps_through (before : s.Before slot (n + 1)) (second : ¬s.gpsPtr < e.gpsDataSize) :
    e.gpsQueue s.gpsPtr = [] := by
  have turn := before.gps
  exact queue_nil (by omega)

theorem turns_gps (readable : e.Readable) (before : s.Before slot (n + 1))
    (first : ¬(s.textPtr < slowTextSize ∧ slot % 2 = 0)) (second : s.gpsPtr < e.gpsDataSize) : e.Turns s slot n := by
  obtain none | ⟨b, gps, gps_size⟩ := readable.gps
  · omega
  have turn := before.gps
  have inside : s.gpsPtr + 6 ≤ b.length := by omega
  have head : e.gpsQueue s.gpsPtr = (b.drop s.gpsPtr).take 6 :: e.gpsQueue (s.gpsPtr + 6) := by
    rw [gpsQueue, gpsQueue, gps]
    exact queue_cons turn (by omega) gps_size
  obtain ⟨length, filler, front⟩ := before.placed (length_block inside) rfl
  refine ⟨{ s with data := _, gpsPtr := s.gpsPtr + 6 }, _, ?_,
    ⟨length, filler, before.text, by dsimp only; omega, before.header⟩, front, ?_⟩
  · rw [fillSlot, if_neg first, if_pos second, gps, slowDataBlockSize, move_ok inside before.room]
    rfl
  · rw [remaining, head, schedule_second (text_passed first), ← even_next]
    rfl

theorem turns_header (readable : e.Readable) (before : s.Before slot (n + 1))
    (first : ¬(s.textPtr < slowTextSize ∧ slot % 2 = 0)) (second : ¬s.gpsPtr < e.gpsDataSize)
    (third : e.headerData.isSet ∧ s.headerPtr < slowHeaderSize) : e.Turns s slot n := by
  obtain null | ⟨b, header, header_size⟩ := readable.header
  · rw [null] at third
    exact absurd third.1 (by decide)
  have turn := before.header
  have early : s.headerPtr < 54 := third.2
  have inside : s.headerPtr + 6 ≤ b.length := by omega
  have head : e.headerQueue s.headerPtr = (b.drop s.headerPtr).take 6 :: e.headerQueue (s.headerPtr + 6) := by
    rw [headerQueue, headerQueue, header]
    exact queue_cons turn early (by rw [Pointer.bytes]; omega)
  have gps := gps_through before second
  obtain ⟨length, filler, front⟩ := before.placed (length_block inside) rfl
  refine ⟨{ s with data := _, headerPtr := s.headerPtr + 6 }, _, ?_,
    ⟨length, filler, before.text, before.gps, by dsimp only; omega⟩, front, ?_⟩
  · rw [fillSlot, if_neg first, if_neg second, if_pos third, header, slowDataBlockSize, move_ok inside before.room]
    rfl
  · rw [remaining, gps, head, schedule_third (text_passed first), ← even_next]
    simp only [remaining, gps]

theorem header_through (readable : e.Readable) (third : ¬(e.headerData.isSet ∧ s.headerPtr < slowHeaderSize)) :
    e.headerQueue s.headerPtr = [] := by
  obtain null | ⟨b, header, header_size⟩ := readable.header
  · rw [headerQueue, null]
    exact queue_empty 9 s.headerPtr
  · have late : ¬s.headerPtr < slowHeaderSize := fun early => third ⟨by rw [header]; rfl, early⟩
    have through : 54 ≤ s.headerPtr := Nat.le_of_not_lt late
    exact queue_nil through

/-- The slot keeps the filler it was made with. -/
theorem turns_filler (readable : e.Readable) (before : s.Before slot (n + 1))
    (first : ¬(s.textPtr < slowTextSize ∧ slot % 2 = 0)) (second : ¬s.gpsPtr < e.gpsDataSize)
    (third : ¬(e.headerData.isSet ∧ s.headerPtr < slowHeaderSize)) : e.Turns s slot n := by
  have gps := gps_through before second
  have header := header_through readable third
  have kept : s.data = s.data.take (6 * slot) ++ (fillerBlock ++ s.data.drop (6 * slot + 6)) := by
    have whole : s.data.drop (6 * slot) = fillerBlock ++ List.replicate (6 * n) 102 := by
      rw [before.filler, fillerBlock, List.replicate_append_replicate, Nat.mul_add, Nat.add_comm]
    rw [before.behind, ← whole, List.take_append_drop]
  have six : fillerBlock.length = 6 := rfl
  obtain ⟨length, filler, front⟩ := before.placed six kept
  refine ⟨s, fillerBlock, ?_, ⟨length, filler, before.text, before.gps, before.header⟩, front, ?_⟩
  · rw [fillSlot, if_neg first, if_neg second, if_neg third]
    rfl
  · rw [remaining, gps, header, schedule_filler (text_passed first), ← even_next]
    simp only [remaining, gps, header]

/-- A turn moves the head of a queue, or leaves filler. -/
theorem fillSlot_turn (readable : e.Readable) (before : s.Before slot (n + 1)) : e.Turns s slot n := by
  by_cases first : s.textPtr < slowTextSize ∧ slot % 2 = 0
  · exact turns_text readable before first
  by_cases second : s.gpsPtr < e.gpsDataSize
  · exact turns_gps readable before first second
  by_cases third : e.headerData.isSet ∧ s.headerPtr < slowHeaderSize
  · exact turns_header readable before first second third
  · exact turns_filler readable before first second third

end

/-- The turns for the slots from one on. -/
theorem foldlM_fillSlot {e : SlowEncoder} (readable : e.Readable) {n : Nat} : ∀ {s : Interleaving} {slot : Nat},
    s.Before slot n → ∃ s', (List.range' slot n).foldlM e.fillSlot s = .ok s' ∧
      s'.data = s.data.take (6 * slot) ++ (e.remaining s slot n).flatten := by
  induction n with
  | zero =>
      intro s slot before
      have length := before.length
      refine ⟨s, rfl, ?_⟩
      rw [List.take_of_length_le (by omega)]
      exact (List.append_nil _).symm
  | succ n ih =>
      intro s slot before
      obtain ⟨s₁, block, turn, next, front, first⟩ := fillSlot_turn readable before
      obtain ⟨s₂, rest, data⟩ := ih next
      refine ⟨s₂, ?_, ?_⟩
      · rw [List.range'_succ, List.foldlM_cons, turn, slow_bind, rest]
      · rw [data, front, first, List.flatten_cons, List.append_assoc]

/-- The array of text, GPS data and header, when it is made of whole slots. -/
theorem interleave_both {e : SlowEncoder} (readable : e.Readable) (gps : e.gpsData.isSet) {n : Nat}
    (size : e.interleavedSize = 6 * n) :
    e.interleave =
      .ok (schedule fillerBlock true n (e.textQueue 0) (e.gpsQueue 0) (e.headerQueue 0)).flatten := by
  obtain ⟨t, text, -⟩ := readable.text
  have before : Interleaving.Before ⟨List.replicate (6 * n) 102, 0, 0, 0⟩ 0 n :=
    ⟨by simp, by simp, rfl, rfl, rfl⟩
  obtain ⟨s, run, data⟩ := foldlM_fillSlot readable before
  have slots : (6 * n + (slowDataBlockSize - 1)) / slowDataBlockSize = n := by
    simp only [slowDataBlockSize]
    omega
  have both : (e.textData.isSet && e.gpsData.isSet) = true := by rw [text, gps]; rfl
  rw [interleave, size]
  dsimp only
  rw [if_pos both, slots, List.range_eq_range', run, slow_bind, data]
  rfl

theorem interleave_text_header {e : SlowEncoder} (text : e.textData.isSet) (gps : ¬e.gpsData.isSet)
    (header : e.headerData.isSet) :
    e.interleave = twoBlocks e.textData e.headerData (List.replicate e.interleavedSize 102) := by
  simp [interleave, text, gps, header]

theorem interleave_gps_header {e : SlowEncoder} (text : ¬e.textData.isSet) (gps : e.gpsData.isSet)
    (header : e.headerData.isSet) :
    e.interleave = twoBlocks e.gpsData e.headerData (List.replicate e.interleavedSize 102) := by
  simp [interleave, text, gps, header]

/-- With one source or none nothing is copied. -/
theorem interleave_none {e : SlowEncoder} (text : e.textData.isSet → ¬e.gpsData.isSet ∧ ¬e.headerData.isSet)
    (gps : e.gpsData.isSet → ¬e.headerData.isSet) :
    e.interleave = .ok (List.replicate e.interleavedSize 102) := by
  cases set : e.textData.isSet <;> cases set' : e.gpsData.isSet <;> simp_all [interleave] <;> rfl

/-! Where the copies do not fit. -/

theorem fillSlot_bounds {e : SlowEncoder} {s s' : Interleaving} {slot : Nat} (done : e.fillSlot s slot = .ok s') :
    s'.gpsPtr ≤ s.gpsPtr + 6 ∧ s'.data.length = s.data.length := by
  unfold fillSlot at done
  split at done
  · obtain ⟨data, moved, last⟩ := slow_bind_eq_ok.mp done
    cases last
    exact ⟨Nat.le_add_right _ _, (room_of_move moved (by decide)).1⟩
  · split at done
    · obtain ⟨data, moved, last⟩ := slow_bind_eq_ok.mp done
      cases last
      exact ⟨Nat.le_refl _, (room_of_move moved (by decide)).1⟩
    · split at done
      · obtain ⟨data, moved, last⟩ := slow_bind_eq_ok.mp done
        cases last
        exact ⟨Nat.le_add_right _ _, (room_of_move moved (by decide)).1⟩
      · cases done
        exact ⟨Nat.le_add_right _ _, rfl⟩

theorem foldlM_bounds {e : SlowEncoder} (slots : List Nat) : ∀ {s s' : Interleaving},
    slots.foldlM e.fillSlot s = .ok s' →
      s'.gpsPtr ≤ s.gpsPtr + 6 * slots.length ∧ s'.data.length = s.data.length := by
  induction slots with
  | nil =>
      intro s s' done
      cases done
      exact ⟨Nat.le_refl _, rfl⟩
  | cons slot slots ih =>
      intro s s' done
      rw [List.foldlM_cons] at done
      obtain ⟨s₁, first, rest⟩ := slow_bind_eq_ok.mp done
      obtain ⟨gps, length⟩ := fillSlot_bounds first
      obtain ⟨gps', length'⟩ := ih rest
      rw [List.length_cons]
      exact ⟨by omega, length'.trans length⟩

/-- The wrapped size: the eighth block of the GPS data does not fit. -/
theorem interleave_wrapped {e : SlowEncoder} (text : e.textData.isSet) (gps : e.gpsData.isSet)
    (wrapped : e.interleavedSize = 44) (more : 42 < e.gpsDataSize) : ∀ data, e.interleave ≠ .ok data := by
  intro data done
  have both : (e.textData.isSet && e.gpsData.isSet) = true := by rw [text, gps]; rfl
  have slots : (44 + (slowDataBlockSize - 1)) / slowDataBlockSize = 8 := rfl
  rw [interleave, wrapped] at done
  dsimp only at done
  rw [if_pos both, slots, List.range_succ, List.foldlM_append] at done
  obtain ⟨s₂, run, -⟩ := slow_bind_eq_ok.mp done
  obtain ⟨s₁, seven, rest⟩ := slow_bind_eq_ok.mp run
  obtain ⟨last, turn, -⟩ := slow_bind_eq_ok.mp rest
  obtain ⟨behind, length⟩ := foldlM_bounds _ seven
  rw [List.length_range] at behind
  rw [List.length_replicate] at length
  have odd : ¬(s₁.textPtr < slowTextSize ∧ 7 % 2 = 0) := fun both => absurd both.2 (by decide)
  dsimp only at behind
  rw [fillSlot, if_neg odd, if_pos (by omega)] at turn
  obtain ⟨data, moved, -⟩ := slow_bind_eq_ok.mp turn
  have room := (room_of_move moved (by decide)).2
  simp only [slowDataBlockSize] at room
  omega

theorem twoBlocks_ok {first second data : Str} (full : 60 ≤ first.length) (full' : 60 ≤ second.length)
    (room : 120 ≤ data.length) :
    twoBlocks (.owned first) (.owned second) data =
      .ok (first.take 60 ++ (second.take 60 ++ data.drop 120)) := by
  have front : (first.take 60).length = 60 := List.length_take_of_le full
  have one : move (.owned first) 0 60 data 0 = .ok (first.take 60 ++ data.drop 60) := by
    rw [move_ok (by omega) (by omega), List.take_zero, List.drop_zero]
    rfl
  have length : (first.take 60 ++ data.drop 60).length = data.length := by
    rw [List.length_append, List.length_drop]
    omega
  rw [twoBlocks, slowDataFullBlockSize, one, slow_bind, move_ok (by omega) (by omega), List.drop_zero,
    List.take_left' front, List.drop_append, front, List.drop_eq_nil_of_le (by omega), List.drop_drop,
    List.nil_append]

theorem room_of_twoBlocks {first second : Pointer} {data data' : Str} (done : twoBlocks first second data = .ok data') :
    data'.length = data.length ∧ 120 ≤ data.length := by
  obtain ⟨one, moved, rest⟩ := slow_bind_eq_ok.mp done
  have same := (room_of_move moved (by decide)).1
  obtain ⟨same', room⟩ := room_of_move rest (by decide)
  simp only [slowDataFullBlockSize] at room
  exact ⟨same'.trans same, by omega⟩

end SlowEncoder
end SmartGroup
