import SmartGroup.Support.Bytes

/-! Writing packets to a byte memory. A packet is a list of fields, each with the place
where it starts; fields that do not touch each other are read back as they were written. -/
namespace Bytes

/-- The memory after the bytes have been stored from `start` on. -/
def put (mem : List UInt8) (start : Nat) (s : Str) : List UInt8 :=
  mem.mapIdx fun i b => if i < start then b else s.getD (i - start) b

/-- `memcpy(data + start, _, n)` with the `n` bytes of `s`. -/
def write (mem : List UInt8) (start : Nat) (s : Str) : Try (List UInt8) :=
  if start + s.length ≤ mem.length then .ok (put mem start s) else .error .outOfRange

/-- Where a field starts, and its bytes. -/
abbrev Field := Nat × Str

def writeAll : List UInt8 → List Field → Try (List UInt8)
  | mem, [] => .ok mem
  | mem, f :: fields => do
      let mem ← write mem f.1 f.2
      writeAll mem fields

/-- The field stands in the memory. -/
def Holds (mem : List UInt8) (f : Field) : Prop :=
  ∀ i (inside : i < f.2.length), mem[f.1 + i]? = some f.2[i]

/-- The fields have no byte in common. -/
def Field.Apart (f g : Field) : Prop := f.1 + f.2.length ≤ g.1 ∨ g.1 + g.2.length ≤ f.1

def Field.Fits (mem : List UInt8) (f : Field) : Prop := f.1 + f.2.length ≤ mem.length

variable {mem : List UInt8} {f g : Field}

@[simp] theorem length_put (mem : List UInt8) (start : Nat) (s : Str) :
    (put mem start s).length = mem.length := by
  simp [put]

theorem write_ok (fits : f.Fits mem) : write mem f.1 f.2 = .ok (put mem f.1 f.2) := if_pos fits

/-- The write of a field that fits, piece by piece. -/
theorem put_eq_append {start : Nat} {s : Str} (fits : start + s.length ≤ mem.length) :
    put mem start s = mem.take start ++ (s ++ mem.drop (start + s.length)) := by
  apply List.ext_getElem?
  intro i
  have front : (mem.take start).length = start := List.length_take_of_le (by omega)
  by_cases before : i < start
  · rw [List.getElem?_append_left (by omega), List.getElem?_take, if_pos before, put, List.getElem?_mapIdx]
    simp [before]
  · rw [List.getElem?_append_right (by omega), front, put, List.getElem?_mapIdx]
    by_cases written : i - start < s.length
    · have present : i < mem.length := by omega
      rw [List.getElem?_append_left written]
      simp [before, written, present]
    · rw [List.getElem?_append_right (by omega), List.getElem?_drop,
        show start + s.length + (i - start - s.length) = i by omega]
      cases mem[i]? <;> simp [before, written]

/-- A byte and the bytes behind it, written one after the other. -/
theorem put_put (mem : List UInt8) (start : Nat) (b : UInt8) (s : Str) :
    put (put mem start [b]) (start + 1) s = put mem start (b :: s) := by
  simp only [put, List.mapIdx_mapIdx]
  congr 1
  funext i c
  simp only [Function.comp_apply]
  by_cases before : i < start
  · simp [before, show i < start + 1 by omega]
  · by_cases first : i < start + 1
    · simp [before, first, show i - start = 0 by omega]
    · simp [before, first, show i - start = i - (start + 1) + 1 by omega]

theorem Holds.byte {i : Nat} {b : UInt8} (held : Holds mem f) (found : f.2[i]? = some b) :
    byte mem (f.1 + i) = .ok b := by
  obtain ⟨inside, rfl⟩ := List.getElem?_eq_some_iff.mp found
  simp only [Bytes.byte, held i inside]

theorem Holds.fits (held : Holds mem f) (some_byte : 0 < f.2.length) : f.Fits mem := by
  have last : f.2.length - 1 < f.2.length := by omega
  have found := (List.getElem?_eq_some_iff.mp (held _ last)).1
  unfold Field.Fits
  omega

theorem Holds.copy {n : Nat} (held : Holds mem f) (all : f.2.length = n) (some_byte : 0 < n) :
    copy mem f.1 n = .ok f.2 := by
  subst all
  rw [copy_ok (held.fits some_byte)]
  congr 1
  apply List.ext_getElem?
  intro i
  rw [List.getElem?_take, List.getElem?_drop]
  split
  · rename_i inside
    rw [held i inside, List.getElem?_eq_getElem inside]
  · rename_i outside
    rw [List.getElem?_eq_none (by omega)]

theorem holds_put (fits : f.Fits mem) : Holds (put mem f.1 f.2) f := by
  intro i inside
  have present : f.1 + i < mem.length := by
    unfold Field.Fits at fits
    omega
  have behind : ¬f.1 + i < f.1 := by omega
  rw [put, List.getElem?_mapIdx, List.getElem?_eq_getElem present]
  simp [behind, inside]

theorem getElem?_put_outside {i : Nat} (outside : i < g.1 ∨ g.1 + g.2.length ≤ i) :
    (put mem g.1 g.2)[i]? = mem[i]? := by
  rw [put, List.getElem?_mapIdx]
  rcases outside with before | behind
  · simp [before]
  · have past : g.2.length ≤ i - g.1 := by omega
    simp [List.getElem?_eq_none past]

theorem Holds.put (held : Holds mem f) (apart : f.Apart g) : Holds (put mem g.1 g.2) f := by
  intro i inside
  unfold Field.Apart at apart
  rw [getElem?_put_outside (by omega)]
  exact held i inside

/-- A memory that holds a field as long as itself is the field. -/
theorem Holds.eq {s : Str} (held : Holds mem (0, s)) (all : mem.length = s.length) : mem = s := by
  apply List.ext_getElem all
  intro i _ inside
  have found := held i inside
  rw [Nat.zero_add] at found
  exact (List.getElem?_eq_some_iff.mp found).2

theorem Holds.left {start : Nat} {s t : Str} (held : Holds mem (start, s ++ t)) : Holds mem (start, s) := by
  intro i (inside : i < s.length)
  have longer : i < (s ++ t).length := by
    rw [List.length_append]
    omega
  rw [held i longer, List.getElem_append_left inside]

/-- Two fields next to each other are one field. -/
theorem Holds.append {start : Nat} {s t : Str} (front : Holds mem (start, s))
    (rear : Holds mem (start + s.length, t)) : Holds mem (start, s ++ t) := by
  intro i (inside : i < (s ++ t).length)
  rw [List.length_append] at inside
  by_cases early : i < s.length
  · rw [front i early, List.getElem_append_left early]
  · have late : i - s.length < t.length := by omega
    have place : start + i = start + s.length + (i - s.length) := by omega
    rw [List.getElem_append_right (by omega), place]
    exact rear (i - s.length) late

/-! The front of a memory, as it is sent. -/

theorem Holds.take {n : Nat} (held : Holds mem f) (inside : f.1 + f.2.length ≤ n) :
    Holds (mem.take n) f := by
  intro i early
  rw [List.getElem?_take, if_pos (by omega)]
  exact held i early

theorem copy_take {start k n : Nat} (inside : start + k ≤ n) :
    copy (mem.take n) start k = copy mem start k := by
  have same : ((mem.take n).drop start).take k = (mem.drop start).take k := by
    rw [List.drop_take, List.take_take, Nat.min_eq_left (by omega)]
  have lengths : start + k ≤ (mem.take n).length ↔ start + k ≤ mem.length := by
    rw [List.length_take]
    omega
  simp only [copy, same, lengths]

/-- A copy that the write does not touch. -/
theorem copy_put_outside {start n : Nat} (apart : start + n ≤ g.1 ∨ g.1 + g.2.length ≤ start) :
    copy (Bytes.put mem g.1 g.2) start n = copy mem start n := by
  have same : ((Bytes.put mem g.1 g.2).drop start).take n = (mem.drop start).take n := by
    apply List.ext_getElem?
    intro i
    rw [List.getElem?_take, List.getElem?_take, List.getElem?_drop, List.getElem?_drop]
    by_cases inside : i < n
    · rw [if_pos inside, if_pos inside, getElem?_put_outside (by omega)]
    · rw [if_neg inside, if_neg inside]
  simp only [copy, length_put, same]

theorem write_holds (mem : List UInt8) (f : Field) (fits : f.Fits mem) :
    ∃ mem', write mem f.1 f.2 = .ok mem' ∧ mem'.length = mem.length ∧ Holds mem' f ∧
      ∀ g : Field, g.Apart f → Holds mem g → Holds mem' g :=
  ⟨Bytes.put mem f.1 f.2, write_ok fits, length_put _ _ _, holds_put fits,
    fun _ apart held => held.put apart⟩

/-- Fields that fit and do not touch each other are all held after they were written, and
so is every field before that they do not touch. -/
theorem writeAll_holds (mem : List UInt8) (fields : List Field) (fits : ∀ f ∈ fields, f.Fits mem)
    (apart : fields.Pairwise Field.Apart) :
    ∃ mem', writeAll mem fields = .ok mem' ∧ mem'.length = mem.length ∧
      (∀ f ∈ fields, Holds mem' f) ∧
      ∀ g, (∀ f ∈ fields, g.Apart f) → Holds mem g → Holds mem' g := by
  induction fields generalizing mem with
  | nil => exact ⟨mem, rfl, rfl, by simp, fun _ _ held => held⟩
  | cons f fields ih =>
      obtain ⟨first, others⟩ := List.pairwise_cons.mp apart
      have here := fits f List.mem_cons_self
      obtain ⟨mem', written, length, holds, kept⟩ := ih (Bytes.put mem f.1 f.2)
        (fun g member => by
          have there := fits g (List.mem_cons_of_mem f member)
          rwa [Field.Fits, length_put])
        others
      refine ⟨mem', ?_, by rw [length, length_put], ?_, ?_⟩
      · rw [writeAll, write_ok here, ok_bind, written]
      · intro g member
        rcases List.mem_cons.mp member with rfl | later
        · exact kept g first (holds_put here)
        · exact holds g later
      · intro g all held
        exact kept g (fun x member => all x (List.mem_cons_of_mem f member))
          (held.put (all f List.mem_cons_self))

end Bytes
