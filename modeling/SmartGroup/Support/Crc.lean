import Mathlib.Logic.Function.Iterate
import Mathlib.Data.List.Basic

/-! Cyclic redundancy checks that are fed with one bit at a time, the register shifted
towards its low bit, for every width and polynomial. A register whose polynomial has the
top bit set loses nothing when it is shifted; so two texts that differ, but only within
as many bits as the register has, leave different registers. -/
namespace Crc

variable {w : Nat} (poly : BitVec w)

/-- The low bit is shifted out; where it was set, the polynomial is added. -/
def shift (r : BitVec w) : BitVec w := if r.getLsbD 0 then (r >>> 1) ^^^ poly else r >>> 1

/-- The bit as the low bit of a register. -/
def low (b : Bool) : BitVec w := (BitVec.ofBool b).setWidth w

def feedBit (r : BitVec w) (b : Bool) : BitVec w := shift poly (r ^^^ low b)

/-- The register after the bits. -/
def feed (r : BitVec w) (bits : List Bool) : BitVec w := bits.foldl (feedBit poly) r

/-- The bits as a number, the first one lowest. -/
def pack : List Bool → BitVec w
  | [] => 0#w
  | b :: bits => low b ^^^ (pack bits <<< 1)

@[simp] theorem feed_nil (r : BitVec w) : feed poly r [] = r := rfl

@[simp] theorem feed_cons (r : BitVec w) (b : Bool) (bits : List Bool) :
    feed poly r (b :: bits) = feed poly (feedBit poly r b) bits := rfl

theorem feed_append (r : BitVec w) (front rear : List Bool) :
    feed poly r (front ++ rear) = feed poly (feed poly r front) rear := List.foldl_append

@[simp] theorem low_false : (low false : BitVec w) = 0#w := by simp [low]

theorem low_xor (a b : Bool) : (low (a ^^ b) : BitVec w) = low a ^^^ low b := by
  cases a <;> cases b <;> simp [low]

/-! The register is linear. -/

theorem shift_xor (r s : BitVec w) : shift poly (r ^^^ s) = shift poly r ^^^ shift poly s := by
  unfold shift
  simp only [BitVec.getLsbD_xor, BitVec.ushiftRight_xor_distrib]
  cases r.getLsbD 0 <;> cases s.getLsbD 0
  · simp
  · simp [BitVec.xor_assoc]
  · simp only [Bool.xor_false, if_true, Bool.false_eq_true, if_false]
    ac_rfl
  · have cancel : (r >>> 1 ^^^ poly) ^^^ (s >>> 1 ^^^ poly) = r >>> 1 ^^^ s >>> 1 ^^^ (poly ^^^ poly) := by
      ac_rfl
    simp [cancel]

@[simp] theorem shift_zero : shift poly 0#w = 0#w := by simp [shift]

theorem shifts_xor (n : Nat) (r s : BitVec w) :
    (shift poly)^[n] (r ^^^ s) = (shift poly)^[n] r ^^^ (shift poly)^[n] s := by
  induction n generalizing r s with
  | zero => rfl
  | succ n ih => simp only [Function.iterate_succ_apply, shift_xor, ih]

theorem feedBit_xor (r s : BitVec w) (a b : Bool) :
    feedBit poly (r ^^^ s) (a ^^ b) = feedBit poly r a ^^^ feedBit poly s b := by
  have regroup : r ^^^ s ^^^ (low a ^^^ low b) = (r ^^^ low a) ^^^ (s ^^^ low b) := by ac_rfl
  rw [feedBit, low_xor, regroup, shift_xor]
  rfl

/-- What two texts leave differs by what their difference leaves. -/
theorem feed_xor (r s : BitVec w) {left right : List Bool} (same : left.length = right.length) :
    feed poly r left ^^^ feed poly s right =
      feed poly (r ^^^ s) (left.zipWith (· ^^ ·) right) := by
  induction left generalizing r s right with
  | nil =>
      cases right with
      | nil => rfl
      | cons b right => cases same
  | cons a left ih =>
      cases right with
      | nil => cases same
      | cons b right =>
          simp only [feed_cons, List.zipWith_cons_cons, feedBit_xor]
          exact ih _ _ (Nat.succ.inj same)

/-! Bits that are fed while the register has room for them. -/

theorem shift_double {r : BitVec w} (room : r.getLsbD (w - 1) = false) : shift poly (r <<< 1) = r := by
  have even : (r <<< 1).getLsbD 0 = false := by simp
  rw [shift, even, if_neg Bool.false_ne_true]
  apply BitVec.eq_of_getLsbD_eq
  intro i inside
  rw [BitVec.getLsbD_ushiftRight, BitVec.getLsbD_shiftLeft]
  by_cases last : i = w - 1
  · subst last
    simp [room, show ¬1 + (w - 1) < w by omega]
  · simp [show 1 + i < w by omega, inside]

theorem getLsbD_low (b : Bool) (i : Nat) :
    (low b : BitVec w).getLsbD i = (decide (i < w) && decide (i = 0) && b) := by
  cases b
  · simp
  · by_cases first : i = 0 <;> simp [low, BitVec.getLsbD_setWidth, first]

theorem getLsbD_pack (bits : List Bool) (i : Nat) :
    (pack bits : BitVec w).getLsbD i = (decide (i < w) && bits.getD i false) := by
  induction bits generalizing i with
  | nil => simp [pack]
  | cons b bits ih =>
      rw [pack, BitVec.getLsbD_xor, getLsbD_low, BitVec.getLsbD_shiftLeft, ih]
      cases i with
      | zero => by_cases some_bit : 0 < w <;> simp [some_bit]
      | succ i =>
          by_cases inside : i + 1 < w
          · simp [inside, show i < w by omega]
          · simp [inside]

/-- Bits that fit are added to the register before it is shifted. -/
theorem feed_eq_shifts (r : BitVec w) {bits : List Bool} (fits : bits.length ≤ w) :
    feed poly r bits = (shift poly)^[bits.length] (r ^^^ pack bits) := by
  induction bits generalizing r with
  | nil => simp [pack]
  | cons b bits ih =>
      rw [List.length_cons] at fits
      have room : (pack bits : BitVec w).getLsbD (w - 1) = false := by
        rw [getLsbD_pack, List.getD_eq_getElem?_getD, List.getElem?_eq_none (by omega)]
        simp
      have regroup : r ^^^ (low b ^^^ pack bits <<< 1) = (r ^^^ low b) ^^^ pack bits <<< 1 :=
        (BitVec.xor_assoc _ _ _).symm
      rw [feed_cons, ih _ (by omega), List.length_cons, Function.iterate_succ_apply, pack, regroup,
        shift_xor, shift_double poly room]
      rfl

/-- Where the low bits are clear the register is only moved. -/
theorem shifts_clear {r : BitVec w} {k : Nat} (clear : ∀ i < k, r.getLsbD i = false) :
    (shift poly)^[k] r = r >>> k := by
  induction k with
  | zero => simp
  | succ k ih =>
      have last : (r >>> k).getLsbD 0 = false := by
        rw [BitVec.getLsbD_ushiftRight]
        exact clear k (Nat.lt_succ_self k)
      rw [Function.iterate_succ_apply', ih fun i early => clear i (Nat.lt_succ_of_lt early), shift,
        last, if_neg Bool.false_ne_true, ← BitVec.shiftRight_add]

/-- The low bits are shifted by themselves, and the other ones moved down. -/
theorem shifts_split (r : BitVec w) (k : Nat) :
    (shift poly)^[k] r = (shift poly)^[k] ((r.setWidth k).setWidth w) ^^^ r >>> k := by
  let front := (r.setWidth k).setWidth w
  have split : r = front ^^^ (r ^^^ front) := by
    rw [BitVec.xor_comm r, ← BitVec.xor_assoc, BitVec.xor_self, BitVec.zero_xor]
  have clear : ∀ i < k, (r ^^^ front).getLsbD i = false := by
    intro i early
    by_cases inside : i < w
    · simp [front, early, inside]
    · exact BitVec.getLsbD_of_ge _ _ (by omega)
  have moved : (r ^^^ front) >>> k = r >>> k := by
    apply BitVec.eq_of_getLsbD_eq
    intro i inside
    simp [front, BitVec.getLsbD_ushiftRight, BitVec.getLsbD_setWidth]
  conv_lhs => rw [split]
  rw [shifts_xor, shifts_clear poly clear, moved]

/-! Bursts. -/

/-- Nothing is lost in a shift: the top bit of the polynomial says what was shifted out. -/
theorem shift_eq_zero_iff (top : poly.getLsbD (w - 1) = true) (r : BitVec w) :
    shift poly r = 0#w ↔ r = 0#w := by
  constructor
  · intro lost
    have some_bit : 0 < w := by
      by_contra none
      rw [BitVec.getLsbD_of_ge _ _ (by omega)] at top
      cases top
    have even : r.getLsbD 0 = false := by
      by_contra odd
      rw [shift, if_pos (by simpa using odd)] at lost
      have last := congrArg (fun s : BitVec w => s.getLsbD (w - 1)) lost
      simp [top, BitVec.getLsbD_of_ge r (1 + (w - 1)) (by omega)] at last
    rw [shift, if_neg (by simp [even])] at lost
    apply BitVec.eq_of_getLsbD_eq
    intro i inside
    cases i with
    | zero => simp [even]
    | succ i =>
        have moved := congrArg (fun s : BitVec w => s.getLsbD i) lost
        simpa [BitVec.getLsbD_ushiftRight, Nat.add_comm] using moved
  · rintro rfl
    exact shift_zero poly

theorem shifts_eq_zero_iff (top : poly.getLsbD (w - 1) = true) (n : Nat) (r : BitVec w) :
    (shift poly)^[n] r = 0#w ↔ r = 0#w := by
  induction n generalizing r with
  | zero => rfl
  | succ n ih => rw [Function.iterate_succ_apply, ih, shift_eq_zero_iff poly top]

theorem shifts_inj (top : poly.getLsbD (w - 1) = true) (n : Nat) {r s : BitVec w} :
    (shift poly)^[n] r = (shift poly)^[n] s ↔ r = s := by
  rw [← BitVec.xor_eq_zero_iff, ← shifts_xor, shifts_eq_zero_iff poly top, BitVec.xor_eq_zero_iff]

theorem feed_clear {bits : List Bool} (clear : ∀ b ∈ bits, b = false) (r : BitVec w) :
    feed poly r bits = (shift poly)^[bits.length] r := by
  induction bits generalizing r with
  | nil => rfl
  | cons b bits ih =>
      obtain rfl := clear b List.mem_cons_self
      rw [feed_cons, ih fun c later => clear c (List.mem_cons_of_mem _ later), List.length_cons,
        Function.iterate_succ_apply, feedBit, low_false, BitVec.xor_zero]

theorem clear_of_getElem? {bits : List Bool} (clear : ∀ k : Nat, bits[k]? ≠ some true) :
    ∀ b ∈ bits, b = false := by
  intro b member
  obtain ⟨k, inside, rfl⟩ := List.mem_iff_getElem.mp member
  rw [← Bool.not_eq_true]
  exact fun set => clear k (List.getElem?_eq_some_iff.mpr ⟨inside, set⟩)

theorem pack_ne_zero {bits : List Bool} (short : bits.length ≤ w) (error : true ∈ bits) :
    (pack bits : BitVec w) ≠ 0#w := by
  intro none
  obtain ⟨k, inside, set⟩ := List.mem_iff_getElem.mp error
  have room : k < w := Nat.lt_of_lt_of_le inside short
  have clear := congrArg (fun r : BitVec w => r.getLsbD k) none
  simp only [getLsbD_pack] at clear
  rw [List.getD_eq_getElem?_getD, List.getElem?_eq_getElem inside, set] at clear
  simp [room] at clear

/-- A burst, with nothing but zeros before and behind it, is not a multiple of the polynomial. -/
theorem feed_burst_ne_zero (top : poly.getLsbD (w - 1) = true) {bits : List Bool} (start : Nat)
    (burst : ∀ k, bits[k]? = some true → start ≤ k ∧ k < start + w) (error : true ∈ bits) :
    feed poly 0#w bits ≠ 0#w := by
  let middle := (bits.drop start).take w
  have cut : bits = bits.take start ++ (middle ++ bits.drop (start + w)) := by
    rw [← List.drop_drop, List.take_append_drop, List.take_append_drop]
  have front : ∀ b ∈ bits.take start, b = false := by
    refine clear_of_getElem? fun k set => ?_
    rw [List.getElem?_take] at set
    split at set
    · have found := burst k set
      omega
    · cases set
  have rear : ∀ b ∈ bits.drop (start + w), b = false := by
    refine clear_of_getElem? fun k set => ?_
    rw [List.getElem?_drop] at set
    have found := burst _ set
    omega
  have inside : true ∈ middle := by
    rw [cut, List.mem_append, List.mem_append] at error
    rcases error with early | here | late
    · cases front true early
    · exact here
    · cases rear true late
  have short : middle.length ≤ w := List.length_take_le _ _
  rw [cut, feed_append, feed_append, feed_clear poly front,
    (shifts_eq_zero_iff poly top _ 0#w).mpr rfl, feed_clear poly rear, Ne, shifts_eq_zero_iff poly top,
    feed_eq_shifts poly 0#w short, shifts_eq_zero_iff poly top, BitVec.zero_xor]
  exact pack_ne_zero short inside

/-- Texts that agree before one place and from another one on differ between them. -/
theorem differ_between {left right : List Bool} {start stop : Nat}
    (front : left.take start = right.take start) (rear : left.drop stop = right.drop stop) (k : Nat)
    (apart : left[k]? ≠ right[k]?) : start ≤ k ∧ k < stop := by
  constructor
  · by_contra early
    have same := congrArg (fun bits : List Bool => bits[k]?) front
    simp only [List.getElem?_take, show k < start by omega, if_true] at same
    exact apart same
  · by_contra late
    have same := congrArg (fun bits : List Bool => bits[k - stop]?) rear
    simp only [List.getElem?_drop, show stop + (k - stop) = k by omega] at same
    exact apart same

/-- Two texts of one length that differ within a burst leave different registers. -/
theorem burst_detected (top : poly.getLsbD (w - 1) = true) {left right : List Bool}
    (same : left.length = right.length) (differ : left ≠ right) (start : Nat)
    (burst : ∀ k, left[k]? ≠ right[k]? → start ≤ k ∧ k < start + w) (r : BitVec w) :
    feed poly r left ≠ feed poly r right := by
  intro equal
  have error_iff (k : Nat) : (left.zipWith (· ^^ ·) right)[k]? = some true ↔ left[k]? ≠ right[k]? := by
    rw [List.getElem?_zipWith]
    by_cases inside : k < left.length
    · have also : k < right.length := same ▸ inside
      rw [List.getElem?_eq_getElem inside, List.getElem?_eq_getElem also]
      cases left[k] <;> cases right[k] <;> simp
    · rw [List.getElem?_eq_none (by omega), List.getElem?_eq_none (by omega)]
      simp
  obtain ⟨k, apart⟩ : ∃ k, left[k]? ≠ right[k]? := by
    by_contra none
    exact differ (List.ext_getElem? fun k => by_contra fun apart => none ⟨k, apart⟩)
  have error : true ∈ left.zipWith (· ^^ ·) right := List.mem_of_getElem? ((error_iff k).mpr apart)
  refine feed_burst_ne_zero poly top start (fun k set => burst k ((error_iff k).mp set)) error ?_
  have none := feed_xor poly r r same
  rw [equal, BitVec.xor_self, BitVec.xor_self] at none
  exact none.symm

end Crc
