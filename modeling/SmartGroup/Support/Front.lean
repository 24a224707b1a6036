import SmartGroup.Support.Bytes

/-! Memories that agree in front. Whatever is read of the front only is read alike. -/
namespace Bytes

/-- The first `n` bytes are the same. -/
def Agree (n : Nat) (s t : List UInt8) : Prop := s.take n = t.take n

theorem takeWhile_take (p : UInt8 → Bool) (s : List UInt8) (n : Nat) :
    (s.takeWhile p).take n = (s.take n).takeWhile p := by
  induction s generalizing n with
  | nil => simp
  | cons b s ih =>
      cases n with
      | zero => simp
      | succ n => by_cases taken : p b <;> simp [taken, ih]

namespace Agree
variable {n : Nat} {s t : List UInt8}

theorem append (front : Str) (s t : List UInt8) : Agree front.length (front ++ s) (front ++ t) := by
  rw [Agree, List.take_left, List.take_left]

theorem getElem? (same : Agree n s t) {i : Nat} (inside : i < n) : s[i]? = t[i]? := by
  have found := congrArg (·[i]?) same
  simpa only [List.getElem?_take, if_pos inside] using found

theorem mono (same : Agree n s t) {m : Nat} (fewer : m ≤ n) : Agree m s t := by
  have shorter := congrArg (List.take m) same
  rwa [List.take_take, List.take_take, Nat.min_eq_left fewer] at shorter

theorem le_length_iff (same : Agree n s t) {k : Nat} (inside : k ≤ n) : k ≤ s.length ↔ k ≤ t.length := by
  have lengths := congrArg List.length same
  rw [List.length_take, List.length_take] at lengths
  omega

theorem slice (same : Agree n s t) {start k : Nat} (inside : start + k ≤ n) :
    (s.drop start).take k = (t.drop start).take k := by
  have front := congrArg (List.drop start) (same.mono inside)
  rwa [List.drop_take, List.drop_take, Nat.add_sub_cancel_left] at front

theorem byte (same : Agree n s t) {i : Nat} (inside : i < n) : byte s i = byte t i := by
  simp only [Bytes.byte, same.getElem? inside]

theorem copy (same : Agree n s t) {start k : Nat} (inside : start + k ≤ n) :
    copy s start k = copy t start k := by
  simp only [Bytes.copy, same.slice inside, same.le_length_iff inside]

theorem substr (same : Agree n s t) {start k : Nat} (inside : start + k ≤ n) :
    substr s start k = substr t start k := by
  have reached := same.le_length_iff (k := start) (by omega)
  simp only [Bytes.substr, same.slice inside, reached]

theorem charAt (same : Agree n s t) {i : Nat} (inside : i < n) : charAt s i = charAt t i := by
  have reached := same.le_length_iff (k := i) (by omega)
  have passed := same.le_length_iff (k := i + 1) (by omega)
  have found := same.getElem? inside
  unfold Bytes.charAt
  by_cases here : i < s.length
  · have there : i < t.length := by omega
    rw [List.getElem?_eq_getElem here, List.getElem?_eq_getElem there, Option.some.injEq] at found
    rw [dif_pos here, dif_pos there, found]
  · have not_there : ¬i < t.length := by omega
    have last : i = s.length ↔ i = t.length := by omega
    rw [dif_neg here, dif_neg not_there]
    simp only [last]

theorem padTo (same : Agree n s t) {k : Nat} (inside : k ≤ n) : padTo k s = padTo k t := by
  have cut (u : Str) : Bytes.padTo k u = Bytes.padTo k (u.take k) := by
    rw [Bytes.padTo, Bytes.padTo, List.take_append, List.take_append, List.take_take, Nat.min_self,
      List.length_take]
    congr 2
    omega
  rw [cut s, cut t, same.mono inside]

theorem takeWhile (same : Agree n s t) (p : UInt8 → Bool) : Agree n (s.takeWhile p) (t.takeWhile p) := by
  rw [Agree, takeWhile_take, takeWhile_take, same]

/-- Texts that end somewhere agree as far as their memories. -/
theorem cstring (same : Agree n s t) (ends : 0 ∈ s) (ends' : 0 ∈ t) :
    ∃ text text', cstring s = .ok text ∧ cstring t = .ok text' ∧ Agree n text text' :=
  ⟨_, _, if_pos ends, if_pos ends', same.takeWhile _⟩

end Agree

/-! Receive buffers. -/

variable {size : Nat}

/-- A zero byte stands in what the datagram leaves of the buffer. -/
def Buffer.Ends (b : Buffer size) (d : List UInt8) : Prop := d.length < size → 0 ∈ b.bytes.drop d.length

instance (b : Buffer size) (d : List UInt8) : Decidable (b.Ends d) := inferInstanceAs (Decidable (_ → _))

theorem Buffer.receive_agree (b b' : Buffer size) (d : List UInt8) :
    Agree (min d.length size) (b.receive d).bytes (b'.receive d).bytes := by
  have front := Agree.append (d.take size) (b.bytes.drop d.length) (b'.bytes.drop d.length)
  rwa [List.length_take, Nat.min_comm] at front

theorem Buffer.Ends.zero_mem {b : Buffer size} {d : List UInt8} (ends : b.Ends d)
    (room : min d.length size < size) : 0 ∈ (b.receive d).bytes :=
  List.mem_append_right _ (ends (by omega))

end Bytes
