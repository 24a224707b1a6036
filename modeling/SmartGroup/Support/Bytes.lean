import Mathlib.Data.List.Basic

/-! Byte strings and byte memory with the ways in which reading them can go
wrong. Strings are lists of bytes; a memory is the list of the bytes that may be
read, so that a read behind its end is an error. -/
namespace Bytes

abbrev Str := List UInt8

/-- The bytes of a text whose characters are below 256. -/
def str (s : String) : Str := s.toList.map fun c => UInt8.ofNat c.toNat

/-- What a read, a string operation or a checked assumption can fail with. -/
inductive Failure where
  | overread
  | outOfRange
  | assertion
  deriving DecidableEq, Repr

abbrev Try := Except Failure

/-- `data[i]`. -/
def byte (mem : List UInt8) (i : Nat) : Try UInt8 :=
  match mem[i]? with
  | some b => .ok b
  | none => .error .overread

/-- `memcpy(_, data + start, n)`. -/
def copy (mem : List UInt8) (start n : Nat) : Try Str :=
  if start + n ≤ mem.length then .ok ((mem.drop start).take n) else .error .overread

/-- `assert`. -/
def require (c : Bool) : Try Unit := if c then .ok () else .error .assertion

/-- `std::string(const char *)`: up to the first zero byte of the memory. -/
def cstring (mem : List UInt8) : Try Str :=
  if 0 ∈ mem then .ok (mem.takeWhile (· ≠ 0)) else .error .overread

/-- `std::string::substr`, which throws where the position is behind the end. -/
def substr (s : Str) (pos n : Nat) : Try Str :=
  if pos ≤ s.length then .ok ((s.drop pos).take n) else .error .outOfRange

/-- `std::string::operator[]`: the position at the end holds the terminator. -/
def charAt (s : Str) (i : Nat) : Try UInt8 :=
  if h : i < s.length then .ok s[i] else if i = s.length then .ok 0 else .error .overread

/-- `std::string::at`, which throws behind the end. -/
def charOf (s : Str) (i : Nat) : Try UInt8 :=
  match s[i]? with
  | some b => .ok b
  | none => .error .outOfRange

/-- A string cut or padded with blanks to `n` characters. -/
def padTo (n : Nat) (s : Str) : Str := (s ++ List.replicate n 32).take n

theorem length_padTo (n : Nat) (s : Str) : (padTo n s).length = n := by
  simp [padTo]

/-- The call completes. -/
def Completes {α : Type} (t : Try α) : Prop := ∃ a, t = .ok a

@[simp] theorem completes_ok {α : Type} (a : α) : Completes (.ok a : Try α) := ⟨a, rfl⟩

@[simp] theorem completes_pure {α : Type} (a : α) : Completes (pure a : Try α) := ⟨a, rfl⟩

@[simp] theorem not_completes_error {α : Type} (e : Failure) : ¬Completes (.error e : Try α) := by
  simp [Completes]

instance {α : Type} (t : Try α) : Decidable (Completes t) :=
  match t with
  | .ok a => isTrue ⟨a, rfl⟩
  | .error e => isFalse (not_completes_error e)

theorem ok_bind {α β : Type} (a : α) (f : α → Try β) : (.ok a : Try α) >>= f = f a := rfl

/-- A call followed by a rest that completes alike whatever the call returned. -/
theorem completes_then {α β : Type} {t : Try α} {f : α → Try β} {P : Prop}
    (rest : ∀ a, Completes (f a) ↔ P) : Completes (t >>= f) ↔ Completes t ∧ P := by
  cases t with
  | error e => simp [bind, Except.bind]
  | ok a =>
      rw [ok_bind, rest]
      simp

theorem byte_ok {mem : List UInt8} {i : Nat} (h : i < mem.length) : byte mem i = .ok mem[i] := by
  simp [byte, List.getElem?_eq_getElem h]

theorem copy_ok {mem : List UInt8} {start n : Nat} (h : start + n ≤ mem.length) :
    copy mem start n = .ok ((mem.drop start).take n) := if_pos h

theorem completes_substr (s : Str) (pos n : Nat) : Completes (substr s pos n) ↔ pos ≤ s.length := by
  unfold substr
  split <;> simp_all

theorem completes_charAt (s : Str) (i : Nat) : Completes (charAt s i) ↔ i ≤ s.length := by
  unfold charAt
  split
  · rename_i inside
    simp [Nat.le_of_lt inside]
  · split
    · simp_all
    · simp only [not_completes_error, false_iff]
      omega

theorem charOf_ok {s : Str} {i : Nat} (h : i < s.length) : charOf s i = .ok s[i] := by
  simp [charOf, List.getElem?_eq_getElem h]

/-! Receive buffers: a datagram overwrites the front, what was behind it stays. -/

structure Buffer (size : Nat) where
  bytes : List UInt8
  full : bytes.length = size

def Buffer.zero (size : Nat) : Buffer size := ⟨List.replicate size 0, List.length_replicate⟩

/-- `recvfrom` into the buffer; a longer datagram is cut to the buffer's size. -/
def Buffer.receive {size : Nat} (b : Buffer size) (datagram : List UInt8) : Buffer size where
  bytes := datagram.take size ++ b.bytes.drop datagram.length
  full := by
    have full := b.full
    simp only [List.length_append, List.length_take, List.length_drop]
    omega

theorem Buffer.receive_bytes {size : Nat} (b : Buffer size) {d : List UInt8}
    (fits : d.length ≤ size) : (b.receive d).bytes = d ++ b.bytes.drop d.length := by
  simp only [receive, List.take_of_length_le fits]

/-- The datagram is the front of what was received. -/
theorem Buffer.receive_prefix {size : Nat} (b : Buffer size) {d : List UInt8}
    (fits : d.length ≤ size) : d <+: (b.receive d).bytes := by
  rw [receive_bytes b fits]
  exact List.prefix_append d _

/-- `t'` gives what `t` gives wherever `t` succeeds. -/
def Extends {α : Type} (t t' : Try α) : Prop := ∀ a, t = .ok a → t' = .ok a

theorem Extends.refl {α : Type} (t : Try α) : Extends t t := fun _ h => h

theorem Extends.bind {α β : Type} {t t' : Try α} {f f' : α → Try β} (first : Extends t t')
    (rest : ∀ a, Extends (f a) (f' a)) : Extends (t >>= f) (t' >>= f') := by
  intro b h
  cases t with
  | error e => cases h
  | ok a =>
      rw [first a rfl]
      exact rest a b h

/-- A read that succeeds on a memory gives the same on every memory that extends it. -/
theorem byte_mono {mem mem' : List UInt8} (front : mem <+: mem') (i : Nat) :
    Extends (byte mem i) (byte mem' i) := by
  intro b h
  unfold byte at h ⊢
  split at h
  · rename_i c found
    have longer : mem'[i]? = some c := by
      obtain ⟨rest, rfl⟩ := front
      have inside : i < mem.length := (List.getElem?_eq_some_iff.mp found).1
      rw [List.getElem?_append_left inside, found]
    simpa [longer] using h
  · cases h

theorem copy_mono {mem mem' : List UInt8} (front : mem <+: mem') (start n : Nat) :
    Extends (copy mem start n) (copy mem' start n) := by
  intro s h
  unfold copy at h
  split at h
  · rename_i inside
    obtain ⟨rest, rfl⟩ := front
    have longer : start + n ≤ (mem ++ rest).length := by
      rw [List.length_append]
      omega
    rw [copy_ok longer, List.drop_append_of_le_length (by omega),
      List.take_append_of_le_length (by rw [List.length_drop]; omega)]
    exact h
  · cases h

end Bytes
