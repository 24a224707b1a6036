import SmartGroup.Support.Calendar

/-! The string functions of `Utils.cpp`, in the C locale and the time zone UTC. -/
namespace SmartGroup
open Bytes

/-- `isspace`. -/
def isSpace (b : UInt8) : Bool := b == 32 || (9 ≤ b && b ≤ 13)

/-- `isdigit`. -/
def isDigit (b : UInt8) : Bool := 48 ≤ b && b ≤ 57

/-- `isalpha`. -/
def isAlpha (b : UInt8) : Bool := (65 ≤ b && b ≤ 90) || (97 ≤ b && b ≤ 122)

/-- `isalnum`. -/
def isAlnum (b : UInt8) : Bool := isDigit b || (65 ≤ b && b ≤ 90) || (97 ≤ b && b ≤ 122)

def Alphanumeric (s : Str) : Prop := ∀ b ∈ s, isAlnum b = true

instance (s : Str) : Decidable (Alphanumeric s) := inferInstanceAs (Decidable (∀ b ∈ s, _))

/-- `ToUpper`. -/
def toUpper (s : Str) : Str := s.map fun b => if 97 ≤ b ∧ b ≤ 122 then b - 32 else b

/-- `toupper`. -/
def upper (b : UInt8) : UInt8 := if 97 ≤ b ∧ b ≤ 122 then b - 32 else b

/-- `ReplaceChar`. -/
def replaceChar (s : Str) (a b : UInt8) : Str := s.map fun c => if c = a then b else c

/-- The tokens of a text of which `token` has been read. -/
def tokensFrom : Str → Str → List Str
  | token, [] => if token = [] then [] else [token]
  | token, b :: rest =>
      if isSpace b then
        if token = [] then tokensFrom [] rest else token :: tokensFrom [] rest
      else tokensFrom (token ++ [b]) rest

/-- `stringTokenizer`: the parts of the text between white space. -/
def stringTokenizer (s : Str) : List Str := tokensFrom [] s

/-- The loop with which `msgQuery` puts the tokens behind the command together again. -/
def restOfLine : List Str → Str
  | [] => []
  | [token] => token
  | token :: tokens => token ++ 32 :: restOfLine tokens

/-- The number that the digits stand for. -/
def number (s : Str) : Int := s.foldl (fun n b => 10 * n + (b.toNat - 48)) 0

/-- `mktime`, where the local time is UTC. A positive `tm_isdst` says that the clock has been
put forward, by an hour. -/
def mktime (tm_isdst : Int) (tm : Calendar.Tm) : Int :=
  Calendar.timegm tm - if 0 < tm_isdst then 3600 else 0

/-- `parseTime` on a text of the form that it is called with, `%Y-%m-%d %H:%M:%S`. Nothing sets
`tm_isdst`, not even `strptime`, so that `mktime` reads what the stack happens to hold there. -/
def parseTime (tm_isdst : Int) (s : Str) : Int :=
  mktime tm_isdst
    { year := number (s.take 4)
      mon := number ((s.drop 5).take 2)
      mday := number ((s.drop 8).take 2)
      hour := number ((s.drop 11).take 2)
      min := number ((s.drop 14).take 2)
      sec := number ((s.drop 17).take 2) }

/-- A text that the tokenizer returns whole. -/
def IsToken (s : Str) : Prop := s ≠ [] ∧ ∀ b ∈ s, isSpace b = false

theorem tokensFrom_append {token s : Str} (plain : ∀ b ∈ s, isSpace b = false) (rest : Str) :
    tokensFrom token (s ++ rest) = tokensFrom (token ++ s) rest := by
  induction s generalizing token with
  | nil => simp
  | cons b s ih =>
      have head : isSpace b = false := plain b List.mem_cons_self
      have tail : ∀ c ∈ s, isSpace c = false := fun c member =>
        plain c (List.mem_cons_of_mem b member)
      simp [tokensFrom, head, ih tail]

/-- Every token is one. -/
theorem isToken_of_mem_tokensFrom {token s : Str} (sofar : ∀ b ∈ token, isSpace b = false) {t : Str}
    (member : t ∈ tokensFrom token s) : IsToken t := by
  induction s generalizing token with
  | nil =>
      simp only [tokensFrom] at member
      split at member
      · cases member
      · rename_i nonempty
        rw [List.mem_singleton.mp member]
        exact ⟨nonempty, sofar⟩
  | cons b s ih =>
      simp only [tokensFrom] at member
      split at member
      · split at member
        · exact ih (by simp) member
        · rename_i nonempty
          rcases List.mem_cons.mp member with rfl | later
          · exact ⟨nonempty, sofar⟩
          · exact ih (by simp) later
      · rename_i plain
        apply ih _ member
        intro c inside
        rcases List.mem_append.mp inside with old | new
        · exact sofar c old
        · rw [List.mem_singleton.mp new]
          simpa using plain

theorem isToken_of_mem {s t : Str} (member : t ∈ stringTokenizer s) : IsToken t :=
  isToken_of_mem_tokensFrom (by simp) member

/-- Tokens that are put together with blanks are found again. -/
theorem stringTokenizer_restOfLine {tokens : List Str} (all : ∀ t ∈ tokens, IsToken t) :
    stringTokenizer (restOfLine tokens) = tokens := by
  induction tokens with
  | nil => rfl
  | cons t tokens ih =>
      obtain ⟨nonempty, plain⟩ := all t List.mem_cons_self
      have later := ih fun u member => all u (List.mem_cons_of_mem t member)
      cases tokens with
      | nil =>
          have whole : tokensFrom [] (t ++ []) = tokensFrom ([] ++ t) [] := tokensFrom_append plain []
          simpa [stringTokenizer, restOfLine, tokensFrom, nonempty] using whole
      | cons u tokens =>
          have blank : isSpace 32 = true := rfl
          simp only [stringTokenizer, restOfLine] at later ⊢
          rw [tokensFrom_append plain]
          simp [tokensFrom, nonempty, blank, later]

@[simp] theorem replaceChar_length (s : Str) (a b : UInt8) : (replaceChar s a b).length = s.length :=
  List.length_map _

@[simp] theorem replaceChar_nil_iff (s : Str) (a b : UInt8) : replaceChar s a b = [] ↔ s = [] :=
  List.map_eq_nil_iff

theorem replaceChar_eq_self {s : Str} {a : UInt8} (absent : a ∉ s) (b : UInt8) :
    replaceChar s a b = s := by
  refine (List.map_congr_left fun c member => ?_).trans (List.map_id s)
  exact if_neg fun same : c = a => absent (same ▸ member)

/-! Letters in upper case. -/

theorem toUpper_eq (s : Str) : toUpper s = s.map upper := rfl

@[simp] theorem toUpper_length (s : Str) : (toUpper s).length = s.length := List.length_map _

@[simp] theorem toUpper_nil_iff (s : Str) : toUpper s = [] ↔ s = [] := List.map_eq_nil_iff

theorem upper_toNat (b : UInt8) :
    (upper b).toNat = if 97 ≤ b.toNat ∧ b.toNat ≤ 122 then b.toNat - 32 else b.toNat := by
  unfold upper
  by_cases lower : 97 ≤ b ∧ b ≤ 122
  · have bounds : 97 ≤ b.toNat ∧ b.toNat ≤ 122 := lower
    rw [if_pos lower, if_pos bounds, UInt8.toNat_sub_of_le _ _ (UInt8.le_iff_toNat_le.mpr ?_)]
    · rfl
    · exact Nat.le_trans (by decide) bounds.1
  · have bounds : ¬(97 ≤ b.toNat ∧ b.toNat ≤ 122) := lower
    rw [if_neg lower, if_neg bounds]

theorem isAlpha_iff (b : UInt8) :
    isAlpha b = true ↔ (65 ≤ b.toNat ∧ b.toNat ≤ 90) ∨ (97 ≤ b.toNat ∧ b.toNat ≤ 122) := by
  simp [isAlpha, UInt8.le_iff_toNat_le]

theorem isAlnum_iff (b : UInt8) :
    isAlnum b = true ↔ (48 ≤ b.toNat ∧ b.toNat ≤ 57) ∨ isAlpha b = true := by
  simp [isAlnum, isDigit, isAlpha, UInt8.le_iff_toNat_le, or_assoc]

theorem isAlpha_upper (b : UInt8) : isAlpha (upper b) = isAlpha b := by
  rw [Bool.eq_iff_iff, isAlpha_iff, isAlpha_iff, upper_toNat]
  split <;> omega

theorem isAlnum_upper (b : UInt8) : isAlnum (upper b) = isAlnum b := by
  rw [Bool.eq_iff_iff, isAlnum_iff, isAlnum_iff, isAlpha_upper, isAlpha_iff, upper_toNat]
  split <;> omega

@[simp] theorem upper_upper (b : UInt8) : upper (upper b) = upper b := by
  have once := upper_toNat b
  rw [← UInt8.toNat_inj, upper_toNat]
  split at once <;> split <;> omega

/-- An upper case letter comes from the letter or from its lower case. -/
theorem upper_eq_iff {b c : UInt8} (capital : 65 ≤ c.toNat ∧ c.toNat ≤ 90) :
    upper b = c ↔ b = c ∨ b = c + 32 := by
  simp only [← UInt8.toNat_inj, upper_toNat, UInt8.toNat_add, UInt8.reduceToNat]
  split <;> omega

/-- What is no letter comes from itself alone. -/
theorem upper_eq_other {b c : UInt8} (other : isAlpha c = false) : upper b = c ↔ b = c := by
  rw [← Bool.not_eq_true, isAlpha_iff] at other
  simp only [← UInt8.toNat_inj, upper_toNat]
  split <;> omega

theorem mem_toUpper_other {s : Str} {c : UInt8} (other : isAlpha c = false) :
    c ∈ toUpper s ↔ c ∈ s := by
  simp only [toUpper_eq, List.mem_map, upper_eq_other other, exists_eq_right]

/-- The test for a capital letter, behind `ToUpper`. -/
theorem outside_upper (b : UInt8) : (upper b < 65 ∨ 90 < upper b) ↔ isAlpha b = false := by
  rw [← Bool.not_eq_true, isAlpha_iff, UInt8.lt_iff_toNat_lt, UInt8.lt_iff_toNat_lt, upper_toNat]
  simp only [UInt8.reduceToNat]
  split <;> omega

end SmartGroup
