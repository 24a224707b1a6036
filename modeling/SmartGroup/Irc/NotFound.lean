import SmartGroup.Irc.App

/-! The key of an answer that a user was not found. -/
namespace SmartGroup
open Bytes

/-- The key that the tokens of such an answer carry: it comes first, or behind the number
of table 0; empty where there is none. -/
def notFoundKey : List Str → Str
  | tk :: key :: _ =>
      if dbPattern tk then tk else if tablePattern tk = some 0 ∧ dbPattern key then key else []
  | [tk] => if dbPattern tk then tk else []
  | [] => []

/-- Behind the number of table 0 stands a key, or a character and a key. -/
def KeyBehindTable : List Str → Prop
  | tk :: key :: _ => tablePattern tk = some 0 ∧ (dbPattern key ∨ dbPattern (key.drop 1))
  | _ => False

instance (tkz : List Str) : Decidable (KeyBehindTable tkz) :=
  match tkz with
  | _ :: _ :: _ => inferInstanceAs (Decidable (_ ∧ (_ ∨ _)))
  | [_] => isFalse id
  | [] => isFalse id

theorem dbPattern_ne_nil {s : Str} (form : dbPattern s) : s ≠ [] := by
  rintro rfl
  cases form

/-- The number of a table is no key. -/
theorem not_dbPattern_of_table {tk : Str} {n : Nat} (table : tablePattern tk = some n) : ¬dbPattern tk := by
  intro form
  unfold tablePattern at table
  split at table
  · cases form
  · cases table

/-- A key is not one any more without its first character. -/
theorem not_dbPattern_drop {key : Str} (form : dbPattern key) : ¬dbPattern (key.drop 1) := by
  simp only [dbPattern, Bool.and_eq_true, beq_iff_eq, List.length_drop] at form ⊢
  omega

/-- Behind table 0 the key is read without its first character. -/
theorem shortened_key_iff {key : Str} :
    (if dbPattern (key.drop 1) then key.drop 1 else []) = (if dbPattern key then key else []) ↔
      ¬(dbPattern key ∨ dbPattern (key.drop 1)) := by
  by_cases whole : dbPattern key
  · rw [if_pos whole, if_neg (not_dbPattern_drop whole)]
    exact iff_of_false (dbPattern_ne_nil whole).symm (not_not_intro (.inl whole))
  · rw [if_neg whole]
    by_cases short : dbPattern (key.drop 1)
    · rw [if_pos short]
      exact iff_of_false (dbPattern_ne_nil short) (not_not_intro (.inr short))
    · rw [if_neg short]
      exact iff_of_true rfl (not_or.mpr ⟨whole, short⟩)

namespace IRCDDBApp

theorem doNotFound_iff (msg : Str) :
    doNotFound msg = notFoundKey (stringTokenizer msg) ↔ ¬KeyBehindTable (stringTokenizer msg) := by
  unfold doNotFound
  generalize stringTokenizer msg = tkz
  match tkz with
  | [] => exact iff_of_true rfl id
  | tk :: tkz =>
      cases table : tablePattern tk with
      | none =>
          cases tkz <;> simp [notFoundKey, KeyBehindTable, table]
      | some tableID =>
          have other : dbPattern tk = false := Bool.eq_false_of_not_eq_true (not_dbPattern_of_table table)
          cases tkz with
          | nil => simp [notFoundKey, KeyBehindTable, table, other]
          | cons key rest =>
              by_cases zero : tableID = 0
              · have known : (0 : Nat) < numberOfTables := by decide
                subst zero
                simp only [notFoundKey, KeyBehindTable, table, other, known, if_true, true_and]
                exact shortened_key_iff
              · simp [notFoundKey, KeyBehindTable, table, other, zero]

/-- With the number of table 0 in front the key is not found. -/
theorem doNotFound_drops_key :
    doNotFound (str "AB1CDE__") = str "AB1CDE__" ∧ doNotFound (str "0 AB1CDE__") = [] ∧
      notFoundKey (stringTokenizer (str "0 AB1CDE__")) = str "AB1CDE__" := by decide +kernel

end IRCDDBApp
end SmartGroup
