import Mathlib.Data.List.Induction

/-! Lists of events told from what stands before each of them. -/
namespace Trace

variable {α : Type*}

/-- An entry of a longer list is the last one or stands in the shorter list. -/
theorem snoc_split {l before after : List α} {x y : α} :
    l ++ [y] = before ++ x :: after ↔
      (l = before ∧ y = x ∧ after = []) ∨ ∃ rest, after = rest ++ [y] ∧ l = before ++ x :: rest := by
  constructor
  · intro split
    rcases List.eq_nil_or_concat after with rfl | ⟨rest, z, rfl⟩
    · obtain ⟨rfl, same⟩ := List.append_inj' split rfl
      exact .inl ⟨rfl, List.singleton_inj.mp same, rfl⟩
    · have split : l ++ [y] = (before ++ x :: rest) ++ [z] := by simpa using split
      obtain ⟨rfl, same⟩ := List.append_inj' split rfl
      obtain rfl := List.singleton_inj.mp same
      exact .inr ⟨rest, by simp, rfl⟩
  · rintro (⟨rfl, rfl, rfl⟩ | ⟨rest, rfl, rfl⟩) <;> simp

/-- Every entry meets the condition, told together with the entries before it. -/
def Each (Q : List α → α → Prop) (l : List α) : Prop :=
  ∀ before x after, l = before ++ x :: after → Q before x

/-- Some entry meets the condition. -/
def Occurs (Q : List α → α → Prop) (l : List α) : Prop :=
  ∃ before x after, l = before ++ x :: after ∧ Q before x

variable {Q : List α → α → Prop} {l : List α}

@[simp] theorem each_nil : Each Q [] := by
  intro before x after split
  simp at split

theorem each_snoc {y : α} : Each Q (l ++ [y]) ↔ Each Q l ∧ Q l y := by
  constructor
  · intro all
    exact ⟨fun before x after split => all before x (after ++ [y]) (by simp [split]), all l y [] rfl⟩
  · rintro ⟨earlier, newest⟩ before x after split
    rcases snoc_split.mp split with ⟨rfl, rfl, -⟩ | ⟨rest, -, split⟩
    · exact newest
    · exact earlier before x rest split

theorem Each.mono {Q' : List α → α → Prop} (all : Each Q l) (weaker : ∀ before x, Q before x → Q' before x) :
    Each Q' l := by
  intro before x after split
  exact weaker before x (all before x after split)

/-- Entries that the condition says nothing about. -/
theorem Each.append {more : List α} (all : Each Q l) (free : ∀ y ∈ more, ∀ before, Q before y) :
    Each Q (l ++ more) := by
  induction more using List.reverseRecOn with
  | nil => simpa using all
  | append_singleton more y ih =>
      rw [← List.append_assoc, each_snoc]
      refine ⟨ih fun z member => free z (List.mem_append_left [y] member), ?_⟩
      exact free y (by simp) (l ++ more)

theorem Occurs.append (some : Occurs Q l) (more : List α) : Occurs Q (l ++ more) := by
  obtain ⟨before, x, after, rfl, holds⟩ := some
  exact ⟨before, x, after ++ more, by simp, holds⟩

theorem Occurs.snoc {y : α} (holds : Q l y) : Occurs Q (l ++ [y]) := ⟨l, y, [], rfl, holds⟩

end Trace
