import Mathlib.Data.List.Induction

/-! The last answer that a list of events gives, for tables that are told from the
events that wrote them. -/
namespace Last

variable {α β : Type*}

/-- The answer of the last event that has one. -/
def lastOf (f : α → Option β) (l : List α) : Option β := l.reverse.findSome? f

@[simp] theorem lastOf_nil (f : α → Option β) : lastOf f [] = none := rfl

theorem lastOf_snoc (f : α → Option β) (l : List α) (a : α) :
    lastOf f (l ++ [a]) = (f a).or (lastOf f l) := by
  cases answer : f a <;> simp [lastOf, answer]

theorem lastOf_snoc_some {f : α → Option β} {l : List α} {a : α} {b : β} (answer : f a = some b) :
    lastOf f (l ++ [a]) = some b := by
  rw [lastOf_snoc, answer, Option.some_or]

theorem lastOf_snoc_none {f : α → Option β} {l : List α} {a : α} (silent : f a = none) :
    lastOf f (l ++ [a]) = lastOf f l := by
  rw [lastOf_snoc, silent, Option.none_or]

theorem lastOf_eq_none_iff {f : α → Option β} {l : List α} :
    lastOf f l = none ↔ ∀ a ∈ l, f a = none := by
  simp [lastOf]

/-- The last answer is one of the answers. -/
theorem exists_of_lastOf {f : α → Option β} {l : List α} {b : β} (h : lastOf f l = some b) :
    ∃ a ∈ l, f a = some b := by
  obtain ⟨a, member, answer⟩ := List.exists_of_findSome?_eq_some h
  exact ⟨a, List.mem_reverse.mp member, answer⟩

theorem lastOf_filterMap {γ : Type*} (f : β → Option γ) (g : α → Option β) (l : List α) :
    lastOf f (l.filterMap g) = lastOf (fun a => (g a).bind f) l := by
  induction l using List.reverseRecOn with
  | nil => rfl
  | append_singleton l a ih =>
      rw [List.filterMap_append, lastOf_snoc]
      cases gives : g a with
      | none => simpa [gives] using ih
      | some b => simp [gives, lastOf_snoc, ih]

/-- The last answer answers for what is told from it. -/
theorem lastOf_bind {γ : Type*} {f : α → Option β} {h : β → Option γ} {l : List α} {b : β} {c : γ}
    (last : lastOf f l = some b) (answer : h b = some c) :
    lastOf (fun a => (f a).bind h) l = some c := by
  induction l using List.reverseRecOn with
  | nil => cases last
  | append_singleton l a ih =>
      cases gives : f a with
      | none =>
          rw [lastOf_snoc_none gives] at last
          rw [lastOf_snoc_none (by rw [gives, Option.bind_none]), ih last]
      | some b' =>
          rw [lastOf_snoc_some gives] at last
          cases last
          exact lastOf_snoc_some (by rw [gives, Option.bind_some, answer])

/-- The replay rule: a value that each event replaces by its answer, or leaves where it
has none, ends as the last answer, or as it began. -/
theorem replay {σ : Type*} (step : σ → α → σ) (view : σ → Option β) (f : α → Option β)
    (I : σ → Prop) {l : List α} (keep : ∀ s, ∀ a ∈ l, I s → I (step s a))
    (turn : ∀ s, ∀ a ∈ l, I s → view (step s a) = (f a).or (view s)) {s : σ} (init : I s) :
    I (l.foldl step s) ∧ view (l.foldl step s) = (lastOf f l).or (view s) := by
  induction l using List.reverseRecOn with
  | nil => exact ⟨init, rfl⟩
  | append_singleton l a ih =>
      have earlier (b : α) (member : b ∈ l) : b ∈ l ++ [a] := List.mem_append_left [a] member
      have newest : a ∈ l ++ [a] := List.mem_append_right l List.mem_cons_self
      obtain ⟨inv, sofar⟩ := ih (fun s b member => keep s b (earlier b member))
        (fun s b member => turn s b (earlier b member))
      simp only [List.foldl_append, List.foldl_cons, List.foldl_nil]
      refine ⟨keep _ a newest inv, ?_⟩
      rw [turn _ a newest inv, sofar, lastOf_snoc, Option.or_assoc]

end Last
