import Mathlib.Data.List.Basic

/-! Machines that go through an input entry by entry and may fail at each. -/
namespace Scan

variable {σ α ε : Type*} {f : σ → α → Except ε σ} {s t u : σ} {input rest : List α}

/-- The machine goes through the whole input and comes to `t`. -/
def Reaches (f : σ → α → Except ε σ) (s : σ) (input : List α) (t : σ) : Prop :=
  input.foldlM f s = .ok t

theorem Reaches.nil : Reaches f s [] s := rfl

theorem Reaches.cons {a : α} (first : f s a = .ok t) (more : Reaches f t rest u) :
    Reaches f s (a :: rest) u := by
  rw [Reaches, List.foldlM_cons, first]
  exact more

theorem Reaches.append (front : Reaches f s input t) (more : Reaches f t rest u) :
    Reaches f s (input ++ rest) u := by
  rw [Reaches, List.foldlM_append, front]
  exact more

/-- It does not matter how the input is cut into chunks. -/
theorem foldlM_chunks (chunks : List (List α)) (s : σ) :
    (chunks.foldlM (fun s chunk => chunk.foldlM f s) s) = chunks.flatten.foldlM f s := by
  induction chunks generalizing s with
  | nil => rfl
  | cons chunk chunks ih =>
      rw [List.foldlM_cons, List.flatten_cons, List.foldlM_append]
      congr 1
      funext t
      exact ih t

/-- A machine that has collected the part of a text that it has seen comes, with the text,
to where it has collected all of it. -/
theorem Reaches.collect (held : List α → σ) {text : List α}
    (step : ∀ done a left, text = done ++ a :: left → f (held done) a = .ok (held (done ++ [a]))) :
    Reaches f (held []) text (held text) := by
  suffices onward : ∀ left done, text = done ++ left → Reaches f (held done) left (held text) from
    onward text [] rfl
  intro left
  induction left with
  | nil =>
      intro done split
      rw [List.append_nil] at split
      subst split
      exact .nil
  | cons a left ih =>
      intro done split
      apply Reaches.cons (step done a left split)
      exact ih (done ++ [a]) (by simp [split])

/-- The invariant rule: a machine whose invariant rules failures out, entry by entry, goes
through every input. -/
theorem reaches_invariant {I : σ → Prop} (keep : ∀ s a, I s → ∃ t, f s a = .ok t ∧ I t)
    (input : List α) (init : I s) : ∃ t, Reaches f s input t ∧ I t := by
  induction input generalizing s with
  | nil => exact ⟨s, .nil, init⟩
  | cons a rest ih =>
      obtain ⟨t, first, inv⟩ := keep s a init
      obtain ⟨u, more, inv⟩ := ih inv
      exact ⟨u, .cons first more, inv⟩

/-- A machine that fails at certain entries, whatever its state, goes through the inputs
without them. -/
theorem reaches_iff {Q : α → Prop} (turn : ∀ s a, (∃ t, f s a = .ok t) ↔ Q a) {input : List α} {s : σ} :
    (∃ t, Reaches f s input t) ↔ ∀ a ∈ input, Q a := by
  induction input generalizing s with
  | nil => exact iff_of_true ⟨s, .nil⟩ (by simp)
  | cons a rest ih =>
      rw [List.forall_mem_cons, ← turn s a]
      cases first : f s a with
      | error e =>
          refine iff_of_false ?_ ?_
          · rintro ⟨t, whole⟩
            rw [Reaches, List.foldlM_cons, first] at whole
            cases whole
          · rintro ⟨⟨t, same⟩, -⟩
            cases same
      | ok t =>
          rw [← ih (s := t), and_iff_right ⟨t, rfl⟩]
          simp only [Reaches, List.foldlM_cons, first]
          rfl

end Scan
