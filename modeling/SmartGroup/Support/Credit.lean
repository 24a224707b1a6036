import Mathlib.Algebra.Ring.Nat
import SmartGroup.Support.Machine

/-! How long a machine can wait. Every state has a credit; a step is paid for from it, and
some steps gain credit. A run without gains is no longer than its first state's credit. -/
namespace Machine

variable {σ ε ω φ : Type*}

/-- What the entries of a run come to. -/
def total (f : Entry σ ε ω → Nat) (tr : List (Entry σ ε ω)) : Nat := (tr.map f).sum

@[simp] theorem total_nil (f : Entry σ ε ω → Nat) : total f [] = 0 := rfl

@[simp] theorem total_snoc (f : Entry σ ε ω → Nat) (tr : List (Entry σ ε ω)) (x : Entry σ ε ω) :
    total f (tr ++ [x]) = total f tr + f x := by
  simp [total]

theorem total_mul (k : Nat) (f : Entry σ ε ω → Nat) (tr : List (Entry σ ε ω)) :
    total (fun x => k * f x) tr = k * total f tr := by
  induction tr using List.reverseRecOn with
  | nil => rfl
  | append_singleton tr x ih => rw [total_snoc, total_snoc, ih, Nat.mul_add]

/-- A run whose entries fall into two parts is a run through a state between them. -/
theorem Run.divide {step : Step σ ε ω φ} {start s : σ} {before after : List (Entry σ ε ω)}
    (run : Run step start (before ++ after) s) : ∃ t, Run step start before t ∧ Run step t after s := by
  generalize whole : before ++ after = tr at run
  induction run generalizing after with
  | nil =>
      obtain ⟨rfl, rfl⟩ := List.append_eq_nil_iff.mp whole
      exact ⟨start, .nil, .nil⟩
  | @snoc tr s e s' o earlier last ih =>
      rcases List.eq_nil_or_concat after with rfl | ⟨rest, y, rfl⟩
      · rw [List.append_nil] at whole
        subst whole
        exact ⟨s', earlier.snoc last, .nil⟩
      · rw [List.concat_eq_append] at whole ⊢
        rw [← List.append_assoc] at whole
        obtain ⟨split, same⟩ := List.append_inj' whole rfl
        obtain rfl := List.singleton_inj.mp same
        obtain ⟨t, first, second⟩ := ih split
        exact ⟨t, first, second.snoc last⟩

/-- A run ends after its last entry. -/
theorem Run.last {step : Step σ ε ω φ} {start s : σ} {tr : List (Entry σ ε ω)} {x : Entry σ ε ω}
    (run : Run step start (tr ++ [x]) s) : s = x.post := by
  generalize whole : tr ++ [x] = tr' at run
  cases run with
  | nil => simp at whole
  | snoc earlier last =>
      obtain ⟨-, same⟩ := List.append_inj' whole rfl
      exact (congrArg Entry.post (List.singleton_inj.mp same)).symm

/-- The credit rule: where a step that meets `Q` keeps the invariant and is paid for, what the
steps of a run cost comes out of the credit of its first state and out of what they gain. -/
theorem Run.credit {step : Step σ ε ω φ} {start s : σ} {tr : List (Entry σ ε ω)} (run : Run step start tr s)
    (I : σ → Prop) (Q : Entry σ ε ω → Prop) (credit : σ → Nat) (cost gain : Entry σ ε ω → Nat)
    (init : I start)
    (pays : ∀ {s e s' o}, I s → step s e = .ok (s', o) → Q ⟨s, e, o, s'⟩ →
      I s' ∧ cost ⟨s, e, o, s'⟩ + credit s' ≤ credit s + gain ⟨s, e, o, s'⟩)
    (all : ∀ x ∈ tr, Q x) : I s ∧ total cost tr + credit s ≤ credit start + total gain tr := by
  induction run with
  | nil => exact ⟨init, by simp⟩
  | @snoc tr s e s' o before last ih =>
      obtain ⟨inv, paid⟩ := ih fun x member => all x (List.mem_append_left _ member)
      obtain ⟨inv', now⟩ := pays inv last (all _ (by simp))
      refine ⟨inv', ?_⟩
      rw [total_snoc, total_snoc]
      omega

/-- The invariant rule for steps that are told from what they put out. -/
theorem Run.keeps {step : Step σ ε ω φ} {start s : σ} {tr : List (Entry σ ε ω)} (run : Run step start tr s)
    (I : σ → Prop) (Q : Entry σ ε ω → Prop) (init : I start)
    (keep : ∀ {s e s' o}, I s → step s e = .ok (s', o) → Q ⟨s, e, o, s'⟩ → I s')
    (all : ∀ x ∈ tr, Q x) : I s :=
  (run.credit I Q (fun _ => 0) (fun _ => 0) (fun _ => 0) init
    (fun holds taken met => ⟨keep holds taken met, Nat.le_refl 0⟩) all).1

end Machine
