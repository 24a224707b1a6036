import SmartGroup.Support.Machine

/-! Rules for computations that may fail: when they complete, and what holds then. -/
namespace Outcome

universe u v

variable {α β : Type u} {ε : Type v} {P P' : Prop} {Q : α → Prop} {R : β → Prop}

/-- The computation completes exactly under `P`, and then its result satisfies `Q`. -/
def Exactly (P : Prop) (Q : α → Prop) : Except ε α → Prop
  | .ok a => P ∧ Q a
  | .error _ => ¬P

theorem exactly_iff {t : Except ε α} : Exactly P Q t ↔ ((∃ a, t = .ok a) ↔ P) ∧ ∀ a, t = .ok a → Q a := by
  cases t <;> simp [Exactly]

theorem Exactly.congr {Q' : α → Prop} {t : Except ε α} (exact : Exactly P Q t) (same : P ↔ P')
    (weaker : ∀ a, Q a → Q' a) : Exactly P' Q' t := by
  cases t with
  | error f => exact fun held => exact (same.mpr held)
  | ok a => exact ⟨same.mp exact.1, weaker a exact.2⟩

/-- What is told of a result may use that it is the computation's. -/
theorem Exactly.self {t : Except ε α} (exact : Exactly P Q t) : Exactly P (fun a => t = .ok a) t := by
  cases t with
  | error f => exact exact
  | ok a => exact ⟨exact.1, rfl⟩

theorem exactly_ok {a : α} (holds : Q a) : Exactly (ε := ε) True Q (.ok a) := ⟨trivial, holds⟩

/-- The second condition is told where the first computation has completed. -/
theorem Exactly.bind {t : Except ε α} {f : α → Except ε β} (first : Exactly P Q t)
    (rest : ∀ a, P → Q a → Exactly P' R (f a)) : Exactly (P ∧ P') R (t >>= f) := by
  cases t with
  | error fault => exact fun both => first both.1
  | ok a => exact (rest a first.1 first.2).congr (and_iff_right first.1).symm fun _ holds => holds

/-- A rest that always completes. -/
theorem Exactly.bind_ok {t : Except ε α} {f : α → Except ε β} (first : Exactly P Q t)
    (rest : ∀ a, Q a → Exactly True R (f a)) : Exactly P R (t >>= f) :=
  (first.bind fun a _ holds => rest a holds).congr (and_iff_left trivial) fun _ holds => holds

end Outcome

namespace Machine
open Outcome

variable {σ ε ω φ : Type*}

/-- Where a step completes exactly under the condition and keeps the invariant, a run
completes exactly when each of its events meets the condition in the state that it finds. -/
theorem exec_completes_iff {step : Step σ ε ω φ} {C : σ → ε → Prop} {I : σ → Prop}
    (spec : ∀ s e, I s → Exactly (C s e) (fun r => I r.1) (step s e)) {s : σ} (init : I s) (es : List ε) :
    (∃ tr t, exec step s es = .ok (tr, t)) ↔
      ∀ before e after, es = before ++ e :: after → ∀ tr t, exec step s before = .ok (tr, t) → C t e := by
  induction es generalizing s with
  | nil => simp [exec]
  | cons e es ih =>
      obtain ⟨completes, keeps⟩ := exactly_iff.mp (spec s e init)
      constructor
      · rintro ⟨tr, t, ran⟩ before e' after split
        obtain ⟨s', o, rest, first, later, -⟩ := exec_cons ran
        have inv : I s' := keeps (s', o) first
        cases before with
        | nil =>
            cases split
            intro tr t none
            cases none
            exact completes.mp ⟨(s', o), first⟩
        | cons _ before =>
            cases split
            intro tr t ran
            obtain ⟨s₁, o₁, rest₁, first₁, later₁, -⟩ := exec_cons ran
            rw [first] at first₁
            cases first₁
            exact (ih inv).mp ⟨rest, _, later⟩ before e' after rfl rest₁ t later₁
      · intro met
        have now : C s e := met [] e es rfl [] s rfl
        obtain ⟨⟨s', o⟩, first⟩ := completes.mpr now
        have inv : I s' := keeps (s', o) first
        obtain ⟨tr, t, rest⟩ := (ih inv).mpr (by
          rintro before e' after rfl tr t ran
          have longer : exec step s (e :: before) = .ok (⟨s, e, o, s'⟩ :: tr, t) := by
            simp [exec, first, ran]
          exact met (e :: before) e' after rfl _ t longer)
        exact ⟨⟨s, e, o, s'⟩ :: tr, t, by simp [exec, first, rest]⟩

end Machine
