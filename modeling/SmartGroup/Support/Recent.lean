import SmartGroup.Support.Credit

/-! What has happened lately in a run, where every entry takes its time. -/
namespace Machine

variable {σ ε ω : Type*}

/-- An entry of the kind has been met, and those after it take `k` at most. -/
def Recent (Mark : Entry σ ε ω → Prop) (time : Entry σ ε ω → Nat) (k : Nat) (tr : List (Entry σ ε ω)) : Prop :=
  ∃ before x after, tr = before ++ x :: after ∧ Mark x ∧ total time after ≤ k

section
variable {Mark : Entry σ ε ω → Prop} {time : Entry σ ε ω → Nat} {k k' : Nat} {tr : List (Entry σ ε ω)}
  {x : Entry σ ε ω}

theorem Recent.now (mark : Mark x) : Recent Mark time k (tr ++ [x]) :=
  ⟨tr, x, [], rfl, mark, Nat.zero_le k⟩

theorem Recent.later (recent : Recent Mark time k tr) (passed : k + time x ≤ k') :
    Recent Mark time k' (tr ++ [x]) := by
  obtain ⟨before, y, after, rfl, mark, bound⟩ := recent
  refine ⟨before, y, after ++ [x], by simp, mark, ?_⟩
  rw [total_snoc]
  exact Nat.le_trans (Nat.add_le_add_right bound _) passed

theorem Recent.mono (recent : Recent Mark time k tr) (weaker : k ≤ k') : Recent Mark time k' tr := by
  obtain ⟨before, y, after, split, mark, bound⟩ := recent
  exact ⟨before, y, after, split, mark, Nat.le_trans bound weaker⟩

end

end Machine
