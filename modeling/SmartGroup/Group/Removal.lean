import SmartGroup.Group.Effects

/-! A loop over the users that removes some of them and reports each one removed. -/
namespace SmartGroup
open Bytes

/-- After the entries gone through, those that meet `P` are removed and reported. -/
structure Removed (t : Users) (P : Str × Nat → Prop) (done : List (Str × Nat)) (outs : List Output)
    (t' : Users) : Prop where
  find : ∀ c r, t'.find c = some r ↔ t.find c = some r ∧ ¬((c, r) ∈ done ∧ P (c, r))
  silent : ∀ o ∈ outs, o.relayed = none
  lost : ∀ c, (∃ o ∈ outs, o.lost = some c) ↔ ∃ r, (c, r) ∈ done ∧ P (c, r)

namespace Removed
variable {t t' t'' : Users} {P : Str × Nat → Prop} {done : List (Str × Nat)}
  {outs more : List Output}

theorem start (t : Users) (P : Str × Nat → Prop) : Removed t P [] [] t :=
  ⟨by simp, by simp, by simp⟩

theorem mem_snoc_iff {entry : Str × Nat} (stays : ¬P entry) (e : Str × Nat) :
    e ∈ done ++ [entry] ∧ P e ↔ e ∈ done ∧ P e := by
  simp only [List.mem_append, List.mem_singleton]
  constructor
  · rintro ⟨earlier | rfl, gone⟩
    · exact ⟨earlier, gone⟩
    · exact absurd gone stays
  · exact fun sofar => ⟨.inl sofar.1, sofar.2⟩

/-- A turn at an entry that stays. -/
theorem pass {entry : Str × Nat} (sofar : Removed t P done outs t') (stays : ¬P entry)
    (find : ∀ c, t''.find c = t'.find c) (quiet : ∀ o ∈ more, o.relayed = none ∧ o.lost = none) :
    Removed t P (done ++ [entry]) (outs ++ more) t'' := by
  refine ⟨fun c r => ?_, fun o member => ?_, fun c => ?_⟩
  · rw [find, sofar.find, mem_snoc_iff stays]
  · rcases List.mem_append.mp member with earlier | now
    · exact sofar.silent o earlier
    · exact (quiet o now).1
  · simp only [mem_snoc_iff stays, ← sofar.lost]
    constructor
    · rintro ⟨o, member, reported⟩
      rcases List.mem_append.mp member with earlier | now
      · exact ⟨o, earlier, reported⟩
      · rw [(quiet o now).2] at reported
        cases reported
    · rintro ⟨o, earlier, reported⟩
      exact ⟨o, List.mem_append_left _ earlier, reported⟩

/-- A turn at an entry that is removed. -/
theorem remove {c : Str} {r : Nat} {o : Output} (sofar : Removed t P done outs t')
    (filed : t.find c = some r) (gone : P (c, r))
    (find : ∀ c', t''.find c' = if c = c' then none else t'.find c')
    (silent : o.relayed = none) (report : o.lost = some c) :
    Removed t P (done ++ [(c, r)]) (outs ++ [o]) t'' := by
  refine ⟨fun c' r' => ?_, fun o' member => ?_, fun c' => ?_⟩
  · rw [find]
    split
    · rename_i same
      subst same
      simp only [reduceCtorEq, false_iff, not_and]
      intro filed'
      have own : r = r' := Option.some.inj (filed.symm.trans filed')
      subst own
      exact fun stays => stays (by simp) gone
    · rename_i other
      rw [sofar.find]
      simp [Ne.symm other]
  · rcases List.mem_append.mp member with earlier | now
    · exact sofar.silent o' earlier
    · rw [List.mem_singleton.mp now]
      exact silent
  · constructor
    · rintro ⟨o', member, reported⟩
      rcases List.mem_append.mp member with earlier | now
      · obtain ⟨r', member', gone'⟩ := (sofar.lost c').mp ⟨o', earlier, reported⟩
        exact ⟨r', List.mem_append_left _ member', gone'⟩
      · rw [List.mem_singleton.mp now, report, Option.some.injEq] at reported
        subst reported
        exact ⟨r, by simp, gone⟩
    · rintro ⟨r', member', gone'⟩
      rcases List.mem_append.mp member' with earlier | now
      · obtain ⟨o', member, reported⟩ := (sofar.lost c').mpr ⟨r', earlier, gone'⟩
        exact ⟨o', List.mem_append_left _ member, reported⟩
      · obtain ⟨rfl, rfl⟩ := Prod.mk.inj (List.mem_singleton.mp now)
        exact ⟨o, by simp, report⟩

end Removed
end SmartGroup
