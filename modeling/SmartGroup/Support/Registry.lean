import Mathlib.Data.List.Basic
import Mathlib.Data.List.Nodup

/-! Lists of objects, each under a reference that is not given out again, and loops
over them that carry a state, emit outputs and may drop the object they stand at. -/

structure Registry (α : Type*) where
  next : Nat
  entries : List (Nat × α)
  older : ∀ e ∈ entries, e.1 < next
  distinct : (entries.map Prod.fst).Nodup

namespace Registry

variable {σ α ω : Type*}

def empty : Registry α := ⟨0, [], by simp, by simp⟩

/-- A new object goes to the end of the list, under the reference `t.next`. -/
def add (t : Registry α) (a : α) : Registry α where
  next := t.next + 1
  entries := t.entries ++ [(t.next, a)]
  older := by
    intro e member
    rcases List.mem_append.mp member with old | new
    · exact Nat.lt_succ_of_lt (t.older e old)
    · rw [List.mem_singleton.mp new]
      exact Nat.lt_succ_self t.next
  distinct := by
    rw [List.map_append, List.nodup_append]
    refine ⟨t.distinct, by simp, ?_⟩
    intro r old r' new same
    obtain ⟨e, member, rfl⟩ := List.mem_map.mp old
    simp only [List.map_cons, List.map_nil, List.mem_singleton] at new
    exact Nat.ne_of_lt (t.older e member) (same.trans new)

/-- An older reference still leads to what it led to. -/
theorem mem_of_mem_add {t : Registry α} {a b : α} {r : Nat} (old : r < t.next)
    (member : (r, b) ∈ (t.add a).entries) : (r, b) ∈ t.entries := by
  rcases List.mem_append.mp member with there | new
  · exact there
  · cases List.mem_singleton.mp new
    exact absurd old (Nat.lt_irrefl _)

/-- A reference leads to one object. -/
theorem unique (t : Registry α) {r : Nat} {a b : α} (first : (r, a) ∈ t.entries)
    (second : (r, b) ∈ t.entries) : a = b := by
  have same := List.inj_on_of_nodup_map t.distinct first second rfl
  exact (Prod.mk.inj same).2

/-- What only one object adds to is what that object adds. -/
theorem flatMap_of_mem {β : Type*} (t : Registry α) {g : Nat × α → List β} {e : Nat × α}
    (member : e ∈ t.entries) (others : ∀ x ∈ t.entries, x.1 ≠ e.1 → g x = []) :
    t.entries.flatMap g = g e := by
  have distinct := t.distinct
  obtain ⟨before, after, split⟩ := List.append_of_mem member
  rw [split] at distinct others ⊢
  simp only [List.map_append, List.map_cons, List.nodup_append, List.nodup_cons, List.mem_map,
    List.mem_cons] at distinct
  obtain ⟨-, ⟨fresh, -⟩, apart⟩ := distinct
  have earlier : before.flatMap g = [] := by
    apply List.flatMap_eq_nil_iff.mpr
    intro x there
    apply others x (List.mem_append_left _ there)
    exact apart x.1 ⟨x, there, rfl⟩ e.1 (.inl rfl)
  have later : after.flatMap g = [] := by
    apply List.flatMap_eq_nil_iff.mpr
    intro x there
    apply others x (List.mem_append_right _ (List.mem_cons_of_mem e there))
    intro same
    exact fresh ⟨x, there, same⟩
  rw [List.flatMap_append, List.flatMap_cons, earlier, later, List.nil_append, List.append_nil]

/-- The turn at an object gives its new value, or `none` where it is dropped. -/
def loop (f : σ → Nat → α → σ × Option α × List ω) :
    σ → List (Nat × α) → σ × List (Nat × α) × List (Nat × ω)
  | s, [] => (s, [], [])
  | s, e :: l =>
      let turn := f s e.1 e.2
      let rest := loop f turn.1 l
      (rest.1, (turn.2.1.map (e.1, ·)).toList ++ rest.2.1, turn.2.2.map (e.1, ·) ++ rest.2.2)

theorem loop_keys (f : σ → Nat → α → σ × Option α × List ω) (s : σ) (l : List (Nat × α)) :
    ((loop f s l).2.1.map Prod.fst).Sublist (l.map Prod.fst) := by
  induction l generalizing s with
  | nil => exact List.Sublist.refl []
  | cons e l ih =>
      have rest := ih (f s e.1 e.2).1
      cases kept : (f s e.1 e.2).2.1 with
      | none => simpa [loop, kept] using rest.cons e.1
      | some a => simpa [loop, kept] using rest.cons_cons e.1

/-- The loop over all objects. -/
def sweep (f : σ → Nat → α → σ × Option α × List ω) (s : σ) (t : Registry α) :
    σ × Registry α × List (Nat × ω) :=
  let swept := loop f s t.entries
  (swept.1,
    { next := t.next
      entries := swept.2.1
      older := by
        intro e member
        have key := (loop_keys f s t.entries).subset (List.mem_map_of_mem member)
        obtain ⟨e', old, same⟩ := List.mem_map.mp key
        rw [← same]
        exact t.older e' old
      distinct := (loop_keys f s t.entries).nodup t.distinct },
    swept.2.2)

/-- Where the turn at an object does not look at the state, the objects left do not either. -/
theorem loop_entries {f : σ → Nat → α → σ × Option α × List ω} {u : Nat → α → Option α}
    (own : ∀ s r a, (f s r a).2.1 = u r a) (s : σ) (l : List (Nat × α)) :
    (loop f s l).2.1 = l.flatMap fun e => ((u e.1 e.2).map (e.1, ·)).toList := by
  induction l generalizing s with
  | nil => rfl
  | cons e l ih =>
      simp only [loop, own, ih, List.flatMap_cons]

section Rules

variable {f : σ → Nat → α → σ × Option α × List ω}

/-- The invariant rule: a property of the state and of the whole list, kept by a
turn that changes one place of the list. -/
theorem loop_invariant (done : List (Nat × α)) {I : σ → List (Nat × α) → Prop} {l : List (Nat × α)}
    (turn : ∀ s before after, ∀ e ∈ l, I s (before ++ e :: after) →
      I (f s e.1 e.2).1 (before ++ ((f s e.1 e.2).2.1.map (e.1, ·)).toList ++ after))
    {s : σ} (init : I s (done ++ l)) :
    I (loop f s l).1 (done ++ (loop f s l).2.1) := by
  induction l generalizing s done with
  | nil => exact init
  | cons e l ih =>
      have first := turn s done l e List.mem_cons_self init
      have rest := ih _ (fun s before after x member =>
        turn s before after x (List.mem_cons_of_mem e member)) first
      simpa only [loop, List.append_assoc] using rest

variable {J : σ → Prop} {l : List (Nat × α)}

/-- The state rule: what every turn keeps holds after the loop. -/
theorem loop_state (keep : ∀ s, ∀ e ∈ l, J s → J (f s e.1 e.2).1) {s : σ} (init : J s) :
    J (loop f s l).1 := by
  induction l generalizing s with
  | nil => exact init
  | cons e l ih =>
      have first := keep s e List.mem_cons_self init
      exact ih (fun s x member => keep s x (List.mem_cons_of_mem e member)) first

/-- An object left after the loop is the result of the turn at it. -/
theorem of_mem_loop (keep : ∀ s, ∀ e ∈ l, J s → J (f s e.1 e.2).1) {s : σ} (init : J s) {r : Nat}
    {b : α} (left : (r, b) ∈ (loop f s l).2.1) :
    ∃ s₁ a, J s₁ ∧ (r, a) ∈ l ∧ (f s₁ r a).2.1 = some b := by
  induction l generalizing s with
  | nil => cases left
  | cons e l ih =>
      rcases List.mem_append.mp left with here | later
      · obtain ⟨b', kept, same⟩ : ∃ b', (f s e.1 e.2).2.1 = some b' ∧ (e.1, b') = (r, b) := by
          simpa using here
        cases same
        exact ⟨s, e.2, init, List.mem_cons_self, kept⟩
      · obtain ⟨s₁, a, holds, member, kept⟩ :=
          ih (fun s x member => keep s x (List.mem_cons_of_mem e member))
            (keep s e List.mem_cons_self init) later
        exact ⟨s₁, a, holds, List.mem_cons_of_mem e member, kept⟩

/-- The turn that left an object, with all that it put out. -/
theorem of_mem_loop_told {s : σ} {r : Nat} {b : α} (left : (r, b) ∈ (loop f s l).2.1) :
    ∃ s₁ a, (r, a) ∈ l ∧ (f s₁ r a).2.1 = some b ∧ ∀ o ∈ (f s₁ r a).2.2, (r, o) ∈ (loop f s l).2.2 := by
  induction l generalizing s with
  | nil => cases left
  | cons e l ih =>
      rcases List.mem_append.mp left with here | later
      · obtain ⟨b', kept, same⟩ : ∃ b', (f s e.1 e.2).2.1 = some b' ∧ (e.1, b') = (r, b) := by
          simpa using here
        cases same
        exact ⟨s, e.2, List.mem_cons_self, kept,
          fun o told => List.mem_append_left _ (List.mem_map_of_mem told)⟩
      · obtain ⟨s₁, a, member, kept, told⟩ := ih later
        exact ⟨s₁, a, List.mem_cons_of_mem e member, kept, fun o out => List.mem_append_right _ (told o out)⟩

/-- An output of the loop comes from the turn at the object that it names. -/
theorem of_mem_loop_outs (keep : ∀ s, ∀ e ∈ l, J s → J (f s e.1 e.2).1) {s : σ} (init : J s) {r : Nat}
    {o : ω} (out : (r, o) ∈ (loop f s l).2.2) :
    ∃ s₁ a, J s₁ ∧ (r, a) ∈ l ∧ o ∈ (f s₁ r a).2.2 := by
  induction l generalizing s with
  | nil => cases out
  | cons e l ih =>
      rcases List.mem_append.mp out with here | later
      · obtain ⟨o', emitted, same⟩ := List.mem_map.mp here
        cases same
        exact ⟨s, e.2, init, List.mem_cons_self, emitted⟩
      · obtain ⟨s₁, a, holds, member, emitted⟩ :=
          ih (fun s x member => keep s x (List.mem_cons_of_mem e member))
            (keep s e List.mem_cons_self init) later
        exact ⟨s₁, a, holds, List.mem_cons_of_mem e member, emitted⟩

/-- Every object has its turn. -/
theorem mem_loop_of_mem (keep : ∀ s, ∀ e ∈ l, J s → J (f s e.1 e.2).1) {s : σ} (init : J s) {r : Nat}
    {a : α} (member : (r, a) ∈ l) :
    ∃ s₁, J s₁ ∧ ∀ b, (f s₁ r a).2.1 = some b → (r, b) ∈ (loop f s l).2.1 := by
  induction l generalizing s with
  | nil => cases member
  | cons e l ih =>
      rcases List.mem_cons.mp member with rfl | later
      · refine ⟨s, init, ?_⟩
        intro b kept
        exact List.mem_append_left _ (by simp [kept])
      · obtain ⟨s₁, holds, left⟩ :=
          ih (fun s x member => keep s x (List.mem_cons_of_mem e member))
            (keep s e List.mem_cons_self init) later
        exact ⟨s₁, holds, fun b kept => List.mem_append_right _ (left b kept)⟩

end Rules

end Registry
