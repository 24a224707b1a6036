import Mathlib.Tactic.Linarith

/-! Loops over a list that carry a state, emit outputs and may fault, and loops
over the entries of an ordered map that touch only the entry they stand at. -/
namespace Sweep

variable {σ α ω φ : Type*}

/-- A loop whose turns cannot fault. -/
def forEach (f : σ → α → σ × List ω) : σ → List α → σ × List ω
  | s, [] => (s, [])
  | s, a :: l => ((forEach f (f s a).1 l).1, (f s a).2 ++ (forEach f (f s a).1 l).2)

/-- A loop that stops at the first turn that faults. -/
def tryEach (f : σ → α → Except φ (σ × List ω)) : σ → List α → Except φ (σ × List ω)
  | s, [] => .ok (s, [])
  | s, a :: l =>
      match f s a with
      | .error e => .error e
      | .ok (s₁, o₁) =>
          match tryEach f s₁ l with
          | .error e => .error e
          | .ok (s₂, o₂) => .ok (s₂, o₁ ++ o₂)

@[simp] theorem tryEach_nil (f : σ → α → Except φ (σ × List ω)) (s : σ) :
    tryEach f s [] = .ok (s, []) := rfl

theorem tryEach_cons {f : σ → α → Except φ (σ × List ω)} {s t : σ} {a : α} {l : List α} {o : List ω}
    (h : tryEach f s (a :: l) = .ok (t, o)) :
    ∃ s₁ o₁ o₂, f s a = .ok (s₁, o₁) ∧ tryEach f s₁ l = .ok (t, o₂) ∧ o = o₁ ++ o₂ := by
  simp only [tryEach] at h
  split at h
  · cases h
  · rename_i s₁ o₁ first
    split at h
    · cases h
    · rename_i s₂ o₂ rest
      simp only [Except.ok.injEq, Prod.mk.injEq] at h
      obtain ⟨rfl, rfl⟩ := h
      exact ⟨s₁, o₁, o₂, first, rest, rfl⟩

/-- The loop rule: a relation between the state before, the outputs and the state
after that holds of every turn and composes holds of the whole loop. -/
theorem forEach_rel {f : σ → α → σ × List ω} {S : σ → List ω → σ → Prop} {l : List α}
    (refl : ∀ s, S s [] s)
    (trans : ∀ {s o₁ t o₂ u}, S s o₁ t → S t o₂ u → S s (o₁ ++ o₂) u)
    (turn : ∀ s, ∀ a ∈ l, S s (f s a).2 (f s a).1) (s : σ) :
    S s (forEach f s l).2 (forEach f s l).1 := by
  induction l generalizing s with
  | nil => exact refl s
  | cons a l ih =>
      exact trans (turn s a List.mem_cons_self)
        (ih (fun s b member => turn s b (List.mem_cons_of_mem a member)) _)

/-- The loop rule for loops that may fault, with an invariant. -/
theorem tryEach_rel {f : σ → α → Except φ (σ × List ω)} {S : σ → List ω → σ → Prop} {l : List α}
    (refl : ∀ s, S s [] s)
    (trans : ∀ {s o₁ t o₂ u}, S s o₁ t → S t o₂ u → S s (o₁ ++ o₂) u)
    (turn : ∀ {s s' o}, ∀ a ∈ l, f s a = .ok (s', o) → S s o s') {s t : σ} {o : List ω}
    (h : tryEach f s l = .ok (t, o)) : S s o t := by
  induction l generalizing s o with
  | nil =>
      simp only [tryEach_nil, Except.ok.injEq, Prod.mk.injEq] at h
      obtain ⟨rfl, rfl⟩ := h
      exact refl s
  | cons a l ih =>
      obtain ⟨s₁, o₁, o₂, first, rest, rfl⟩ := tryEach_cons h
      exact trans (turn a List.mem_cons_self first)
        (ih (fun b member => turn b (List.mem_cons_of_mem a member)) rest)

/-- The invariant rule for loops that may fault. -/
theorem tryEach_invariant {f : σ → α → Except φ (σ × List ω)} {I : σ → Prop} {l : List α}
    (keep : ∀ {s s' o}, ∀ a ∈ l, I s → f s a = .ok (s', o) → I s') {s t : σ} {o : List ω}
    (init : I s) (h : tryEach f s l = .ok (t, o)) : I t :=
  tryEach_rel (S := fun s _ t => I s → I t) (fun _ h => h) (fun h₁ h₂ h => h₂ (h₁ h))
    (fun a member turn inv => keep a member inv turn) h init

/-- The invariant rule for loops that cannot fault. -/
theorem forEach_invariant {f : σ → α → σ × List ω} {I : σ → Prop} {l : List α}
    (keep : ∀ s, ∀ a ∈ l, I s → I (f s a).1) {s : σ} (init : I s) : I (forEach f s l).1 :=
  forEach_rel (S := fun s _ t => I s → I t) (fun _ h => h) (fun h₁ h₂ h => h₂ (h₁ h)) keep s init

theorem forEach_append (f : σ → α → σ × List ω) (s : σ) (l l' : List α) :
    forEach f s (l ++ l') = ((forEach f (forEach f s l).1 l').1,
      (forEach f s l).2 ++ (forEach f (forEach f s l).1 l').2) := by
  induction l generalizing s with
  | nil => simp [forEach]
  | cons a l ih => simp [forEach, ih, List.append_assoc]

/-- What every turn puts out, the loop puts out. -/
theorem forEach_outputs {f : σ → α → σ × List ω} {P : ω → Prop} {l : List α}
    (turn : ∀ s, ∀ a ∈ l, ∀ o ∈ (f s a).2, P o) (s : σ) : ∀ o ∈ (forEach f s l).2, P o := by
  refine forEach_rel (S := fun _ outs _ => ∀ o ∈ outs, P o) ?_ ?_ turn s
  · intro s o member
    cases member
  · intro s o₁ t o₂ u first second o member
    rcases List.mem_append.mp member with earlier | later
    · exact first o earlier
    · exact second o later

/-- The progress rule: what a turn adds to the part of the list already gone through. -/
theorem tryEach_progress {f : σ → α → Except φ (σ × List ω)} {S : List α → List ω → σ → Prop}
    {l : List α} {s t : σ} {o : List ω} (init : S [] [] s)
    (turn : ∀ {done a rest outs s s' o}, l = done ++ a :: rest → S done outs s →
      f s a = .ok (s', o) → S (done ++ [a]) (outs ++ o) s')
    (h : tryEach f s l = .ok (t, o)) : S l o t := by
  have go : ∀ (rest done : List α) (outs o : List ω) (s : σ), l = done ++ rest → S done outs s →
      tryEach f s rest = .ok (t, o) → S l (outs ++ o) t := by
    intro rest
    induction rest with
    | nil =>
        intro done outs o s split sofar h
        simp only [tryEach_nil, Except.ok.injEq, Prod.mk.injEq] at h
        obtain ⟨rfl, rfl⟩ := h
        simpa [split] using sofar
    | cons a rest ih =>
        intro done outs o s split sofar h
        obtain ⟨s₁, o₁, o₂, first, others, rfl⟩ := tryEach_cons h
        have next := ih (done ++ [a]) (outs ++ o₁) o₂ s₁ (by simp [split]) (turn split sofar first)
          others
        simpa using next
  exact go l [] [] o s rfl init h

/-- A loop whose turns cannot fault, seen as one whose turns do not. -/
theorem tryEach_forEach (f : σ → α → σ × List ω) (s : σ) (l : List α) :
    tryEach (φ := φ) (fun s a => .ok (f s a)) s l = .ok (forEach f s l) := by
  induction l generalizing s with
  | nil => rfl
  | cons a l ih => simp [tryEach, forEach, ih]

/-- A loop that puts nothing out is a fold. -/
theorem forEach_silent (f : σ → α → σ) (s : σ) (l : List α) :
    forEach (fun s a => (f s a, ([] : List ω))) s l = (l.foldl f s, []) := by
  induction l generalizing s with
  | nil => rfl
  | cons a l ih => rw [forEach, ih, List.foldl_cons, List.append_nil]

theorem forEach_progress {f : σ → α → σ × List ω} {S : List α → List ω → σ → Prop} {l : List α}
    {s : σ} (init : S [] [] s)
    (turn : ∀ {done a rest outs s}, l = done ++ a :: rest → S done outs s →
      S (done ++ [a]) (outs ++ (f s a).2) (f s a).1) :
    S l (forEach f s l).2 (forEach f s l).1 := by
  refine tryEach_progress (φ := Empty) init (fun split sofar h => ?_) (tryEach_forEach f s l)
  simp only [Except.ok.injEq] at h
  have next := turn split sofar
  rwa [h] at next

/-! Ordered maps, as `std::map` has them. -/

abbrev OrdMap (κ β : Type) [Ord κ] := Std.ExtTreeMap κ β compare

variable {κ β : Type} [Ord κ] [Std.TransOrd κ]

theorem toList_distinct [Std.LawfulEqOrd κ] (m : OrdMap κ β) : m.toList.Pairwise fun a b => a.1 ≠ b.1 := by
  simpa using Std.ExtTreeMap.distinct_keys_toList (t := m)

theorem mem_toList [Std.LawfulEqOrd κ] {m : OrdMap κ β} {k : κ} {v : β} : (k, v) ∈ m.toList ↔ m[k]? = some v :=
  Std.ExtTreeMap.mem_toList_iff_getElem?_eq_some

theorem get_insert [DecidableEq κ] [Std.LawfulEqOrd κ] (m : OrdMap κ β) (k k' : κ) (v : β) :
    (m.insert k v)[k']? = if k = k' then some v else m[k']? := by
  simp only [Std.ExtTreeMap.getElem?_insert, Std.LawfulEqCmp.compare_eq_iff_eq]

theorem get_erase [DecidableEq κ] [Std.LawfulEqOrd κ] (m : OrdMap κ β) (k k' : κ) :
    (m.erase k)[k']? = if k = k' then none else m[k']? := by
  simp only [Std.ExtTreeMap.getElem?_erase, Std.LawfulEqCmp.compare_eq_iff_eq]

/-! A property of all entries of a map. -/

def AllEntries (P : κ → β → Prop) (m : OrdMap κ β) : Prop := ∀ k v, m[k]? = some v → P k v

theorem allEntries_empty (P : κ → β → Prop) : AllEntries P (∅ : OrdMap κ β) := by
  intro k v got
  simp at got

theorem AllEntries.insert [DecidableEq κ] [Std.LawfulEqOrd κ] {P : κ → β → Prop} {m : OrdMap κ β}
    (all : AllEntries P m) {k : κ} {v : β} (new : P k v) : AllEntries P (m.insert k v) := by
  intro k' v' got
  rw [get_insert] at got
  split at got
  · rename_i same
    cases got
    exact same ▸ new
  · exact all k' v' got

theorem AllEntries.erase [DecidableEq κ] [Std.LawfulEqOrd κ] {P : κ → β → Prop} {m : OrdMap κ β}
    (all : AllEntries P m) (k : κ) : AllEntries P (m.erase k) := by
  intro k' v' got
  rw [get_erase] at got
  split at got
  · cases got
  · exact all k' v' got

theorem AllEntries.filter [Std.LawfulEqOrd κ] {P : κ → β → Prop} {m : OrdMap κ β}
    (all : AllEntries P m) (f : κ → β → Bool) : AllEntries P (m.filter f) := by
  intro k v got
  rw [Std.ExtTreeMap.getElem?_filter', Option.filter_eq_some_iff] at got
  exact all k v got.1

/-- A loop over distinct keys whose turn at a key replaces just that entry. -/
theorem tryEach_keyed [DecidableEq κ] {f : σ → κ × β → Except φ (σ × List ω)} {π : σ → OrdMap κ β}
    {u : κ → β → Option β} {l : List (κ × β)} (distinct : l.Pairwise fun a b => a.1 ≠ b.1)
    (own : ∀ {s k v s' o}, (π s)[k]? = some v → f s (k, v) = .ok (s', o) →
      ∀ k', (π s')[k']? = if k = k' then u k v else (π s)[k']?)
    {s t : σ} {o : List ω} (present : ∀ k v, (k, v) ∈ l → (π s)[k]? = some v)
    (h : tryEach f s l = .ok (t, o)) :
    (∀ k v, (k, v) ∈ l → (π t)[k]? = u k v) ∧
      ∀ k, (∀ v, (k, v) ∉ l) → (π t)[k]? = (π s)[k]? := by
  induction l generalizing s o with
  | nil =>
      simp only [tryEach_nil, Except.ok.injEq, Prod.mk.injEq] at h
      obtain ⟨rfl, rfl⟩ := h
      exact ⟨by simp, fun _ _ => rfl⟩
  | cons a l ih =>
      obtain ⟨apart, distinct⟩ := List.pairwise_cons.mp distinct
      obtain ⟨s₁, o₁, o₂, first, rest, rfl⟩ := tryEach_cons h
      have turn := own (present a.1 a.2 List.mem_cons_self) first
      have later : ∀ k v, (k, v) ∈ l → (π s₁)[k]? = some v := by
        intro k v member
        rw [turn, if_neg (apart _ member)]
        exact present k v (List.mem_cons_of_mem a member)
      obtain ⟨inside, outside⟩ := ih distinct later rest
      constructor
      · intro k v member
        rcases List.mem_cons.mp member with here | member
        · subst here
          rw [outside k (fun v member => apart _ member rfl), turn, if_pos rfl]
        · exact inside k v member
      · intro k absent
        have other : a.1 ≠ k := fun same => absent a.2 (by simp [← same])
        rw [outside k (fun v member => absent v (List.mem_cons_of_mem a member)), turn,
          if_neg other]

/-- The whole-map form of `tryEach_keyed`. -/
theorem tryEach_toList [DecidableEq κ] [Std.LawfulEqOrd κ] {f : σ → κ × β → Except φ (σ × List ω)}
    {π : σ → OrdMap κ β} {u : κ → β → Option β}
    (own : ∀ {s k v s' o}, (π s)[k]? = some v → f s (k, v) = .ok (s', o) →
      ∀ k', (π s')[k']? = if k = k' then u k v else (π s)[k']?)
    {s t : σ} {o : List ω} (h : tryEach f s (π s).toList = .ok (t, o)) (k : κ) :
    (π t)[k]? = (π s)[k]?.bind (u k) := by
  obtain ⟨inside, outside⟩ :=
    tryEach_keyed (toList_distinct (π s)) own (fun _ _ => mem_toList.mp) h
  cases found : (π s)[k]? with
  | none =>
      rw [outside k (fun v member => by simp [found] at member), found]
      rfl
  | some v => exact inside k v (mem_toList.mpr found)

end Sweep
