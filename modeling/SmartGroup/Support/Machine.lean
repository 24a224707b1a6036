import SmartGroup.Support.Trace

/-! Deterministic machines that emit outputs and may fault, and their finite
runs. A faulting step has no successor, so a run holds successful steps only. -/
namespace Machine

variable {σ ε ω φ : Type*}

/-- One step of a run, with the states around it. -/
structure Entry (σ ε ω : Type*) where
  pre : σ
  event : ε
  outs : List ω
  post : σ

abbrev Step (σ ε ω φ : Type*) := σ → ε → Except φ (σ × List ω)

/-- The successful runs of a step function, with their entries in order. -/
inductive Run (step : Step σ ε ω φ) (start : σ) : List (Entry σ ε ω) → σ → Prop
  | nil : Run step start [] start
  | snoc {tr s e s' o} : Run step start tr s → step s e = .ok (s', o) →
      Run step start (tr ++ [⟨s, e, o, s'⟩]) s'

/-- Every step of the run is taken where the condition holds. -/
def Under (C : σ → ε → Prop) (tr : List (Entry σ ε ω)) : Prop := ∀ x ∈ tr, C x.pre x.event

instance (C : σ → ε → Prop) [∀ s e, Decidable (C s e)] (tr : List (Entry σ ε ω)) :
    Decidable (Under C tr) := inferInstanceAs (Decidable (∀ x ∈ tr, C x.pre x.event))

@[simp] theorem under_nil (C : σ → ε → Prop) : Under (ω := ω) C [] := by simp [Under]

@[simp] theorem under_snoc (C : σ → ε → Prop) (tr : List (Entry σ ε ω)) (x : Entry σ ε ω) :
    Under C (tr ++ [x]) ↔ Under C tr ∧ C x.pre x.event := by
  simp [Under, or_imp, forall_and]

theorem Run.cons {step : Step σ ε ω φ} {s s' t : σ} {e : ε} {o : List ω} {tr : List (Entry σ ε ω)}
    (first : step s e = .ok (s', o)) (rest : Run step s' tr t) :
    Run step s (⟨s, e, o, s'⟩ :: tr) t := by
  induction rest with
  | nil =>
      have alone : Run step s ([] ++ [⟨s, e, o, s'⟩]) s' := .snoc .nil first
      exact alone
  | snoc before last ih => exact Run.snoc ih last

/-- The invariant rule: steps taken where the condition holds keep `I`. -/
theorem Run.invariant {step : Step σ ε ω φ} {C : σ → ε → Prop} {I : σ → Prop} {start s : σ}
    {tr : List (Entry σ ε ω)} (init : I start)
    (keep : ∀ {s e s' o}, I s → C s e → step s e = .ok (s', o) → I s')
    (run : Run step start tr s) (under : Under C tr) : I s := by
  induction run with
  | nil => exact init
  | snoc _ last ih =>
      rw [under_snoc] at under
      exact keep (ih under.1) under.2 last

/-- The invariant rule without a condition on the steps. -/
theorem Run.always {step : Step σ ε ω φ} {I : σ → Prop} {start s : σ} {tr : List (Entry σ ε ω)}
    (init : I start) (keep : ∀ {s e s' o}, I s → step s e = .ok (s', o) → I s')
    (run : Run step start tr s) : I s :=
  run.invariant (C := fun _ _ => True) init (fun h _ => keep h) (fun _ _ => trivial)

/-- The history rule: a property of the run's entries together with its state. -/
theorem Run.history {step : Step σ ε ω φ} {C : σ → ε → Prop}
    {H : List (Entry σ ε ω) → σ → Prop} {start s : σ} {tr : List (Entry σ ε ω)} (init : H [] start)
    (keep : ∀ {tr s e s' o}, H tr s → C s e → step s e = .ok (s', o) →
      H (tr ++ [⟨s, e, o, s'⟩]) s')
    (run : Run step start tr s) (under : Under C tr) : H tr s := by
  induction run with
  | nil => exact init
  | snoc _ last ih =>
      rw [under_snoc] at under
      exact keep (ih under.1) under.2 last

/-- Each entry is a step of the machine, taken where an earlier part of the run ends. -/
theorem Run.entry {step : Step σ ε ω φ} {start s : σ} {tr : List (Entry σ ε ω)}
    (run : Run step start tr s) {x : Entry σ ε ω} (member : x ∈ tr) :
    step x.pre x.event = .ok (x.post, x.outs) ∧
      ∃ before, before <+: tr ∧ Run step start before x.pre := by
  induction run with
  | nil => cases member
  | @snoc tr s e s' o before last ih =>
      rcases List.mem_append.mp member with earlier | newest
      · obtain ⟨taken, part, isPrefix, reached⟩ := ih earlier
        exact ⟨taken, part, isPrefix.trans (List.prefix_append tr _), reached⟩
      · rw [List.mem_singleton] at newest
        subst newest
        exact ⟨last, tr, List.prefix_append tr _, before⟩

/-- Where `P` survives a step exactly when the condition holds, `P` holds after
every step of a run exactly when the condition holds at every step of it. -/
theorem Run.all_post_iff {step : Step σ ε ω φ} {C : σ → ε → Prop} {I P : σ → Prop} {start s : σ}
    {tr : List (Entry σ ε ω)} (init : I start) (initP : P start)
    (keep : ∀ {s e s' o}, I s → step s e = .ok (s', o) → I s')
    (turn : ∀ {s e s' o}, I s → P s → step s e = .ok (s', o) → (P s' ↔ C s e))
    (run : Run step start tr s) : (∀ x ∈ tr, P x.post) ↔ Under C tr := by
  have both : ((∀ x ∈ tr, P x.post) ↔ Under C tr) ∧ ((∀ x ∈ tr, P x.post) → P s) := by
    induction run with
    | nil => exact ⟨by simp, fun _ => initP⟩
    | @snoc tr s e s' o before last ih =>
        have inv : I s := before.always init keep
        refine ⟨?_, fun all => all ⟨s, e, o, s'⟩ (by simp)⟩
        rw [under_snoc, ← ih.1]
        simp only [List.mem_append, List.mem_singleton, or_imp, forall_and, forall_eq]
        exact and_congr_right fun all => turn inv (ih.2 all) last
  exact both.1

/-- The same for a property of the entries, in runs whose steps meet `D`: it holds of a
step, with the invariant after it, where `C` is met, and fails where `C` is not. -/
theorem Run.forall_iff {step : Step σ ε ω φ} {C D : σ → ε → Prop} {I : σ → Prop}
    {Q : Entry σ ε ω → Prop} {start s : σ} {tr : List (Entry σ ε ω)} (init : I start)
    (meets : ∀ {s e s' o}, I s → D s e → C s e → step s e = .ok (s', o) → I s' ∧ Q ⟨s, e, o, s'⟩)
    (fails : ∀ {s e s' o}, I s → D s e → ¬C s e → step s e = .ok (s', o) → ¬Q ⟨s, e, o, s'⟩)
    (run : Run step start tr s) (under : Under D tr) : (∀ x ∈ tr, Q x) ↔ Under C tr := by
  have both : ((∀ x ∈ tr, Q x) ↔ Under C tr) ∧ (Under C tr → I s) := by
    induction run with
    | nil => exact ⟨by simp, fun _ => init⟩
    | @snoc tr s e s' o before last ih =>
        rw [under_snoc] at under
        obtain ⟨earlier, holds⟩ := ih under.1
        constructor
        · rw [under_snoc, ← earlier]
          simp only [List.mem_append, List.mem_singleton, or_imp, forall_and, forall_eq]
          apply and_congr_right
          intro sofar
          have inv : I s := holds (earlier.mp sofar)
          constructor
          · intro now
            by_contra unmet
            exact fails inv under.2 unmet last now
          · exact fun met => (meets inv under.2 met last).2
        · rw [under_snoc]
          exact fun met => (meets (holds met.1) under.2 met.2 last).1
  exact both.1

/-- The same for a property of the history: it holds at every moment of the run. -/
theorem Run.history_iff {step : Step σ ε ω φ} {C : σ → ε → Prop}
    {H : List (Entry σ ε ω) → σ → Prop} {start s : σ} {tr : List (Entry σ ε ω)} (init : H [] start)
    (turn : ∀ {tr s e s' o}, H tr s → step s e = .ok (s', o) →
      (H (tr ++ [⟨s, e, o, s'⟩]) s' ↔ C s e))
    (run : Run step start tr s) :
    (∀ before t, before <+: tr → Run step start before t → H before t) ↔ Under C tr := by
  constructor
  · intro always
    induction run with
    | nil => exact under_nil C
    | @snoc tr s e s' o before last ih =>
        have earlier := ih fun part t isPrefix =>
          always part t (isPrefix.trans (List.prefix_append tr _))
        have now := always tr s (List.prefix_append tr _) before
        have next := always _ s' List.prefix_rfl (before.snoc last)
        rw [under_snoc]
        exact ⟨earlier, (turn now last).mp next⟩
  · intro under before t isPrefix part
    have met : Under C before := fun x member => under x (isPrefix.subset member)
    exact part.history init (fun sofar holds taken => (turn sofar taken).mpr holds) met

/-- A starting entry has been met and no stopping one after the last of them. -/
def Since (Starts Stops : Entry σ ε ω → Prop) (tr : List (Entry σ ε ω)) : Prop :=
  ∃ before x after, tr = before ++ x :: after ∧ Starts x ∧ ∀ z ∈ after, ¬Stops z

@[simp] theorem since_nil (Starts Stops : Entry σ ε ω → Prop) : ¬Since Starts Stops [] := by
  rintro ⟨before, x, after, split, -⟩
  simp at split

theorem since_snoc (Starts Stops : Entry σ ε ω → Prop) (tr : List (Entry σ ε ω))
    (y : Entry σ ε ω) :
    Since Starts Stops (tr ++ [y]) ↔ Starts y ∨ Since Starts Stops tr ∧ ¬Stops y := by
  constructor
  · rintro ⟨before, x, after, split, starts, rest⟩
    rcases Trace.snoc_split.mp split with ⟨-, rfl, -⟩ | ⟨later, rfl, rfl⟩
    · exact .inl starts
    · refine .inr ⟨⟨before, x, later, rfl, starts, fun w member => rest w (by simp [member])⟩, ?_⟩
      exact rest y (by simp)
  · rintro (starts | ⟨⟨before, x, after, rfl, starts, rest⟩, going⟩)
    · exact ⟨tr, y, [], rfl, starts, by simp⟩
    · refine ⟨before, x, after ++ [y], by simp, starts, fun z member => ?_⟩
      rcases List.mem_append.mp member with earlier | newest
      · exact rest z earlier
      · rwa [List.mem_singleton.mp newest]

theorem since_cons (Starts Stops : Entry σ ε ω → Prop) (x : Entry σ ε ω) (tr : List (Entry σ ε ω)) :
    Since Starts Stops (x :: tr) ↔ (Starts x ∧ ∀ z ∈ tr, ¬Stops z) ∨ Since Starts Stops tr := by
  constructor
  · rintro ⟨before, y, after, split, starts, rest⟩
    cases before with
    | nil =>
        cases split
        exact .inl ⟨starts, rest⟩
    | cons _ before =>
        cases split
        exact .inr ⟨before, y, after, rfl, starts, rest⟩
  · rintro (⟨starts, rest⟩ | ⟨before, y, after, rfl, starts, rest⟩)
    · exact ⟨[], x, tr, rfl, starts, rest⟩
    · exact ⟨x :: before, y, after, rfl, starts, rest⟩

instance decidableSince (Starts Stops : Entry σ ε ω → Prop) [DecidablePred Starts]
    [DecidablePred Stops] : (tr : List (Entry σ ε ω)) → Decidable (Since Starts Stops tr)
  | [] => isFalse (since_nil Starts Stops)
  | x :: tr =>
      have := decidableSince Starts Stops tr
      decidable_of_iff _ (since_cons Starts Stops x tr).symm

/-! Conditions on a step that look back at the run so far. -/

/-- Every entry meets the condition, told together with the entries before it. -/
def Throughout (Q : List (Entry σ ε ω) → Entry σ ε ω → Prop) (tr : List (Entry σ ε ω)) : Prop :=
  ∀ before x after, tr = before ++ x :: after → Q before x

@[simp] theorem throughout_nil (Q : List (Entry σ ε ω) → Entry σ ε ω → Prop) : Throughout Q [] :=
  Trace.each_nil

@[simp] theorem throughout_snoc (Q : List (Entry σ ε ω) → Entry σ ε ω → Prop)
    (tr : List (Entry σ ε ω)) (y : Entry σ ε ω) :
    Throughout Q (tr ++ [y]) ↔ Throughout Q tr ∧ Q tr y := Trace.each_snoc

theorem throughout_cons (Q : List (Entry σ ε ω) → Entry σ ε ω → Prop) (x : Entry σ ε ω)
    (tr : List (Entry σ ε ω)) :
    Throughout Q (x :: tr) ↔ Q [] x ∧ Throughout (fun before => Q (x :: before)) tr := by
  constructor
  · intro all
    exact ⟨all [] x tr rfl, fun before y after split => all (x :: before) y after (by simp [split])⟩
  · rintro ⟨first, later⟩ before y after split
    cases before with
    | nil =>
        cases split
        exact first
    | cons _ before =>
        cases split
        exact later before y after rfl

instance decidableThroughout : (Q : List (Entry σ ε ω) → Entry σ ε ω → Prop) →
    [∀ before, DecidablePred (Q before)] → (tr : List (Entry σ ε ω)) → Decidable (Throughout Q tr)
  | Q, _, [] => isTrue (throughout_nil Q)
  | Q, _, x :: tr =>
      have := decidableThroughout (fun before => Q (x :: before)) tr
      decidable_of_iff _ (throughout_cons Q x tr).symm

/-- The part of a run before one of its entries, and that entry's step. -/
theorem Run.split {step : Step σ ε ω φ} {start s : σ} {tr before after : List (Entry σ ε ω)}
    {x : Entry σ ε ω} (run : Run step start tr s) (split : tr = before ++ x :: after) :
    Run step start before x.pre ∧ step x.pre x.event = .ok (x.post, x.outs) := by
  have all : Throughout (fun before x => Run step start before x.pre ∧
      step x.pre x.event = .ok (x.post, x.outs)) tr := by
    clear split
    induction run with
    | nil => exact throughout_nil _
    | snoc earlier last ih => exact (throughout_snoc _ _ _).mpr ⟨ih, earlier, last⟩
  exact all before x after split

/-- Two such conditions agree on a run when they agree wherever one of its parts ends. -/
theorem Run.throughout_iff {step : Step σ ε ω φ} {Q Q' : List (Entry σ ε ω) → Entry σ ε ω → Prop}
    {start s : σ} {tr : List (Entry σ ε ω)} (run : Run step start tr s)
    (same : ∀ before x, Run step start before x.pre → step x.pre x.event = .ok (x.post, x.outs) →
      (Q before x ↔ Q' before x)) : Throughout Q tr ↔ Throughout Q' tr := by
  refine forall_congr' fun before => forall_congr' fun x => forall_congr' fun after => ?_
  apply forall_congr'
  intro split
  obtain ⟨reached, taken⟩ := run.split split
  exact same before x reached taken

/-- `Run.history_iff` for a condition that looks back. -/
theorem Run.history_iff_past {step : Step σ ε ω φ} {C : List (Entry σ ε ω) → Entry σ ε ω → Prop}
    {H : List (Entry σ ε ω) → σ → Prop} {start s : σ} {tr : List (Entry σ ε ω)} (init : H [] start)
    (turn : ∀ {tr s e s' o}, Run step start tr s → H tr s → step s e = .ok (s', o) →
      (H (tr ++ [⟨s, e, o, s'⟩]) s' ↔ C tr ⟨s, e, o, s'⟩))
    (run : Run step start tr s) :
    (∀ before t, before <+: tr → Run step start before t → H before t) ↔ Throughout C tr := by
  constructor
  · intro always
    induction run with
    | nil => exact throughout_nil C
    | @snoc tr s e s' o before last ih =>
        have earlier := ih fun part t isPrefix =>
          always part t (isPrefix.trans (List.prefix_append tr _))
        have now := always tr s (List.prefix_append tr _) before
        have next := always _ s' List.prefix_rfl (before.snoc last)
        rw [throughout_snoc]
        exact ⟨earlier, (turn before now last).mp next⟩
  · rintro met before t ⟨after, rfl⟩ part
    induction part generalizing after with
    | nil => exact init
    | @snoc tr s e s' o part last ih =>
        have here := met tr ⟨s, e, o, s'⟩ after (by simp)
        have sofar := ih ([⟨s, e, o, s'⟩] ++ after) (by simpa using run) (by simpa using met)
        exact (turn part sofar last).mpr here

/-- The run of a list of events, when none of its steps faults. -/
def exec (step : Step σ ε ω φ) : σ → List ε → Except φ (List (Entry σ ε ω) × σ)
  | s, [] => .ok ([], s)
  | s, e :: es =>
      match step s e with
      | .error f => .error f
      | .ok (s', o) =>
          match exec step s' es with
          | .error f => .error f
          | .ok (tr, t) => .ok (⟨s, e, o, s'⟩ :: tr, t)

theorem exec_cons {step : Step σ ε ω φ} {s t : σ} {e : ε} {es : List ε} {tr : List (Entry σ ε ω)}
    (ran : exec step s (e :: es) = .ok (tr, t)) :
    ∃ s' o rest, step s e = .ok (s', o) ∧ exec step s' es = .ok (rest, t) ∧ tr = ⟨s, e, o, s'⟩ :: rest := by
  simp only [exec] at ran
  split at ran
  · cases ran
  · rename_i s' o first
    split at ran
    · cases ran
    · rename_i tr' u rest
      simp only [Except.ok.injEq, Prod.mk.injEq] at ran
      obtain ⟨rfl, rfl⟩ := ran
      exact ⟨s', o, tr', first, rest, rfl⟩

theorem exec_run {step : Step σ ε ω φ} {s t : σ} {es : List ε} {tr : List (Entry σ ε ω)}
    (h : exec step s es = .ok (tr, t)) : Run step s tr t := by
  induction es generalizing s tr with
  | nil =>
      simp only [exec, Except.ok.injEq, Prod.mk.injEq] at h
      obtain ⟨rfl, rfl⟩ := h
      exact .nil
  | cons e es ih =>
      obtain ⟨s', o, rest, first, later, rfl⟩ := exec_cons h
      exact .cons first (ih later)

/-- Events whose steps cannot fault have a run. -/
theorem exec_total {α : Type*} {step : Step σ ε ω φ} {event : α → ε} {next : σ → α → σ}
    (total : ∀ s a, ∃ o, step s (event a) = .ok (next s a, o)) (s : σ) (l : List α) :
    ∃ tr, exec step s (l.map event) = .ok (tr, l.foldl next s) := by
  induction l generalizing s with
  | nil => exact ⟨[], rfl⟩
  | cons a l ih =>
      obtain ⟨o, first⟩ := total s a
      obtain ⟨tr, rest⟩ := ih (next s a)
      exact ⟨⟨s, event a, o, next s a⟩ :: tr, by simp [exec, first, rest]⟩

/-- The test `p` accepts the run of the events. -/
def accepts (step : Step σ ε ω φ) (s : σ) (es : List ε) (p : List (Entry σ ε ω) → σ → Bool) : Bool :=
  match exec step s es with
  | .error _ => false
  | .ok (tr, t) => p tr t

theorem exists_exec_of_accepts (step : Step σ ε ω φ) (s : σ) (es : List ε)
    (p : List (Entry σ ε ω) → σ → Bool) (h : accepts step s es p = true) :
    ∃ tr t, exec step s es = .ok (tr, t) ∧ p tr t = true := by
  unfold accepts at h
  split at h
  · cases h
  · rename_i tr t ran
    exact ⟨tr, t, ran, h⟩

/-- An evaluated run is a run. -/
theorem exists_run_of_accepts (step : Step σ ε ω φ) (s : σ) (es : List ε)
    (p : List (Entry σ ε ω) → σ → Bool) (h : accepts step s es p = true) :
    ∃ tr t, Run step s tr t ∧ p tr t = true := by
  obtain ⟨tr, t, ran, holds⟩ := exists_exec_of_accepts step s es p h
  exact ⟨tr, t, exec_run ran, holds⟩

/-- The entries of an evaluated run have the given events. -/
theorem exec_events {step : Step σ ε ω φ} {s t : σ} {es : List ε} {tr : List (Entry σ ε ω)}
    (ran : exec step s es = .ok (tr, t)) : tr.map (·.event) = es := by
  induction es generalizing s tr with
  | nil =>
      simp only [exec, Except.ok.injEq, Prod.mk.injEq] at ran
      obtain ⟨rfl, rfl⟩ := ran
      rfl
  | cons e es ih =>
      obtain ⟨s', o, rest, -, later, rfl⟩ := exec_cons ran
      exact congrArg (e :: ·) (ih later)

end Machine
