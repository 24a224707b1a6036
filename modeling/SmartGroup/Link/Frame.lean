import SmartGroup.Link.G2Handler

/-! What is done to one group leaves the others and their links alone. -/
namespace SmartGroup
open Bytes Sweep Machine

variable {n : Nat}

/-- The event is for one group and its links. -/
def LinkEvent.isFor (i : Fin n) : LinkEvent n → Prop
  | .group k _ | .remoteLink k _ _ _ | .remoteUnlink k _ => k = i
  | .dextra _ | .dcs _ => False

namespace World

/-- The handlers that belong to the group. -/
def dextraOf (w : World n) (j : Fin n) : List (Nat × DExtraHandler n) :=
  w.dextra.entries.filter (·.2.destination = j)

def dcsOf (w : World n) (j : Fin n) : List (Nat × DCSHandler n) :=
  w.dcs.entries.filter (·.2.destination = j)

/-- The group and its handlers are as they were. -/
structure Untouched (j : Fin n) (w w' : World n) : Prop where
  group : w'.groups j = w.groups j
  dextra : w'.dextraOf j = w.dextraOf j
  dcs : w'.dcsOf j = w.dcsOf j

namespace Untouched
variable {j : Fin n} {w w' w'' : World n}

theorem refl (j : Fin n) (w : World n) : Untouched j w w := ⟨rfl, rfl, rfl⟩

theorem trans (first : Untouched j w w') (second : Untouched j w' w'') : Untouched j w w'' :=
  ⟨second.group.trans first.group, second.dextra.trans first.dextra, second.dcs.trans first.dcs⟩

end Untouched

theorem untouched_setGroup {i j : Fin n} (apart : j ≠ i) (w : World n) (g : GroupHandler) :
    Untouched j w (w.setGroup i g) :=
  ⟨show Function.update w.groups i g j = w.groups j from Function.update_of_ne apart g w.groups, rfl, rfl⟩

/-- A turn at a handler that belongs to the group leaves the group and the handler alone, and a handler never
changes to another group. -/
structure Passes {α : Type} (destination : α → Fin n) (j : Fin n)
    (f : Nat → α → GroupHandler → GroupHandler × Option α × List HandlerOutput) : Prop where
  own : ∀ r h g, destination h = j → (f r h g).1 = g ∧ (f r h g).2.1 = some h
  other : ∀ r h g h', destination h ≠ j → (f r h g).2.1 = some h' → destination h' ≠ j

theorem Passes.loop {α : Type} {destination : α → Fin n} {j : Fin n}
    {f : Nat → α → GroupHandler → GroupHandler × Option α × List HandlerOutput} (passes : Passes destination j f)
    (gs : Groups n) (l : List (Nat × α)) :
    (Registry.loop (visit destination f) gs l).1 j = gs j ∧
      (Registry.loop (visit destination f) gs l).2.1.filter (fun e => destination e.2 = j) =
        l.filter (fun e => destination e.2 = j) := by
  induction l generalizing gs with
  | nil => exact ⟨rfl, rfl⟩
  | cons e l ih =>
      obtain ⟨group, rest⟩ := ih (visit destination f gs e.1 e.2).1
      rw [Registry.loop]
      dsimp only
      by_cases here : destination e.2 = j
      · obtain ⟨same, kept⟩ := passes.own e.1 e.2 (gs (destination e.2)) here
        have stays : (visit destination f gs e.1 e.2).1 = gs := by
          rw [visit, same, Function.update_eq_self]
        have left : (visit destination f gs e.1 e.2).2.1 = some e.2 := kept
        refine ⟨group.trans (by rw [stays]), ?_⟩
        rw [List.filter_append, rest, left]
        simp [here]
      · have apart : (visit destination f gs e.1 e.2).1 j = gs j := Function.update_of_ne (Ne.symm here) _ gs
        refine ⟨group.trans apart, ?_⟩
        rw [List.filter_append, rest, List.filter_cons_of_neg (by simpa using here)]
        cases left : (visit destination f gs e.1 e.2).2.1 with
        | none => rfl
        | some h' =>
            have elsewhere := passes.other e.1 e.2 _ h' here left
            simp [elsewhere]

theorem untouched_sweepDExtra {j : Fin n} {f : Nat → DExtraHandler n → GroupHandler → DExtraHandler.Turn n}
    (passes : Passes (·.destination) j f) (w : World n) : Untouched j w (w.sweepDExtra f).1 := by
  obtain ⟨group, kept⟩ := passes.loop w.groups w.dextra.entries
  exact ⟨group, kept, rfl⟩

theorem untouched_sweepDCS {j : Fin n} {f : Nat → DCSHandler n → GroupHandler → DCSHandler.Turn n}
    (passes : Passes (·.destination) j f) (w : World n) : Untouched j w (w.sweepDCS f).1 := by
  obtain ⟨group, kept⟩ := passes.loop w.groups w.dcs.entries
  exact ⟨group, rfl, kept⟩

section
variable {i j : Fin n}

theorem untouched_linkDExtra (apart : j ≠ i) (w : World n) (request : LinkRequest) (port : Option Nat) :
    Untouched j w (w.linkDExtra i request port).1 := by
  cases port with
  | none => exact .refl j w
  | some port =>
      refine ⟨rfl, ?_, rfl⟩
      simp [linkDExtra, dextraOf, Registry.add, DExtraHandler.new, LinkHandler.new, Ne.symm apart]

theorem untouched_linkDCS (apart : j ≠ i) (w : World n) (request : LinkRequest) (port : Option Nat) :
    Untouched j w (w.linkDCS i request port).1 := by
  unfold linkDCS
  split
  · exact .refl j w
  · cases port with
    | none => exact .refl j w
    | some port =>
        refine ⟨rfl, rfl, ?_⟩
        simp [dcsOf, Registry.add, DCSHandler.new, LinkHandler.new, Ne.symm apart]

theorem untouched_request (apart : j ≠ i) (w : World n) (result : Bool × GroupHandler × Option LinkRequest)
    (port : Option Nat) : Untouched j w (w.request i result port).1 := by
  have group := untouched_setGroup apart w result.2.1
  unfold request
  dsimp only
  split
  · exact group
  · rename_i link _
    split
    · exact group.trans (untouched_linkDExtra apart _ link port)
    · exact group.trans (untouched_linkDCS apart _ link port)
    · exact group

/-! The calls that a group makes on its own handlers. -/

theorem passes_unlinkDExtra (apart : j ≠ i) (env : Env) (reflector : Str) :
    Passes (·.destination) j fun _ (h : DExtraHandler n) => h.unlink env i reflector false := by
  constructor
  · intro r h g here
    have other : ¬h.Selected i reflector false := fun selected => apart (here.symm.trans selected.1)
    simp only [DExtraHandler.unlink, if_neg other, and_self]
  · intro r h g h' elsewhere left
    unfold DExtraHandler.unlink at left
    split at left
    · cases left
    · cases left
      exact elsewhere

theorem passes_unlinkDCS (apart : j ≠ i) (env : Env) (reflector : Str) :
    Passes (·.destination) j fun _ (h : DCSHandler n) => h.unlink env i reflector false := by
  constructor
  · intro r h g here
    have other : ¬h.Selected i reflector false := fun selected => apart (here.symm.trans selected.1)
    simp only [DCSHandler.unlink, if_neg other, and_self]
  · intro r h g h' elsewhere left
    unfold DCSHandler.unlink at left
    split at left
    · cases left
      dsimp only
      split <;> exact elsewhere
    · cases left
      exact elsewhere

/-- What a group writes to its link changes a handler of its own at most. -/
theorem untouched_forward (apart : j ≠ i) (w : World n) (o : Output) : Untouched j w (forward i w o).1 := by
  unfold forward
  split
  · refine untouched_sweepDExtra ⟨fun r h g _ => ?_, fun r h g h' elsewhere left => ?_⟩ w
    · unfold DExtraHandler.writeHeader
      split <;> exact ⟨rfl, rfl⟩
    · unfold DExtraHandler.writeHeader at left
      split at left <;> cases left <;> exact elsewhere
  · refine untouched_sweepDCS ⟨fun r h g here => ?_, fun r h g h' elsewhere left => ?_⟩ w
    · have other : ¬h.Writes i .outgoing := fun writes => apart (here.symm.trans writes.2.2.1)
      simp only [DCSHandler.writeHeader, if_neg other, and_self]
    · unfold DCSHandler.writeHeader at left
      split at left <;> cases left <;> exact elsewhere
  · refine untouched_sweepDExtra ⟨fun r h g _ => ?_, fun r h g h' elsewhere left => ?_⟩ w
    · unfold DExtraHandler.writeAMBE
      split <;> exact ⟨rfl, rfl⟩
    · unfold DExtraHandler.writeAMBE at left
      split at left <;> cases left <;> exact elsewhere
  · refine untouched_sweepDCS ⟨fun r h g here => ?_, fun r h g h' elsewhere left => ?_⟩ w
    · have other : ¬h.Writes i .outgoing := fun writes => apart (here.symm.trans writes.2.2.1)
      simp only [DCSHandler.writeAMBE, if_neg other, and_self]
    · unfold DCSHandler.writeAMBE at left
      split at left <;> cases left <;> exact elsewhere
  · exact .refl j w

theorem untouched_stepGroup (apart : j ≠ i) {w w' : World n} {input : GroupInput} {outs : List (LinkOutput n)}
    (taken : w.stepGroup i input = .ok (w', outs)) : Untouched j w w' := by
  obtain ⟨g, emitted, -, rfl, -⟩ := stepGroup_ok taken
  exact forEach_invariant (I := fun t => Untouched j w t)
    (fun t o _ sofar => sofar.trans (untouched_forward apart t o)) (untouched_setGroup apart w g)

theorem untouched_remoteUnlink (apart : j ≠ i) (w : World n) (env : Env) :
    Untouched j w (w.remoteUnlink i env).1 := by
  unfold remoteUnlink
  dsimp only
  split
  · exact .refl j w
  · exact (untouched_sweepDExtra (passes_unlinkDExtra apart env _) w).trans (untouched_setGroup apart _ _)
  · exact (untouched_sweepDCS (passes_unlinkDCS apart env _) w).trans (untouched_setGroup apart _ _)

end

theorem untouched_step {i j : Fin n} (apart : j ≠ i) {w w' : World n} {e : LinkEvent n} (own : e.isFor i)
    {outs : List (LinkOutput n)} (taken : w.step e = .ok (w', outs)) : Untouched j w w' := by
  cases e with
  | group k input =>
      cases own
      exact untouched_stepGroup apart taken
  | remoteLink k env reflector port =>
      cases own
      have linked := untouched_request apart w ((w.groups i).remoteLink env reflector) port
      simp only [step, Except.ok.injEq] at taken
      rwa [taken] at linked
  | remoteUnlink k env =>
      cases own
      have unlinked := untouched_remoteUnlink apart w env
      simp only [step, Except.ok.injEq] at taken
      rwa [taken] at unlinked
  | dextra input => exact own.elim
  | dcs input => exact own.elim

end World
end SmartGroup
