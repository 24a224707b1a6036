import SmartGroup.Link.World

/-! What the steps of the server do to the DCS handlers, told once for every relation that
looks at nothing else: it is enough to know it for the turns of the loops over them. -/
namespace SmartGroup
open Bytes Sweep Machine

variable {n : Nat}

namespace World

variable {w : World n} {f : Nat → DCSHandler n → GroupHandler → DCSHandler.Turn n} {r : Nat}

/-- A handler left after a loop is the result of its turn. -/
theorem of_mem_sweepDCS {h' : DCSHandler n} (left : (r, h') ∈ (w.sweepDCS f).1.dcs.entries) :
    ∃ h g, (r, h) ∈ w.dcs.entries ∧ (f r h g).2.1 = some h' := by
  obtain ⟨gs, h, -, member, kept⟩ :=
    Registry.of_mem_loop (J := fun _ => True) (fun _ _ _ _ => trivial) trivial left
  exact ⟨h, _, member, kept⟩

/-- An output of a loop is put out in the turn at the handler that it names. -/
theorem of_mem_sweepDCS_outs {o : HandlerOutput} (sent : .handler .dcs r o ∈ (w.sweepDCS f).2) :
    ∃ h g, (r, h) ∈ w.dcs.entries ∧ o ∈ (f r h g).2.2 := by
  obtain ⟨⟨r', o'⟩, emitted, same⟩ := List.mem_map.mp sent
  cases same
  obtain ⟨gs, h, -, member, emitted⟩ :=
    Registry.of_mem_loop_outs (J := fun _ => True) (fun _ _ _ _ => trivial) trivial emitted
  exact ⟨h, _, member, emitted⟩

end World

/-- A relation between a world, outputs and the world after. It composes, holds where the
DCS handlers stay and put out nothing, of a loop whose turns meet `T`, and of a new link. -/
structure HandlerRule (T : DCSHandler n → DCSHandler.Turn n → Prop)
    (S : World n → List (LinkOutput n) → World n → Prop) : Prop where
  trans : ∀ {w w' w'' outs more}, S w outs w' → S w' more w'' → S w (outs ++ more) w''
  other : ∀ {w w' : World n} {outs}, w'.dcs = w.dcs → (∀ r o, .handler .dcs r o ∉ outs) → S w outs w'
  stay : ∀ h g, T h (g, some h, [])
  sweep : ∀ (w : World n) f, (∀ r h g, T h (f r h g)) → S w (w.sweepDCS f).2 (w.sweepDCS f).1
  added : ∀ (w : World n) h,
    S w [.handler .dcs w.dcs.next (.connect h.linkPacket)] { w with dcs := w.dcs.add h }

namespace HandlerRule

open World

variable {T : DCSHandler n → DCSHandler.Turn n → Prop}
  {S : World n → List (LinkOutput n) → World n → Prop} (rule : HandlerRule T S) (w : World n)
include rule

theorem refl : S w [] w := rule.other rfl (by simp)

theorem setGroup (i : Fin n) (g : GroupHandler) : S w [] (w.setGroup i g) := rule.other rfl (by simp)

theorem firstDCS (test : DCSHandler n → Bool) {f : DCSHandler n → GroupHandler → DCSHandler.Turn n}
    (turn : ∀ h g, T h (f h g)) : S w (w.firstDCS test f).2 (w.firstDCS test f).1 := by
  unfold World.firstDCS
  split
  · exact rule.refl w
  · apply rule.sweep
    intro r h g
    split
    · exact turn h g
    · exact rule.stay h g

theorem sweepDExtra (f : Nat → DExtraHandler n → GroupHandler → DExtraHandler.Turn n) :
    S w (w.sweepDExtra f).2 (w.sweepDExtra f).1 := by
  refine rule.other rfl ?_
  intro r o sent
  obtain ⟨o', -, same⟩ := List.mem_map.mp sent
  cases same

theorem forward {i : Fin n} {o : Output}
    (header : ∀ data, o = .reflectorHeader .dcs data → ∀ h g, T h (h.writeHeader i data .outgoing g))
    (voice : ∀ data, o = .reflectorAMBE .dcs data → ∀ h g, T h (h.writeAMBE i data .outgoing g)) :
    S w (World.forward i w o).2 (World.forward i w o).1 := by
  unfold World.forward
  split
  · exact rule.sweepDExtra w _
  · exact rule.sweep w _ fun _ => header _ rfl
  · exact rule.sweepDExtra w _
  · exact rule.sweep w _ fun _ => voice _ rfl
  · exact rule.refl w

theorem request (i : Fin n) (result : Bool × GroupHandler × Option LinkRequest) (port : Option Nat) :
    S w (w.request i result port).2 (w.request i result port).1 := by
  have group := rule.setGroup w i result.2.1
  unfold World.request
  dsimp only
  split
  · exact group
  · split
    · unfold linkDExtra
      split
      · exact group
      · exact rule.other rfl (by simp)
    · unfold linkDCS
      split
      · exact group
      · split
        · exact group
        · exact rule.trans group (rule.added _ _)
    · exact group

theorem remoteUnlink (i : Fin n) (env : Env)
    (turn : ∀ callsign h g, T h (h.unlink env i callsign false g)) :
    S w (w.remoteUnlink i env).2 (w.remoteUnlink i env).1 := by
  have cleared {p : Result n} (swept : S w p.2 p.1) :
      S w p.2 (p.1.setGroup i (p.1.groups i).clearLink) := by
    have both := rule.trans swept (rule.setGroup p.1 i (p.1.groups i).clearLink)
    rwa [List.append_nil] at both
  unfold World.remoteUnlink
  dsimp only
  split
  · exact rule.refl w
  · exact cleared (rule.sweepDExtra w _)
  · exact cleared (rule.sweep w _ fun _ => turn _)

theorem stepGroup {w w' : World n} {i : Fin n} {input : GroupInput} {outs : List (LinkOutput n)}
    (sends : ∀ w o, S w (World.forward i w o).2 (World.forward i w o).1)
    (taken : w.stepGroup i input = .ok (w', outs)) : S w outs w' := by
  obtain ⟨g, emitted, -, rfl, rfl⟩ := stepGroup_ok taken
  have told : S w (emitted.map (.group i)) (w.setGroup i g) := rule.other rfl (by simp)
  have sent := forEach_rel (f := World.forward i) (l := emitted) rule.refl rule.trans
    (fun w o _ => sends w o) (w.setGroup i g)
  exact rule.trans told sent

/-- The steps past those of the groups. -/
theorem step {w w' : World n} {e : LinkEvent n} {outs : List (LinkOutput n)}
    (taken : w.step e = .ok (w', outs)) (past : ∀ i input, e ≠ .group i input)
    (turns : ∀ input, e = .dcs input → S w (w.stepDCS input).2 (w.stepDCS input).1)
    (unlinks : ∀ env i callsign h g, T h (h.unlink env i callsign false g)) : S w outs w' := by
  have result {p : Result n} (holds : S w p.2 p.1) (same : Except.ok (ε := Fault) p = .ok (w', outs)) :
      S w outs w' := by
    rw [Except.ok.inj same] at holds
    exact holds
  cases e with
  | group i input => exact absurd rfl (past i input)
  | dextra input =>
      refine result (p := w.stepDExtra input) ?_ taken
      cases input <;> exact rule.sweepDExtra w _
  | dcs input => exact result (turns input rfl) taken
  | remoteLink i env reflector port => exact result (rule.request w i _ port) taken
  | remoteUnlink i env => exact result (rule.remoteUnlink w i env (unlinks env i)) taken

end HandlerRule
end SmartGroup
