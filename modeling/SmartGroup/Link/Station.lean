import SmartGroup.Group.Sent
import SmartGroup.Link.HandlerRule
import SmartGroup.Link.Turns

/-! The callsigns in the frames of a DCS link. A frame carries its header, and the handler
fills it in from the last header that it was handed. -/
namespace SmartGroup
open Bytes Sweep Machine

namespace DCSHandler

variable {n : Nat}

/-- The callsigns that the handler puts into the frames it sends. -/
def station (h : DCSHandler n) : Str × Str := (h.myCall1, h.myCall2)

/-- The call keeps the handler's group and callsigns, and sends no voice frame. -/
structure Plain (h : DCSHandler n) (turn : Turn n) : Prop where
  kept : ∀ h', turn.2.1 = some h' → h'.destination = h.destination ∧ h'.station = h.station
  mute : ∀ d, .ambe d ∉ turn.2.2

theorem ambe_not_mem_group (d : AMBEData) (outs : List Output) :
    HandlerOutput.ambe d ∉ outs.map .group := by simp

theorem Plain.refl (h : DCSHandler n) (g : GroupHandler) : Plain h (g, some h, []) :=
  ⟨by rintro _ ⟨⟩; exact ⟨rfl, rfl⟩, by simp⟩

theorem Plain.dropped (h : DCSHandler n) (g : GroupHandler) : Plain h (g, none, []) :=
  ⟨by rintro _ ⟨⟩, by simp⟩

section
variable (h : DCSHandler n) (g : GroupHandler)

theorem plain_processAMBE (env : Env) (data : AMBEData) : Plain h (h.processAMBE env data g) := by
  have opened : (h.openStream env data g).2.1.destination = h.destination ∧
      (h.openStream env data g).2.1.station = h.station := by
    unfold openStream
    split <;> exact ⟨rfl, rfl⟩
  unfold processAMBE
  dsimp only
  split
  · exact .refl h g
  · split
    · exact .refl h g
    · split
      · exact .refl h g
      · split
        · refine ⟨?_, fun d => ambe_not_mem_group d _⟩
          rintro _ ⟨⟩
          refine ⟨?_, opened.2⟩
          rw [← opened.1]
          split <;> rfl
        · refine ⟨?_, fun d => ambe_not_mem_group d _⟩
          rintro _ ⟨⟩
          exact opened

theorem plain_processPoll (poll : PollData) : Plain h (h.processPoll poll g) := by
  refine ⟨?_, fun d sent => ?_⟩
  · rintro _ ⟨⟩
    exact ⟨rfl, rfl⟩
  · unfold processPoll at sent
    dsimp only at sent
    split at sent <;> simp at sent

theorem plain_processConnect (connect : ConnectData) : Plain h (h.processConnect connect g) := by
  have same (g' : GroupHandler) : Plain h (g', some h, []) := .refl h g'
  unfold processConnect
  split
  · exact same g
  · cases connect.type with
    | ack =>
        dsimp only
        split
        · exact same g
        · split
          · refine ⟨?_, by simp⟩
            rintro _ ⟨⟩
            exact ⟨rfl, rfl⟩
          · exact same g
    | nak =>
        dsimp only
        split
        · exact same g
        · split
          · exact .dropped h _
          · split
            · exact .dropped h _
            · exact same g
    | unlink =>
        dsimp only
        split
        · exact same g
        · split
          · exact .dropped h _
          · exact .dropped h _
    | link1 => exact same g
    | link2 => exact same g

theorem endOfTransmission_mute (h : LinkHandler n) (env : Env) (d : AMBEData) :
    .ambe d ∉ (h.endOfTransmission env g).2 := by
  unfold LinkHandler.endOfTransmission
  split
  · simp
  · exact ambe_not_mem_group d _

theorem plain_unlink (env : Env) (group : Fin n) (callsign : Str) (exclude : Bool) :
    Plain h (h.unlink env group callsign exclude g) := by
  unfold unlink
  split
  · constructor
    · rintro _ ⟨⟩
      split <;> exact ⟨rfl, rfl⟩
    · intro d sent
      rcases List.mem_append.mp sent with told | ended
      · split at told <;> simp at told
      · exact endOfTransmission_mute g _ env d ended
  · exact .refl h g

theorem clockRest_plain : Plain h (g, some h.clockRest.1, h.clockRest.2) := by
  have inactivity : h.clockInactivity.destination = h.destination ∧
      h.clockInactivity.station = h.station := by
    unfold clockInactivity
    split <;> exact ⟨rfl, rfl⟩
  have poll (h : DCSHandler n) : (h.clockPoll.1.destination = h.destination ∧
      h.clockPoll.1.station = h.station) ∧ ∀ d, .ambe d ∉ h.clockPoll.2 := by
    unfold clockPoll
    split <;> exact ⟨⟨rfl, rfl⟩, by simp⟩
  have retry (h : DCSHandler n) : (h.clockTry.1.destination = h.destination ∧
      h.clockTry.1.station = h.station) ∧ ∀ d, .ambe d ∉ h.clockTry.2 := by
    unfold clockTry
    split
    · split <;> exact ⟨⟨rfl, rfl⟩, by simp⟩
    · exact ⟨⟨rfl, rfl⟩, by simp⟩
  obtain ⟨polled, quiet⟩ := poll h.clockInactivity
  obtain ⟨tried, still⟩ := retry h.clockInactivity.clockPoll.1
  constructor
  · rintro _ ⟨⟩
    exact ⟨tried.1.trans (polled.1.trans inactivity.1), tried.2.trans (polled.2.trans inactivity.2)⟩
  · intro d sent
    exact (List.mem_append.mp sent).elim (quiet d) (still d)

theorem plain_clockInt (ms : Nat) : Plain h (h.clockInt ms g) := by
  unfold clockInt
  dsimp only
  split
  · split
    · split
      · exact ⟨by rintro _ ⟨⟩; exact ⟨rfl, rfl⟩, by simp⟩
      · exact .dropped h _
    · exact .dropped h g
  · have rest := clockRest_plain ({ h with toLinkHandler := h.clock ms } : DCSHandler n) g
    exact ⟨rest.kept, rest.mute⟩

end

end DCSHandler

namespace World

variable {n : Nat}

/-- The handler is there no more, or serves the group under the callsigns. -/
def Named (r : Nat) (i : Fin n) (station : Str × Str) (w : World n) : Prop :=
  r < w.dcs.next ∧ ∀ h, (r, h) ∈ w.dcs.entries → h.destination = i ∧ h.station = station

/-- No handler changes its callsigns, and none sends a voice frame. -/
structure Plain (w : World n) (outs : List (LinkOutput n)) (w' : World n) : Prop where
  named : ∀ r i station, w.Named r i station → w'.Named r i station
  mute : ∀ r d, .handler .dcs r (.ambe d) ∉ outs

theorem Plain.trans {w w' w'' : World n} {outs more : List (LinkOutput n)} (first : Plain w outs w')
    (second : Plain w' more w'') : Plain w (outs ++ more) w'' := by
  refine ⟨fun r i station named => second.named r i station (first.named r i station named),
    fun r d sent => ?_⟩
  exact (List.mem_append.mp sent).elim (first.mute r d) (second.mute r d)

/-- The handlers stay, and the outputs are not theirs. -/
theorem Plain.of_dcs {w w' : World n} {outs : List (LinkOutput n)} (same : w'.dcs = w.dcs)
    (mute : ∀ r d, .handler .dcs r (.ambe d) ∉ outs) : Plain w outs w' := by
  refine ⟨fun r i station named => ?_, mute⟩
  rw [Named, same]
  exact named

/-- A loop over the handlers whose turns keep their callsigns. -/
theorem named_sweepDCS {w : World n} {f : Nat → DCSHandler n → GroupHandler → DCSHandler.Turn n}
    {r : Nat} {i : Fin n} {station : Str × Str} (named : w.Named r i station)
    (turn : ∀ h g h', (r, h) ∈ w.dcs.entries → (f r h g).2.1 = some h' →
      h'.destination = h.destination ∧ h'.station = h.station) :
    (w.sweepDCS f).1.Named r i station := by
  refine ⟨named.1, fun h' left => ?_⟩
  obtain ⟨h, g, member, kept⟩ := of_mem_sweepDCS left
  obtain ⟨destination, same⟩ := turn h _ h' member kept
  obtain ⟨here, called⟩ := named.2 h member
  exact ⟨destination.trans here, same.trans called⟩

theorem plain_sweepDCS (w : World n) {f : Nat → DCSHandler n → GroupHandler → DCSHandler.Turn n}
    (turn : ∀ r h g, DCSHandler.Plain h (f r h g)) : Plain w (w.sweepDCS f).2 (w.sweepDCS f).1 := by
  refine ⟨fun r i station named => named_sweepDCS named fun h g h' _ => (turn r h g).kept h',
    fun r d sent => ?_⟩
  obtain ⟨h, g, -, emitted⟩ := of_mem_sweepDCS_outs sent
  exact (turn r h g).mute d emitted

/-- A new link gets a new reference. -/
theorem plain_added (w : World n) (h : DCSHandler n) :
    Plain w [.handler .dcs w.dcs.next (.connect h.linkPacket)] { w with dcs := w.dcs.add h } := by
  constructor
  · intro r i station named
    refine ⟨Nat.lt_succ_of_lt named.1, fun h' member => ?_⟩
    exact named.2 h' (Registry.mem_of_mem_add named.1 member)
  · intro r d
    simp

theorem plain_rule : HandlerRule (n := n) DCSHandler.Plain Plain where
  trans := .trans
  other := fun same quiet => .of_dcs same fun r d => quiet r (.ambe d)
  stay := .refl
  sweep := fun w _ => plain_sweepDCS w
  added := plain_added

/-- What goes to no DCS handler. -/
theorem plain_forward {i : Fin n} {o : Output} (header : ∀ h, o ≠ .reflectorHeader .dcs h)
    (voice : ∀ d, o ≠ .reflectorAMBE .dcs d) (w : World n) :
    Plain w (forward i w o).2 (forward i w o).1 :=
  plain_rule.forward w (fun h same => absurd same (header h)) fun d same => absurd same (voice d)

/-- Past the steps of the groups. -/
theorem plain_step {w w' : World n} {e : LinkEvent n} {outs : List (LinkOutput n)}
    (taken : w.step e = .ok (w', outs)) (other : ∀ j input, e ≠ .group j input) : Plain w outs w' := by
  apply plain_rule.step taken other
  · rintro input rfl
    cases input with
    | ambe env data => exact plain_rule.firstDCS w _ fun h g => h.plain_processAMBE g env data
    | poll poll => exact plain_rule.firstDCS w _ fun h g => h.plain_processPoll g poll
    | connect c => exact plain_sweepDCS w fun _ h g => h.plain_processConnect g c
    | clock ms => exact plain_sweepDCS w fun _ h g => h.plain_clockInt g ms
  · exact fun env i callsign h g => h.plain_unlink g env i callsign false

end World
end SmartGroup
