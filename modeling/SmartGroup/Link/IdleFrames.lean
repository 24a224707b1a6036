import SmartGroup.Group.Effects
import SmartGroup.Link.Isolation

/-! Voice frames that come to a group without an open stream. -/
namespace SmartGroup
open Bytes Sweep Machine

namespace DExtraHandler

variable {n : Nat}

/-- The handler takes the frame, which begins a round of 21, and has the header of its
stream to send before it. -/
def Repeats (data : AMBEData) (h : DExtraHandler n) : Prop :=
  h.TakesAMBE data ∧ data.getSeq = 0 ∧ h.header ≠ none

instance (data : AMBEData) (h : DExtraHandler n) : Decidable (h.Repeats data) :=
  inferInstanceAs (Decidable (_ ∧ _ ∧ _))

section
variable {env : Env} {data : AMBEData} {h : DExtraHandler n} {g : GroupHandler}

theorem idle_refuses (idle : g.id = 0) (named : data.getId ≠ 0) :
    GroupCall.apply g (.ambe env data) = (g, []) := by
  have other : data.getId ≠ g.id := idle ▸ named
  simp only [GroupCall.apply, GroupHandler.processReflectorAMBE, if_pos other]

/-- Without the header the frame does nothing to an idle group. -/
theorem turn_idle (env : Env) (idle : g.id = 0) (named : data.getId ≠ 0) (alone : ¬h.Repeats data) :
    (h.turn (.ambe env data) g).1 = g ∧ (h.turn (.ambe env data) g).2.2 = [] := by
  by_cases takes : h.TakesAMBE data
  · have calls : (h.taken (.ambe env data)).1 = [.ambe env data] := by
      unfold taken
      cases held : h.header with
      | none => rfl
      | some header =>
          have later : data.getSeq ≠ 0 := by
            intro first
            exact alone ⟨takes, first, by simp [held]⟩
          simp [later]
    rw [turn_ambe_taken takes, calls]
    simp only [forEach, idle_refuses idle named, List.append_nil, List.map_nil, and_self]
  · rw [turn_ambe_passed takes]
    exact ⟨rfl, rfl⟩

/-- The header opens a stream on an idle group, which sends its text at least. -/
theorem turn_repeats (env : Env) (idle : g.id = 0) (repeats : h.Repeats data) :
    ∃ out, .group out ∈ (h.turn (.ambe env data) g).2.2 := by
  obtain ⟨takes, first, held⟩ := repeats
  obtain ⟨header, held⟩ := Option.ne_none_iff_exists'.mp held
  have calls : (h.taken (.ambe env data)).1 = [.header env header, .ambe env data] := by
    simp [taken, held, first]
  have opened : (g.processReflectorHeader env header).2.2 ≠ [] := by
    simp only [GroupHandler.processReflectorHeader, idle, ne_eq, not_true_eq_false, if_false]
    exact List.append_ne_nil_of_right_ne_nil _ (GroupHandler.sendFromText_ne_nil env _)
  obtain ⟨out, member⟩ := List.exists_mem_of_ne_nil _ opened
  rw [turn_ambe_taken takes, calls]
  exact ⟨out, List.mem_map_of_mem (List.mem_append_left _ member)⟩

end

end DExtraHandler

namespace World

variable {n : Nat}

/-- The packet relays nothing for the group and leaves its stream, its users and its link
timer as they were. -/
structure Ignored (w : World n) (i : Fin n) (r : Result n) : Prop where
  silent : ∀ e ∈ w.dextra.entries, e.2.destination = i → ∀ out, .handler .dextra e.1 (.group out) ∉ r.2
  id : (r.1.groups i).id = (w.groups i).id
  ids : (r.1.groups i).ids = (w.groups i).ids
  repeaters : (r.1.groups i).repeaters = (w.groups i).repeaters
  users : (r.1.groups i).users = (w.groups i).users
  linkTimer : (r.1.groups i).linkTimer = (w.groups i).linkTimer

section
variable {data : AMBEData} {i : Fin n}

/-- The turn of the loop at a handler. -/
abbrev frameTurn (env : Env) (data : AMBEData) :
    Groups n → Nat → DExtraHandler n → Groups n × Option (DExtraHandler n) × List HandlerOutput :=
  visit (·.destination) fun _ h g => h.turn (.ambe env data) g

/-- The turn at a handler that does not open a stream on the idle group. -/
theorem frameTurn_idle (env : Env) {gs : Groups n} (idle : (gs i).id = 0) (named : data.getId ≠ 0) (r : Nat)
    {h : DExtraHandler n} (alone : h.destination = i → ¬h.Repeats data) :
    (frameTurn env data gs r h).1 i = gs i ∧
      (h.destination = i → (frameTurn env data gs r h).2.2 = []) := by
  by_cases own : h.destination = i
  · subst own
    obtain ⟨same, silent⟩ := DExtraHandler.turn_idle env idle named (alone rfl)
    exact ⟨by simpa only [visit, Function.update_self] using same, fun _ => silent⟩
  · exact ⟨by simp only [visit, Function.update_of_ne (Ne.symm own)], fun same => absurd same own⟩

/-- Where nothing is put out for an idle group, no handler has opened a stream on it. -/
theorem silent_loop (env : Env) {l : List (Nat × DExtraHandler n)} {gs : Groups n} (idle : (gs i).id = 0)
    (named : data.getId ≠ 0)
    (silent : ∀ e ∈ l, e.2.destination = i → ∀ out,
      (e.1, HandlerOutput.group out) ∉ (Registry.loop (frameTurn env data) gs l).2.2) :
    ∀ e ∈ l, e.2.destination = i → ¬e.2.Repeats data := by
  induction l generalizing gs with
  | nil =>
      intro e member
      cases member
  | cons a l ih =>
      have here : a.2.destination = i → ¬a.2.Repeats data := by
        intro own repeats
        subst own
        obtain ⟨out, put⟩ := DExtraHandler.turn_repeats env idle repeats
        exact silent a List.mem_cons_self rfl out (List.mem_append_left _ (List.mem_map_of_mem put))
      have same := (frameTurn_idle env idle named a.1 here).1
      intro e member
      rcases List.mem_cons.mp member with rfl | later
      · exact here
      · refine ih (same ▸ idle) ?_ e later
        intro e' there own out put
        exact silent e' (List.mem_cons_of_mem a there) own out (List.mem_append_right _ put)

/-- A frame of a stream that is not open is ignored by an idle group: one from a user
always, one from a reflector unless the link sends the header of the stream before it. -/
theorem idle_frame_ignored_iff (w : World n) {i : Fin n} (idle : (w.groups i).id = 0) (env : Env)
    {data : AMBEData} (named : data.getId ≠ 0) :
    w.step (.group i (.g2AMBE env data)) = .ok (w, []) ∧
      (w.Ignored i (w.stepDExtra (.ambe env data)) ↔
        ¬∃ e ∈ w.dextra.entries, e.2.destination = i ∧ e.2.Repeats data) := by
  have swept : w.stepDExtra (.ambe env data) = w.sweepDExtra fun _ h g => h.turn (.ambe env data) g :=
    w.stepDExtra_packet (.ambe env data)
  constructor
  · have other : data.getId ≠ (w.groups i).id := idle ▸ named
    simp only [step, stepGroup, GroupInput.event, GroupHandler.step, if_neg other, forEach, setGroup,
      Function.update_eq_self, List.map_nil, List.append_nil]
  · rw [swept]
    constructor
    · intro ignored opens
      obtain ⟨e, member, own, repeats⟩ := opens
      refine silent_loop env idle named ?_ e member own repeats
      intro e' there own' out put
      exact ignored.silent e' there own' out (List.mem_map_of_mem put)
    · intro none
      have alone : ∀ e ∈ w.dextra.entries, e.2.destination = i → ¬e.2.Repeats data :=
        fun e member own repeats => none ⟨e, member, own, repeats⟩
      have keep : ∀ (gs : Groups n), ∀ e ∈ w.dextra.entries, gs i = w.groups i →
          (frameTurn env data gs e.1 e.2).1 i = w.groups i := by
        intro gs e member same
        exact (frameTurn_idle env (same ▸ idle) named e.1 (alone e member)).1.trans same
      have kept : (w.sweepDExtra fun _ h g => h.turn (.ambe env data) g).1.groups i = w.groups i :=
        Registry.loop_state (J := fun gs : Groups n => gs i = w.groups i) keep rfl
      refine ⟨?_, ?_, ?_, ?_, ?_, ?_⟩
      · intro e member own out put
        obtain ⟨⟨r, o⟩, there, same⟩ := List.mem_map.mp put
        obtain ⟨rfl, rfl⟩ : r = e.1 ∧ o = .group out := by simpa using same
        obtain ⟨gs, h, before, known, emitted⟩ := Registry.of_mem_loop_outs keep rfl there
        obtain rfl := w.dextra.unique known member
        have silent := (frameTurn_idle env (before ▸ idle) named e.1 (alone e member)).2 own
        rw [silent] at emitted
        cases emitted
      all_goals rw [kept]

end

end World

/-! A link on which a stream begins while a user talks to the group. -/
namespace Sample

def reflectorHeader (id : Nat) : LinkEvent 1 :=
  .dextra (.header linkEnv
    { (HeaderData.ofCalls userB (str "ID51") (str "CQCQCQ  ") (str "XRF002 G") dextraReflector).setId id with
      yourAddress := dextraAddress
      yourPort := dextraPort })

def reflectorFrame (id seq : Nat) : AMBEData :=
  ((frame id).setSeq seq).setDestination dextraAddress dextraPort

/-- The user's stream has ended and the reflector's has not. -/
def talkedOver : List (LinkEvent 1) :=
  linkDExtra ++ [comes (.g2Header linkEnv (call userA smart 5)), reflectorHeader 7,
    comes (.g2AMBE linkEnv (lastFrame 5))]

end Sample

namespace World
open Sample

/-- A frame from the middle of the reflector's stream. -/
theorem middle_frame_ignored : ∃ tr w, Run step server tr w ∧ (w.groups 0).id = 0 ∧
    (∃ e ∈ w.dextra.entries, e.2.TakesAMBE (reflectorFrame 7 1)) ∧
    w.Ignored 0 (w.stepDExtra (.ambe linkEnv (reflectorFrame 7 1))) := by
  obtain ⟨tr, w, run, checked⟩ := exists_run_of_accepts step server talkedOver
    (fun _ w => decide ((w.groups 0).id = 0 ∧
      ∃ (e : Nat × DExtraHandler 1), e ∈ w.dextra.entries ∧ e.2.TakesAMBE (reflectorFrame 7 1)))
    (by decide +kernel)
  obtain ⟨idle, takes⟩ := of_decide_eq_true checked
  refine ⟨tr, w, run, idle, takes, ?_⟩
  refine (idle_frame_ignored_iff w idle linkEnv (show (reflectorFrame 7 1).getId ≠ 0 by decide)).2.mpr ?_
  intro ⟨e, _, _, _, first, _⟩
  exact absurd first (by decide)

/-- The first frame of a round opens the stream; and a frame with id 0 starts the timer of an
idle group. -/
theorem first_frame_opens :
    (∃ tr w, Run step server tr w ∧ (w.groups 0).id = 0 ∧
      ((w.stepDExtra (.ambe linkEnv (reflectorFrame 7 0))).1.groups 0).id = 7) ∧
    ∃ tr w, Run step server tr w ∧ (w.groups 0).id = 0 ∧
      (w.groups 0).linkTimer.isRunning = false ∧
      ((w.stepDExtra (.ambe linkEnv (reflectorFrame 0 0))).1.groups 0).linkTimer.isRunning = true := by
  constructor
  · obtain ⟨tr, w, run, checked⟩ := exists_run_of_accepts step server talkedOver
      (fun _ w => decide ((w.groups 0).id = 0 ∧
        ((w.stepDExtra (.ambe linkEnv (reflectorFrame 7 0))).1.groups 0).id = 7)) (by decide +kernel)
    exact ⟨tr, w, run, of_decide_eq_true checked⟩
  · obtain ⟨tr, w, run, checked⟩ := exists_run_of_accepts step server Sample.linkDExtra
      (fun _ w => decide ((w.groups 0).id = 0 ∧ (w.groups 0).linkTimer.isRunning = false ∧
        ((w.stepDExtra (.ambe linkEnv (reflectorFrame 0 0))).1.groups 0).linkTimer.isRunning = true))
      (by decide +kernel)
    exact ⟨tr, w, run, of_decide_eq_true checked⟩

end World
end SmartGroup
