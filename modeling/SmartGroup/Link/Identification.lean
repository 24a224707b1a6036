import SmartGroup.Link.Station

/-! The voice frames that a group sends to its DCS reflector, and the header under which
their stream was opened. -/
namespace SmartGroup
open Bytes Sweep Machine

namespace World

variable {n : Nat} {i : Fin n} {w w' : World n} {e : LinkEvent n} {outs : List (LinkOutput n)} {r : Nat}

/-! What a group hands to its link. -/

theorem forward_undirected {o : Output} (other : ¬o.ToReflector) (w : World n) :
    forward i w o = (w, []) := by
  unfold forward
  split <;> first | exact absurd trivial other | rfl

theorem forEach_undirected {l : List Output} (other : ∀ o ∈ l, ¬o.ToReflector) (w : World n) :
    forEach (forward i) w l = (w, []) := by
  induction l with
  | nil => rfl
  | cons o l ih =>
      have rest := ih fun o' member => other o' (List.mem_cons_of_mem o member)
      simp [forEach, forward_undirected (other o List.mem_cons_self), rest]

theorem sweepDCS_groups (w : World n) {f : Nat → DCSHandler n → GroupHandler → DCSHandler.Turn n}
    (same : ∀ r h g, (f r h g).1 = g) : (w.sweepDCS f).1.groups = w.groups := by
  refine Registry.loop_state (J := fun gs => gs = w.groups) ?_ rfl
  rintro gs e - rfl
  simp [visit, same]

theorem sweepDExtra_groups (w : World n)
    {f : Nat → DExtraHandler n → GroupHandler → DExtraHandler.Turn n}
    (same : ∀ r h g, (f r h g).1 = g) : (w.sweepDExtra f).1.groups = w.groups := by
  refine Registry.loop_state (J := fun gs => gs = w.groups) ?_ rfl
  rintro gs e - rfl
  simp [visit, same]

/-- The handlers write without calling the group. -/
theorem forward_groups (w : World n) (o : Output) : (forward i w o).1.groups = w.groups := by
  unfold forward
  split
  · apply sweepDExtra_groups w
    intro r h g
    unfold DExtraHandler.writeHeader
    split <;> rfl
  · apply sweepDCS_groups w
    intro r h g
    unfold DCSHandler.writeHeader
    split <;> rfl
  · apply sweepDExtra_groups w
    intro r h g
    unfold DExtraHandler.writeAMBE
    split <;> rfl
  · apply sweepDCS_groups w
    intro r h g
    unfold DCSHandler.writeAMBE
    split <;> rfl
  · rfl

/-- Only the group that is called changes. -/
theorem stepGroup_groups {input : GroupInput} (h : w.stepGroup i input = .ok (w', outs)) :
    ∃ g emitted, (w.groups i).step input.event = .ok (g, emitted) ∧
      w'.groups = Function.update w.groups i g := by
  obtain ⟨g, emitted, taken, rfl, -⟩ := stepGroup_ok h
  have groups : (forEach (forward i) (w.setGroup i g) emitted).1.groups = (w.setGroup i g).groups :=
    forEach_invariant (I := fun t => t.groups = (w.setGroup i g).groups)
      (fun t o _ same => (forward_groups t o).trans same) rfl
  exact ⟨g, emitted, taken, groups⟩

theorem stepGroup_group {input : GroupInput} (h : w.stepGroup i input = .ok (w', outs)) :
    ∃ emitted, (w.groups i).step input.event = .ok (w'.groups i, emitted) := by
  obtain ⟨g, emitted, taken, groups⟩ := stepGroup_groups h
  refine ⟨emitted, ?_⟩
  rw [groups, Function.update_self]
  exact taken

/-! Who names a handler. -/

/-- The linked handlers of a group that take its header are named by it. -/
theorem writeHeader_named {h : DCSHandler n} (header : HeaderData) (member : (r, h) ∈ w.dcs.entries)
    (writes : h.Writes i .outgoing) :
    (w.sweepDCS fun _ h => h.writeHeader i header .outgoing).1.Named r i
      (header.myCall1, header.myCall2) := by
  refine ⟨w.dcs.older _ member, fun h' left => ?_⟩
  obtain ⟨k, g, member', kept⟩ := of_mem_sweepDCS left
  obtain rfl := w.dcs.unique member member'
  simp only [DCSHandler.writeHeader, writes, if_true, Option.some.injEq] at kept
  rw [← kept]
  exact ⟨writes.2.2.1, rfl⟩

theorem relayedHeader_calls (g : GroupHandler) (header : HeaderData) :
    (g.relayedHeader header).myCall1 = header.myCall1 ∧
      (g.relayedHeader header).myCall2 = header.myCall2 := by
  unfold GroupHandler.relayedHeader
  split <;> exact ⟨rfl, rfl⟩

/-- A stream that the group opens with a DCS link names the handler of the link. -/
theorem opened_named {env : Env} {header : HeaderData} {h : DCSHandler n}
    (accepted : (w.groups i).Accepts header) (opens : (w.groups i).Opens header)
    (tells : (w.groups i).TellsLink header) (type : (w.groups i).linkType = .dcs)
    (member : (r, h) ∈ w.dcs.entries) (writes : h.Writes i .outgoing)
    (taken : w.stepGroup i (.g2Header env header) = .ok (w', outs)) :
    w'.Named r i (header.myCall1, header.myCall2) := by
  obtain ⟨g, emitted, turn, rfl, -⟩ := stepGroup_ok taken
  obtain ⟨before, after, rfl, first, rest⟩ := GroupHandler.opened_outs opens tells accepted turn
  have named := writeHeader_named (w := w.setGroup i g) ((w.groups i).relayedHeader header) member writes
  rw [(relayedHeader_calls _ header).1, (relayedHeader_calls _ header).2] at named
  rw [forEach_append, forEach_undirected first, type]
  simp only [forEach, forEach_undirected rest]
  exact named

/-- A group names only its own handlers, and a voice frame names none. -/
theorem named_forward {j : Fin n} {o : Output} {station : Str × Str} (named : w.Named r i station)
    (other : j = i → ∀ header, o ≠ .reflectorHeader .dcs header) :
    (forward j w o).1.Named r i station := by
  by_cases told : ∃ header, o = .reflectorHeader .dcs header
  · obtain ⟨header, rfl⟩ := told
    apply named_sweepDCS named
    intro h g h' member kept
    have apart : ¬h.Writes j .outgoing := by
      rintro ⟨-, -, here, -⟩
      exact other (here.symm.trans (named.2 h member).1) header rfl
    simp only [DCSHandler.writeHeader, apart, if_false, Option.some.injEq] at kept
    rw [kept]
    exact ⟨rfl, rfl⟩
  · by_cases voice : ∃ data, o = .reflectorAMBE .dcs data
    · obtain ⟨data, rfl⟩ := voice
      apply named_sweepDCS named
      intro h g h' member kept
      unfold DCSHandler.writeAMBE at kept
      split at kept <;> cases kept <;> exact ⟨rfl, rfl⟩
    · exact (plain_forward (fun header same => told ⟨header, same⟩)
        (fun data same => voice ⟨data, same⟩) w).named r i station named

/-- A named handler keeps its name until a header opens a stream of its group. -/
theorem named_step {station : Str × Str} (taken : w.step e = .ok (w', outs))
    (named : w.Named r i station)
    (other : ∀ env header, e = .group i (.g2Header env header) →
      ¬((w.groups i).Accepts header ∧ (w.groups i).Opens header)) : w'.Named r i station := by
  by_cases own : ∃ j input, e = .group j input
  · obtain ⟨j, input, rfl⟩ := own
    obtain ⟨g, emitted, turn, rfl, -⟩ := stepGroup_ok taken
    refine forEach_invariant (I := Named r i station) (fun t o member before => ?_) named
    apply named_forward before
    rintro rfl header rfl
    obtain ⟨env, header', event, accepted, opens⟩ := GroupHandler.header_outs turn member
    cases input with
    | g2Header env' header'' =>
        cases event
        exact other env header' rfl ⟨accepted, opens⟩
    | g2AMBE _ _ | logoffUser _ | clock _ _ => cases event
  · have plain := plain_step taken fun j input same => own ⟨j, input, same⟩
    exact plain.named r i station named

/-! Where a voice frame comes from. -/

theorem writeHeader_mute (w : World n) (header : HeaderData) (d : AMBEData) :
    .handler .dcs r (.ambe d) ∉ (w.sweepDCS fun _ h => h.writeHeader i header .outgoing).2 := by
  intro sent
  obtain ⟨h, g, -, emitted⟩ := of_mem_sweepDCS_outs sent
  unfold DCSHandler.writeHeader at emitted
  split at emitted <;> cases emitted

theorem forward_mute {o : Output} (other : ∀ data, o ≠ .reflectorAMBE .dcs data) (w : World n)
    (d : AMBEData) : .handler .dcs r (.ambe d) ∉ (forward i w o).2 := by
  by_cases told : ∃ header, o = .reflectorHeader .dcs header
  · obtain ⟨header, rfl⟩ := told
    exact writeHeader_mute w header d
  · exact (plain_forward (fun header same => told ⟨header, same⟩) other w).mute r d

/-- The handler that sends a frame writes its own callsigns into it. -/
theorem writeAMBE_sent {data sent : AMBEData}
    (member : .handler .dcs r (.ambe sent) ∈
      (w.sweepDCS fun _ h => h.writeAMBE i data .outgoing).2) :
    ∃ h, (r, h) ∈ w.dcs.entries ∧ h.Writes i .outgoing ∧ sent.getId = data.getId ∧
      sent.header.myCall1 = padTo longCallsignLength h.myCall1 ∧
      sent.header.myCall2 = padTo shortCallsignLength h.myCall2 := by
  obtain ⟨h, g, entry, emitted⟩ := of_mem_sweepDCS_outs member
  unfold DCSHandler.writeAMBE at emitted
  split at emitted
  · rename_i writes
    cases List.mem_singleton.mp emitted
    exact ⟨h, entry, writes, rfl, rfl, rfl⟩
  · cases emitted

/-- A voice frame that a DCS handler sends is a frame of a user, which the group of the
handler hands to its link. -/
theorem frame_sent {sent : AMBEData} (taken : w.step e = .ok (w', outs))
    (member : .handler .dcs r (.ambe sent) ∈ outs) :
    ∃ i env data h, e = .group i (.g2AMBE env data) ∧ (w.groups i).LinksFrame data ∧
      (w.groups i).linkType = .dcs ∧ (r, h) ∈ w.dcs.entries ∧ h.Writes i .outgoing ∧
      sent.getId = data.getId ∧ sent.header.myCall1 = padTo longCallsignLength h.myCall1 ∧
      sent.header.myCall2 = padTo shortCallsignLength h.myCall2 := by
  by_cases own : ∃ j input, e = .group j input
  · obtain ⟨i, input, rfl⟩ := own
    obtain ⟨g, emitted, turn, rfl, rfl⟩ := stepGroup_ok taken
    have forwarded : .handler .dcs r (.ambe sent) ∈
        (forEach (forward i) (w.setGroup i g) emitted).2 := by
      rcases List.mem_append.mp member with group | forwarded
      · simp at group
      · exact forwarded
    obtain ⟨data, handed⟩ : ∃ data, .reflectorAMBE .dcs data ∈ emitted := by
      by_contra none
      refine forEach_outputs (P := fun o => o ≠ .handler .dcs r (.ambe sent)) ?_ _ _ forwarded rfl
      rintro t o handed _ put rfl
      exact forward_mute (fun data same => none ⟨data, same ▸ handed⟩) t sent put
    obtain ⟨type, links, env, after, event, rfl, rest⟩ := GroupHandler.voice_outs turn handed
    simp only [forEach, forEach_undirected rest, List.append_nil] at forwarded
    obtain ⟨h, entry, writes, calls⟩ := writeAMBE_sent forwarded
    cases input with
    | g2AMBE env' data' =>
        cases event
        exact ⟨i, env, data, h, rfl, links, type.symm, entry, writes, calls⟩
    | g2Header _ _ | logoffUser _ | clock _ _ => cases event
  · exact absurd member ((plain_step taken fun j input same => own ⟨j, input, same⟩).mute r sent)

/-! The stream that a frame belongs to. -/

/-- The header with which the group opens a stream in this step. -/
def openingHeader (i : Fin n) (x : LinkEntry n) : Option HeaderData :=
  match x.event with
  | .group j (.g2Header _ header) =>
      if j = i ∧ (x.pre.groups i).Accepts header ∧ (x.pre.groups i).Opens header then some header
      else none
  | _ => none

/-- After this step the group has another stream than the header's. -/
def Leaves (i : Fin n) (header : HeaderData) (x : LinkEntry n) : Prop :=
  (x.post.groups i).id ≠ header.getId ∨ (openingHeader i x).isSome

/-- The header opened the current stream of the group. -/
def StreamOf (i : Fin n) (header : HeaderData) (tr : List (LinkEntry n)) : Prop :=
  Since (fun x => openingHeader i x = some header) (Leaves i header) tr

/-- The header opens a stream of a group that is linked to a DCS reflector, and the
handler of the link can write. -/
def Noted (i : Fin n) (r : Nat) (header : HeaderData) (x : LinkEntry n) : Prop :=
  openingHeader i x = some header ∧ (x.pre.groups i).TellsLink header ∧
    (x.pre.groups i).linkType = .dcs ∧ ∃ e ∈ x.pre.dcs.entries, e.1 = r ∧ e.2.Writes i .outgoing

/-- The same handler was linked and free when the current stream of the group was opened. -/
def StreamNoted (i : Fin n) (r : Nat) (header : HeaderData) (tr : List (LinkEntry n)) : Prop :=
  Since (Noted i r header) (Leaves i header) tr

/-- Each voice frame that a DCS handler sends is a frame of a user, and carries the
callsigns of the header that opened its stream. -/
def Identified (tr : List (LinkEntry n)) (x : LinkEntry n) : Prop :=
  ∀ r sent, .handler .dcs r (.ambe sent) ∈ x.outs → ∃ i env data header,
    x.event = .group i (.g2AMBE env data) ∧ StreamOf i header tr ∧ sent.getId = header.getId ∧
      sent.header.myCall1 = padTo longCallsignLength header.myCall1 ∧
      sent.header.myCall2 = padTo shortCallsignLength header.myCall2

/-- A handler that is to send the frame of this step could take the header of its stream. -/
def FrameNoted (tr : List (LinkEntry n)) : LinkEntry n → Prop
  | ⟨w, .group i (.g2AMBE _ data), _, _⟩ =>
      (w.groups i).LinksFrame data → (w.groups i).linkType = .dcs →
        ∀ e ∈ w.dcs.entries, e.2.Writes i .outgoing → ∃ header, StreamNoted i e.1 header tr
  | _ => True

theorem links_frame_iff (g : GroupHandler) :
    (∃ tx, g.Pending g.id tx ∧ ¬tx.login) ↔ ∃ tx ∈ g.ids[g.id]?.join, ¬tx.login := by
  simp only [GroupHandler.Pending, Option.mem_def, Option.join_eq_some_iff]

instance (g : GroupHandler) (data : AMBEData) : Decidable (g.LinksFrame data) :=
  have := decidable_of_iff _ (links_frame_iff g).symm
  inferInstanceAs (Decidable (_ ∧ _ ∧ _ ∧ _))

instance (g : GroupHandler) (header : HeaderData) : Decidable (g.TellsLink header) :=
  inferInstanceAs (Decidable (_ ∧ _ ∧ _))

instance (i : Fin n) (header : HeaderData) : DecidablePred (Leaves i header) :=
  fun _ => inferInstanceAs (Decidable (_ ∨ _))

instance (i : Fin n) (r : Nat) (header : HeaderData) : DecidablePred (Noted i r header) :=
  fun _ => inferInstanceAs (Decidable (_ ∧ _ ∧ _ ∧ ∃ e ∈ _, _ ∧ _))

instance (i : Fin n) (r : Nat) (header : HeaderData) : DecidablePred (StreamNoted (n := n) i r header) :=
  fun tr => decidableSince _ _ tr

/-- Only the headers of the run can open its stream. -/
theorem streamNoted_iff (i : Fin n) (r : Nat) (tr : List (LinkEntry n)) :
    (∃ header, StreamNoted i r header tr) ↔
      ∃ header ∈ tr.filterMap (openingHeader i), StreamNoted i r header tr := by
  constructor
  · rintro ⟨header, before, x, after, rfl, starts, rest⟩
    exact ⟨header, List.mem_filterMap.mpr ⟨x, by simp, starts.1⟩, before, x, after, rfl, starts, rest⟩
  · rintro ⟨header, -, noted⟩
    exact ⟨header, noted⟩

instance (tr : List (LinkEntry n)) : DecidablePred (FrameNoted tr)
  | ⟨_, .group i (.g2AMBE _ _), _, _⟩ =>
      have (r : Nat) := decidable_of_iff _ (streamNoted_iff i r tr).symm
      inferInstanceAs (Decidable (_ → _ → ∀ e ∈ _, _ → _))
  | ⟨_, .group _ (.g2Header _ _), _, _⟩ | ⟨_, .group _ (.logoffUser _), _, _⟩
  | ⟨_, .group _ (.clock _ _), _, _⟩ | ⟨_, .dextra _, _, _⟩ | ⟨_, .dcs _, _, _⟩
  | ⟨_, .remoteLink _ _ _ _, _, _⟩ | ⟨_, .remoteUnlink _ _, _, _⟩ => isTrue trivial

theorem openingHeader_eq_some {header : HeaderData} {x : LinkEntry n} :
    openingHeader i x = some header ↔ (∃ env, x.event = .group i (.g2Header env header)) ∧
      (x.pre.groups i).Accepts header ∧ (x.pre.groups i).Opens header := by
  unfold openingHeader
  constructor
  · intro opened
    split at opened
    · rename_i env header' event
      split at opened
      · rename_i meets
        cases opened
        exact ⟨⟨env, meets.1 ▸ event⟩, meets.2⟩
      · cases opened
    · cases opened
  · rintro ⟨⟨env, event⟩, accepted, opens⟩
    simp only [event, accepted, opens, and_self, if_true]

/-- The id of the header becomes the id of the group's stream. -/
theorem opened_id {header : HeaderData} (opened : openingHeader i ⟨w, e, outs, w'⟩ = some header)
    (taken : w.step e = .ok (w', outs)) : (w'.groups i).id = header.getId := by
  obtain ⟨⟨env, rfl⟩, accepted, opens⟩ := openingHeader_eq_some.mp opened
  obtain ⟨emitted, turn⟩ := stepGroup_group taken
  generalize w'.groups i = g' at turn
  cases GroupHandler.step_case turn with
  | refused _ _ refuses => exact absurd accepted refuses
  | opened _ _ islogin g₁ _ _ _ => rfl
  | recorded _ _ _ _ _ closed _ => exact absurd opens closed

theorem StreamNoted.streamOf {header : HeaderData} {tr : List (LinkEntry n)}
    (noted : StreamNoted i r header tr) : StreamOf i header tr := by
  obtain ⟨before, x, after, split, starts, rest⟩ := noted
  exact ⟨before, x, after, split, starts.1, rest⟩

theorem StreamOf.id {header : HeaderData} {t : World n} {tr : List (LinkEntry n)}
    (stream : StreamOf i header tr) (run : Run step w tr t) : (t.groups i).id = header.getId := by
  cases run with
  | nil => exact absurd stream (since_nil _ _)
  | snoc earlier last =>
      rcases (since_snoc _ _ _ _).mp stream with opened | ⟨-, stays⟩
      · exact opened_id opened last
      · exact not_not.mp (not_or.mp stays).1

theorem Noted.named {header : HeaderData} (noted : Noted i r header ⟨w, e, outs, w'⟩)
    (taken : w.step e = .ok (w', outs)) : w'.Named r i (header.myCall1, header.myCall2) := by
  obtain ⟨opened, tells, type, ⟨r, h⟩, member, rfl, writes⟩ := noted
  obtain ⟨⟨env, rfl⟩, accepted, opens⟩ := openingHeader_eq_some.mp opened
  exact opened_named accepted opens tells type member writes taken

/-- The handler keeps the callsigns of the header while its stream lasts. -/
theorem StreamNoted.named {header : HeaderData} {t : World n} {tr : List (LinkEntry n)}
    (stream : StreamNoted i r header tr) (run : Run step w tr t) :
    t.Named r i (header.myCall1, header.myCall2) := by
  induction run with
  | nil => exact absurd stream (since_nil _ _)
  | snoc earlier last ih =>
      rcases (since_snoc _ _ _ _).mp stream with noted | ⟨sofar, stays⟩
      · exact noted.named last
      · apply named_step last (ih sofar)
        intro env header' event opening
        refine (not_or.mp stays).2 (Option.isSome_iff_exists.mpr ⟨header', ?_⟩)
        exact openingHeader_eq_some.mpr ⟨⟨env, event⟩, opening⟩

/-- When every frame meets a handler that took the header of its stream, the frames on
the DCS links carry the callsigns of their own streams. -/
theorem noted_identified {t : World n} {tr : List (LinkEntry n)} (run : Run step w tr t)
    (noted : Throughout FrameNoted tr) : Throughout Identified tr := by
  intro before x after split r sent member
  have here := noted before x after split
  obtain ⟨reached, taken⟩ := run.split split
  obtain ⟨i, env, data, h, event, links, type, entry, writes, id, call1, call2⟩ :=
    frame_sent taken member
  obtain ⟨pre, e, outs, post⟩ := x
  dsimp only at event
  subst event
  obtain ⟨header, stream⟩ := here links type (r, h) entry writes
  obtain ⟨-, called⟩ := (stream.named reached).2 h entry
  obtain ⟨named1, named2⟩ := Prod.mk.inj called
  have current : data.getId = header.getId := links.1.trans (stream.streamOf.id reached)
  rw [named1] at call1
  rw [named2] at call2
  exact ⟨i, env, data, header, rfl, stream.streamOf, id.trans current, call1, call2⟩

section
open Sample

/-- The callsign in a voice frame that a DCS handler sends. -/
def sentCall : LinkOutput n → Option Str
  | .handler .dcs _ (.ambe sent) => some sent.header.myCall1
  | _ => none

theorem sentCall_eq_some {o : LinkOutput n} {call : Str} (h : sentCall o = some call) :
    ∃ r sent, o = .handler .dcs r (.ambe sent) ∧ sent.header.myCall1 = call := by
  unfold sentCall at h
  split at h
  · exact ⟨_, _, rfl, Option.some.inj h⟩
  · cases h

/-- A user talks while the group is linked. -/
theorem linked_identified : ∃ tr t, Run step server tr t ∧
    (∃ x ∈ tr, ∃ o ∈ x.outs, sentCall o = some userA) ∧ Throughout Identified tr := by
  obtain ⟨tr, t, run, accepted⟩ := exists_run_of_accepts step server
    (Sample.linkDCS ++ [.group 0 (.g2Header linkEnv (call userA smart 1)),
      .group 0 (.g2AMBE linkEnv (lastFrame 1)), .group 0 (.g2Header linkEnv (call userA smart 2)),
      .group 0 (.g2AMBE linkEnv (frame 2)), .group 0 (.g2AMBE linkEnv (lastFrame 2))])
    (fun tr _ => decide ((∃ (x : LinkEntry 1), x ∈ tr ∧
      ∃ (o : LinkOutput 1), o ∈ x.outs ∧ sentCall o = some userA) ∧ Throughout FrameNoted tr))
    (by decide +kernel)
  obtain ⟨sent, noted⟩ := of_decide_eq_true accepted
  exact ⟨tr, t, run, sent, noted_identified run noted⟩

/-- The link comes up while a user talks: the handler has seen no header. -/
theorem linked_late_blank : ∃ tr t, Run step server tr t ∧ ¬Throughout Identified tr := by
  obtain ⟨tr, t, run, accepted⟩ := exists_run_of_accepts step server
    ([.group 0 (.g2Header linkEnv (call userA smart 1)), .group 0 (.g2AMBE linkEnv (lastFrame 1)),
      .group 0 (.g2Header linkEnv (call userA smart 2))] ++ Sample.linkDCS ++
      [.group 0 (.g2AMBE linkEnv (frame 2))])
    (fun (tr : List (LinkEntry 1)) _ => decide (∃ (x : LinkEntry 1), x ∈ tr ∧
        ∃ (o : LinkOutput 1), o ∈ x.outs ∧ sentCall o = some (padTo longCallsignLength [])) &&
      decide (∀ (x : LinkEntry 1), x ∈ tr → ∀ (header : HeaderData), header ∈ openingHeader (0 : Fin 1) x →
        header.myCall1 = userA))
    (by decide +kernel)
  simp only [Bool.and_eq_true, decide_eq_true_eq] at accepted
  obtain ⟨⟨x, member, o, out, blank⟩, users⟩ := accepted
  refine ⟨tr, t, run, fun all => ?_⟩
  obtain ⟨before, after, split⟩ := List.append_of_mem member
  obtain ⟨r, sent, rfl, call⟩ := sentCall_eq_some blank
  obtain ⟨i, env, data, header, -, ⟨earlier, y, later, stream, opened, -⟩, -, call1, -⟩ :=
    all before x after split r sent out
  have user := users y (by simp [split, stream]) header (Subsingleton.elim i 0 ▸ opened)
  rw [call1, user] at call
  exact absurd call (by decide)

end

end World
end SmartGroup
