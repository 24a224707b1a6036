import SmartGroup.Link.Fits

/-! Which steps keep every group in agreement with its link handlers. -/
namespace SmartGroup
open Bytes Sweep Machine
open GroupHandler (linkingStatus linkedStatus LinkActive)

namespace World

variable {n : Nat} {w : World n}

/-- The invariant of the server. -/
def Good (w : World n) : Prop := SmartGroup.Good w.groups w.links

theorem Good.inStep_dextra (good : w.Good) {e : Nat × DExtraHandler n}
    (member : e ∈ w.dextra.entries) : InStep (w.groups e.2.destination) (e.2.link .dextra) :=
  good.held _ (List.mem_append_left _ (mem_linksOf.mpr ⟨e, member, rfl⟩))

theorem Good.inStep_dcs (good : w.Good) {e : Nat × DCSHandler n} (member : e ∈ w.dcs.entries) :
    InStep (w.groups e.2.destination) (e.2.link .dcs) :=
  good.held _ (List.mem_append_right _ (mem_linksOf.mpr ⟨e, member, rfl⟩))

theorem Good.sweepDExtra (good : w.Good)
    {f : Nat → DExtraHandler n → GroupHandler → DExtraHandler.Turn n}
    (turn : ∀ e ∈ w.dextra.entries, ∀ g, InStep g (e.2.link .dextra) →
      TurnFits DExtraHandler.toLinkHandler .dextra e.2 (f e.1 e.2 g)) : (w.sweepDExtra f).1.Good :=
  SmartGroup.Good.loop [] good turn

theorem Good.sweepDCS (good : w.Good) {f : Nat → DCSHandler n → GroupHandler → DCSHandler.Turn n}
    (turn : ∀ e ∈ w.dcs.entries, ∀ g, InStep g (e.2.link .dcs) →
      TurnFits DCSHandler.toLinkHandler .dcs e.2 (f e.1 e.2 g)) : (w.sweepDCS f).1.Good := by
  have start : SmartGroup.Good w.groups (linksOf DExtraHandler.toLinkHandler .dextra w.dextra.entries ++
      linksOf DCSHandler.toLinkHandler .dcs w.dcs.entries ++ []) := by
    rw [List.append_nil]
    exact good
  have swept := start.loop _ turn
  rwa [List.append_nil] at swept

theorem Good.firstDCS (good : w.Good) {test : DCSHandler n → Bool}
    {f : DCSHandler n → GroupHandler → DCSHandler.Turn n}
    (keeps : ∀ h g, Keeps DCSHandler.toLinkHandler h g (f h g)) : (w.firstDCS test f).1.Good := by
  unfold World.firstDCS
  split
  · exact good
  · apply good.sweepDCS
    intro e _ g step
    split
    · exact (keeps e.2 g).fits step
    · exact (Keeps.refl _ e.2 g).fits step

theorem Good.forward (good : w.Good) (i : Fin n) (out : Output) : (forward i w out).1.Good := by
  unfold World.forward
  split
  · exact good.sweepDExtra fun e _ g step => (e.2.keeps_writeHeader g i _ _).fits step
  · exact good.sweepDCS fun e _ g step => (e.2.keeps_writeHeader g i _ _).fits step
  · exact good.sweepDExtra fun e _ g step => (e.2.keeps_writeAMBE g i _ _).fits step
  · exact good.sweepDCS fun e _ g step => (e.2.keeps_writeAMBE g i _ _).fits step
  · exact good

theorem GroupInput.event_ne_relink (input : GroupInput) (info : LinkInfo) :
    input.event ≠ .relink info := by
  cases input <;> simp [GroupInput.event]

theorem Good.stepGroup {w' : World n} {i : Fin n} {input : GroupInput} {outs : List (LinkOutput n)}
    (good : w.Good) (h : w.stepGroup i input = .ok (w', outs)) : w'.Good := by
  obtain ⟨g, emitted, taken, rfl, -⟩ := stepGroup_ok h
  have info := (GroupHandler.frame_step taken (GroupInput.event_ne_relink input)).info
  have group : (w.setGroup i g).Good := by
    apply SmartGroup.Good.congr good
    intro j
    by_cases here : j = i
    · subst here
      simpa only [setGroup, Function.update_self] using info
    · simp only [setGroup, Function.update_of_ne here]
  exact forEach_invariant (I := World.Good) (fun w out _ good => good.forward i out) group

theorem Good.stepDExtra (good : w.Good) {input : DExtraInput} (spared : ¬w.Skews (.dextra input)) :
    (w.stepDExtra input).1.Good := by
  cases input with
  | header env header =>
      apply good.sweepDExtra
      intro e _ g step
      split
      · exact (e.2.keeps_processHeader g env header).fits step
      · exact (Keeps.refl _ e.2 g).fits step
  | ambe env data =>
      apply good.sweepDExtra
      intro e _ g step
      split
      · exact (e.2.keeps_processAMBE g env data).fits step
      · exact (Keeps.refl _ e.2 g).fits step
  | poll poll => exact good.sweepDExtra fun e _ g step => (e.2.keeps_processPoll g poll).fits step
  | connect c =>
      refine good.sweepDExtra fun e member g step => DExtraHandler.fits_processConnect step ?_
      exact fun unlink waiting => spared ⟨unlink, e, member, waiting⟩
  | clock ms =>
      exact good.sweepDExtra fun e _ g step => (e.2.clockInt_case g w.callsign ms).fits step

theorem Good.stepDCS (good : w.Good) {input : DCSInput} (spared : ¬w.Skews (.dcs input)) :
    (w.stepDCS input).1.Good := by
  cases input with
  | ambe env data => exact good.firstDCS fun h g => h.keeps_processAMBE g env data
  | poll poll => exact good.firstDCS fun h g => h.keeps_processPoll g poll
  | connect c =>
      refine good.sweepDCS fun e member g step => DCSHandler.fits_processConnect step ?_
      exact fun unlink waiting => spared ⟨unlink, e, member, waiting⟩
  | clock ms => exact good.sweepDCS fun e _ g step => (e.2.clockInt_case g ms).fits step

/-! New links. -/

/-- No handler points to the group. -/
def Free (w : World n) (i : Fin n) : Prop := ∀ k ∈ w.links, k.destination ≠ i

theorem Good.setGroup (good : w.Good) {i : Fin n} {g : GroupHandler} (free : w.Free i)
    (none : g.linkStatus = .none) : (w.setGroup i g).Good := good.update free none

theorem Good.linkDExtra (good : w.Good) {i : Fin n} (free : w.Free i) {g : GroupHandler}
    {request : LinkRequest} (type : g.linkType = .dextra) (reflector : g.linkReflector = request.reflector)
    (status : g.linkStatus = linkingStatus .dextra) (port : Nat) :
    ((w.setGroup i g).linkDExtra i request (some port)).1.Good := by
  have inserted := SmartGroup.Good.insert good
    (k := ⟨.dextra, i, .outgoing, request.reflector, .linking⟩) free ⟨rfl, .inl rfl, type, reflector, status⟩
  have links : ((w.setGroup i g).linkDExtra i request (some port)).1.links =
      linksOf DExtraHandler.toLinkHandler .dextra w.dextra.entries ++
        ⟨.dextra, i, .outgoing, request.reflector, .linking⟩ ::
          linksOf DCSHandler.toLinkHandler .dcs w.dcs.entries := by
    simp only [World.linkDExtra, World.setGroup, World.links, linksOf, Registry.add, List.map_append,
      List.append_assoc]
    rfl
  unfold World.Good
  rw [links]
  exact inserted

theorem Good.linkDCS (good : w.Good) {i : Fin n} (free : w.Free i) {g : GroupHandler}
    {request : LinkRequest} (type : g.linkType = .dcs) (reflector : g.linkReflector = request.reflector)
    (status : g.linkStatus = linkingStatus .dcs) (port : Nat) :
    ((w.setGroup i g).linkDCS i request (some port)).1.Good := by
  have quiet : ¬(w.setGroup i g).Busy i := by
    rintro ⟨e, member, -, here, -⟩
    exact free _ (List.mem_append_right _ (mem_linksOf.mpr ⟨e, member, rfl⟩)) here
  have unlinked : SmartGroup.Good w.groups (w.links ++ []) := by
    rw [List.append_nil]
    exact good
  have inserted := unlinked.insert (k := ⟨.dcs, i, .outgoing, request.reflector, .linking⟩)
    (by rw [List.append_nil]; exact free) ⟨rfl, .inl rfl, type, reflector, status⟩
  unfold World.linkDCS
  rw [if_neg quiet]
  have links (h : DCSHandler n) : World.links { w.setGroup i g with dcs := w.dcs.add h } =
      w.links ++ [h.link .dcs] := by
    simp only [World.setGroup, World.links, linksOf, Registry.add, List.map_append, List.append_assoc]
    rfl
  unfold World.Good
  exact links (.new i request.reflector request.repeater request.address port) ▸ inserted

/-- `linkInt` for a group without a handler. -/
theorem Good.linkInt (good : w.Good) {i : Fin n} {g : GroupHandler} (env : Env) {port : Option Nat}
    (free : w.Free i) (idle : g.linkStatus = .none) (opens : port.isSome) :
    (w.request i (g.linkInt env) port).1.Good := by
  obtain ⟨port, rfl⟩ := Option.isSome_iff_exists.mp opens
  unfold GroupHandler.linkInt
  by_cases unset : g.linkType = .none
  · rw [if_pos unset]
    exact good.setGroup free idle
  · rw [if_neg unset]
    dsimp only
    split
    · exact good.setGroup free idle
    · cases type : g.linkType with
      | none => exact absurd type unset
      | dextra => exact good.linkDExtra free rfl rfl rfl port
      | dcs => exact good.linkDCS free rfl rfl rfl port

/-- A link command adds no link but one of its group. -/
theorem of_mem_links_request {i : Fin n} {result : Bool × GroupHandler × Option LinkRequest}
    {port : Option Nat} {k : Link n} (member : k ∈ (w.request i result port).1.links) :
    k ∈ w.links ∨ k.destination = i := by
  unfold request at member
  split at member
  · exact .inl member
  · rename_i request _
    split at member
    · cases port with
      | none => exact .inl member
      | some port =>
          simp only [World.linkDExtra, World.setGroup, World.links, linksOf, Registry.add,
            List.map_append, List.mem_append, List.map_cons, List.map_nil, List.mem_singleton] at member
          rcases member with (old | rfl) | other
          · exact .inl (List.mem_append_left _ old)
          · exact .inr rfl
          · exact .inl (List.mem_append_right _ other)
    · unfold World.linkDCS at member
      cases port with
      | none =>
          dsimp only at member
          split at member <;> exact .inl member
      | some port =>
          dsimp only at member
          split at member
          · exact .inl member
          · simp only [World.setGroup, World.links, linksOf, Registry.add, List.map_append,
              List.mem_append, List.map_cons, List.map_nil, List.mem_singleton] at member
            rcases member with other | old | rfl
            · exact .inl (List.mem_append_left _ other)
            · exact .inl (List.mem_append_right _ old)
            · exact .inr rfl
    · exact .inl member

/-- The server may link at start-up. -/
theorem Good.linkAll (good : w.Good) (free : ∀ i, w.Free i) {startUp : Option (StartUp n)}
    (opens : ∀ s ∈ startUp, ∀ i, (s.ports i).isSome) : (w.linkAll startUp).Good := by
  cases startUp with
  | none => exact good
  | some s =>
      have loop (l : List (Fin n)) (distinct : l.Nodup) (w : World n) (good : w.Good)
          (free : ∀ i ∈ l, w.Free i) :
          (l.foldl (fun w i => (w.request i ((w.groups i).linkInt s.env) (s.ports i)).1) w).Good := by
        induction l generalizing w with
        | nil => exact good
        | cons i l ih =>
            obtain ⟨apart, distinct⟩ := List.nodup_cons.mp distinct
            have here := free i List.mem_cons_self
            apply ih distinct _ (good.linkInt s.env here (good.idle i here) (opens s rfl i))
            intro j later k member
            rcases of_mem_links_request member with old | same
            · exact free j (List.mem_cons_of_mem i later) k old
            · rw [same]
              rintro rfl
              exact apart later
      exact loop (List.finRange n) (List.nodup_finRange n) w good fun i _ => free i

theorem good_start (configs : Fin n → GroupHandler.Config) (callsign : Str)
    {startUp : Option (StartUp n)} (opens : ∀ s ∈ startUp, ∀ i, (s.ports i).isSome) :
    (start configs callsign startUp).Good :=
  Good.linkAll ⟨by simp [boot, links, linksOf, Registry.empty], by simp [boot, links, linksOf, Registry.empty],
    fun _ _ => rfl⟩ (fun i => by simp [Free, boot, links, linksOf, Registry.empty]) opens

theorem Good.free_of_linkType (good : w.Good) {i : Fin n} (unset : (w.groups i).linkType = .none) :
    w.Free i := by
  rintro k member rfl
  exact linkType_ne_none k.protocol ((good.held k member).type.symm.trans unset)

theorem Good.remoteLink (good : w.Good) {i : Fin n} (env : Env) (reflector : Str) {port : Option Nat}
    (opens : port.isSome) : (w.request i ((w.groups i).remoteLink env reflector) port).1.Good := by
  have same : (w.setGroup i (w.groups i)).Good := by
    unfold World.setGroup
    rw [Function.update_eq_self]
    exact good
  unfold GroupHandler.remoteLink
  split
  · exact same
  · rename_i unset
    split
    · exact same
    · have free := good.free_of_linkType (not_not.mp unset)
      exact good.linkInt env free (good.idle i free) opens

/-! Unlink commands. -/

theorem unlink_some {env : Env} {group : Fin n} {callsign : Str} {exclude : Bool}
    {h h' : DExtraHandler n} {g : GroupHandler}
    (left : (h.unlink env group callsign exclude g).2.1 = some h') :
    ¬h.Selected group callsign exclude ∧ h' = h := by
  unfold DExtraHandler.unlink at left
  split at left
  · cases left
  · rename_i other
    exact ⟨other, (Option.some.inj left).symm⟩

/-- The type of the link tells the protocol of the handlers. -/
theorem Good.protocol_eq (good : w.Good) {k : Link n} (member : k ∈ w.links) (protocol : DStarProtocol)
    (type : (w.groups k.destination).linkType = protocol.linkType) : k.protocol = protocol := by
  have same := (good.held k member).type.symm.trans type
  cases here : k.protocol <;> cases protocol <;> simp_all [DStarProtocol.linkType]

/-- The handlers of a DExtra link end when their group unlinks. -/
theorem Good.unlink_dextra (good : w.Good) {i : Fin n} (env : Env)
    (type : (w.groups i).linkType = .dextra) :
    (w.sweepDExtra fun _ h => h.unlink env i (w.groups i).linkReflector false).1.Good ∧
      (w.sweepDExtra fun _ h => h.unlink env i (w.groups i).linkReflector false).1.Free i := by
  constructor
  · exact good.sweepDExtra fun e _ g step => DExtraHandler.fits_unlink env i _ false step
  · intro k member here
    rcases List.mem_append.mp member with left | other
    · obtain ⟨e, member', g, h', kept, rfl⟩ := of_mem_linksOf_loop left
      obtain ⟨unselected, rfl⟩ := unlink_some kept
      have step := good.inStep_dextra member'
      refine unselected ⟨here, .inr ⟨rfl, ?_⟩⟩
      have there : e.2.destination = i := here
      rw [← there]
      exact step.reflector.symm
    · have protocol := good.protocol_eq (k := k) (List.mem_append_right _ other) .dextra (here ▸ type)
      obtain ⟨e, -, rfl⟩ := mem_linksOf.mp other
      cases protocol

/-- A DCS link is spared when its group has none that is still up. -/
theorem Good.unlink_dcs (good : w.Good) {i : Fin n} {env : Env}
    (spared : ¬w.Skews (.remoteUnlink i env)) (type : (w.groups i).linkType = .dcs) :
    (w.sweepDCS fun _ h => h.unlink env i (w.groups i).linkReflector false).1.Good ∧
      (w.sweepDCS fun _ h => h.unlink env i (w.groups i).linkReflector false).1.Free i := by
  have apart (e : Nat × DCSHandler n) (member : e ∈ w.dcs.entries) : e.2.destination ≠ i := by
    intro here
    have step := good.inStep_dcs member
    rw [here] at step
    refine spared ⟨type, e, member, here, step.reflector.symm, ?_⟩
    rcases step.active with linking | linked
    · exact fun unlinking => by cases linking.symm.trans unlinking
    · exact fun unlinking => by cases linked.symm.trans unlinking
  have quiet (e : Nat × DCSHandler n) (member : e ∈ w.dcs.entries) (g : GroupHandler) :
      e.2.unlink env i (w.groups i).linkReflector false g = (g, some e.2, []) :=
    if_neg fun selected => apart e member selected.1
  constructor
  · apply good.sweepDCS
    intro e member g step
    rw [quiet e member g]
    exact (Keeps.refl _ e.2 g).fits step
  · intro k member here
    rcases List.mem_append.mp member with other | left
    · have protocol := good.protocol_eq (k := k) (List.mem_append_left _ other) .dcs (here ▸ type)
      obtain ⟨e, -, rfl⟩ := mem_linksOf.mp other
      cases protocol
    · obtain ⟨e, member', g, h', kept, rfl⟩ := of_mem_linksOf_loop left
      rw [quiet e member' g] at kept
      obtain rfl := Option.some.inj kept
      exact apart e member' here

theorem Good.remoteUnlink (good : w.Good) {i : Fin n} {env : Env}
    (spared : ¬w.Skews (.remoteUnlink i env)) : (w.remoteUnlink i env).1.Good := by
  unfold World.remoteUnlink
  dsimp only
  split
  · exact good
  · rename_i type
    obtain ⟨swept, free⟩ := good.unlink_dextra env type
    exact swept.setGroup free (swept.idle i free)
  · rename_i type
    obtain ⟨swept, free⟩ := good.unlink_dcs spared type
    exact swept.setGroup free (swept.idle i free)

/-! The steps that skew a link. -/

/-- A group is left with its status, and no link but one that is unlinking. -/
structure Orphan (w : World n) (i : Fin n) : Prop where
  status : (w.groups i).linkStatus ≠ .none
  gone : ∀ k ∈ w.links, k.destination = i → k.state = .unlinking

theorem Orphan.not_agree {i : Fin n} (orphan : w.Orphan i) : ¬w.Agree i := by
  intro agree
  apply orphan.status
  apply agree.idle
  rintro k member ⟨-, here, linking | linked⟩
  · cases (orphan.gone k member here).symm.trans linking
  · cases (orphan.gone k member here).symm.trans linked

theorem Good.distinct (good : w.Good) :
    ((w.dextra.entries.map fun e => e.2.destination) ++
      w.dcs.entries.map fun e => e.2.destination).Nodup := by
  have single := good.single
  simpa [links, linksOf, LinkHandler.link, Function.comp_def] using single

theorem Good.orphan_sweepDExtra (good : w.Good) {e : Nat × DExtraHandler n}
    (member : e ∈ w.dextra.entries) {f : Nat → DExtraHandler n → GroupHandler → DExtraHandler.Turn n}
    (quiet : ∀ g, (f e.1 e.2 g).1.linkStatus = g.linkStatus)
    (gone : ∀ g h', (f e.1 e.2 g).2.1 = some h' → h'.linkState = .unlinking)
    (stays : ∀ r h g h', (f r h g).2.1 = some h' → h'.destination = h.destination) :
    (w.sweepDExtra f).1.Orphan e.2.destination := by
  obtain ⟨distinct, -, apart⟩ := List.nodup_append.mp good.distinct
  obtain ⟨status, left⟩ := orphan_loop DExtraHandler.toLinkHandler .dextra w.groups distinct member
    quiet gone stays
  refine ⟨fun none => (good.inStep_dextra member).busy (status.symm.trans none), fun k there here => ?_⟩
  rcases List.mem_append.mp there with swept | other
  · exact left k swept here
  · obtain ⟨e', member', rfl⟩ := mem_linksOf.mp other
    exact absurd here.symm (apart _ (List.mem_map_of_mem member) _ (List.mem_map_of_mem member'))

theorem Good.orphan_sweepDCS (good : w.Good) {e : Nat × DCSHandler n} (member : e ∈ w.dcs.entries)
    {f : Nat → DCSHandler n → GroupHandler → DCSHandler.Turn n}
    (quiet : ∀ g, (f e.1 e.2 g).1.linkStatus = g.linkStatus)
    (gone : ∀ g h', (f e.1 e.2 g).2.1 = some h' → h'.linkState = .unlinking)
    (stays : ∀ r h g h', (f r h g).2.1 = some h' → h'.destination = h.destination) :
    (w.sweepDCS f).1.Orphan e.2.destination := by
  obtain ⟨-, distinct, apart⟩ := List.nodup_append.mp good.distinct
  obtain ⟨status, left⟩ := orphan_loop DCSHandler.toLinkHandler .dcs w.groups distinct member
    quiet gone stays
  refine ⟨fun none => (good.inStep_dcs member).busy (status.symm.trans none), fun k there here => ?_⟩
  rcases List.mem_append.mp there with other | swept
  · obtain ⟨e', member', rfl⟩ := mem_linksOf.mp other
    exact absurd here (apart _ (List.mem_map_of_mem member') _ (List.mem_map_of_mem member))
  · exact left k swept here

theorem dextra_connect_destination (c : ConnectData) (h : DExtraHandler n) (g : GroupHandler)
    (h' : DExtraHandler n) (left : (h.processConnect c g).2.1 = some h') :
    h'.destination = h.destination := by
  unfold DExtraHandler.processConnect at left
  split at left
  · cases left
    rfl
  · repeat' split at left
    all_goals first
      | cases left; rfl
      | cases left

theorem dcs_connect_destination (c : ConnectData) (h : DCSHandler n) (g : GroupHandler)
    (h' : DCSHandler n) (left : (h.processConnect c g).2.1 = some h') :
    h'.destination = h.destination := by
  unfold DCSHandler.processConnect at left
  repeat' split at left
  all_goals first
    | cases left; rfl
    | cases left

/-- An unlinked DCS handler stays, and its group keeps its status. -/
theorem unlink_turn (env : Env) {group : Fin n} {callsign : Str} {h : DCSHandler n}
    (selected : h.Selected group callsign false) (active : h.Active) (g : GroupHandler) :
    (h.unlink env group callsign false g).1.linkStatus = g.linkStatus ∧
      ∀ h', (h.unlink env group callsign false g).2.1 = some h' → h'.linkState = .unlinking := by
  unfold DCSHandler.unlink
  rw [if_pos selected]
  simp only [active, if_true]
  constructor
  · exact h.endOfTransmission_linkStatus env g
  · intro h' left
    cases left
    rfl

theorem unlink_destination (env : Env) (group : Fin n) (callsign : Str) (exclude : Bool)
    (h : DCSHandler n) (g : GroupHandler) (h' : DCSHandler n)
    (left : (h.unlink env group callsign exclude g).2.1 = some h') : h'.destination = h.destination := by
  unfold DCSHandler.unlink at left
  split at left
  · cases left
    split <;> rfl
  · cases left
    rfl

theorem Good.skews (good : w.Good) {w' : World n} {e : LinkEvent n} {outs : List (LinkOutput n)}
    (skews : w.Skews e) (taken : w.step e = .ok (w', outs)) : ∃ i, ¬w'.Agree i := by
  have result {p : Result n} {i : Fin n} (orphan : p.1.Orphan i)
      (same : Except.ok (ε := Fault) p = .ok (w', outs)) : ∃ i, ¬w'.Agree i := by
    rw [Except.ok.inj same] at orphan
    exact ⟨i, orphan.not_agree⟩
  unfold Skews at skews
  split at skews
  · rename_i i env
    obtain ⟨type, e, member, rfl, reflector, state⟩ := skews
    have selected : e.2.Selected e.2.destination (w.groups e.2.destination).linkReflector false :=
      ⟨rfl, .inr ⟨rfl, reflector⟩⟩
    have active : e.2.Active := (good.inStep_dcs member).active
    have orphan := good.orphan_sweepDCS member
      (f := fun _ h => h.unlink env e.2.destination (w.groups e.2.destination).linkReflector false)
      (fun g => (unlink_turn env selected active g).1) (fun g => (unlink_turn env selected active g).2)
      (fun _ h g => unlink_destination env _ _ false h g)
    refine result (p := w.remoteUnlink e.2.destination env) (i := e.2.destination) ?_ taken
    unfold World.remoteUnlink
    simp only [type]
    refine ⟨?_, orphan.gone⟩
    simpa only [World.setGroup, Function.update_self, GroupHandler.clearLink] using orphan.status
  · rename_i c
    obtain ⟨type, e, member, sender, name, linking⟩ := skews
    have dropped (g : GroupHandler) : e.2.processConnect c g = (g, none, []) := by
      simp [DExtraHandler.processConnect, sender, type, name, linking]
    refine result (p := w.stepDExtra (.connect c)) (good.orphan_sweepDExtra member ?_ ?_ ?_) taken
    · exact fun g => congrArg (fun t => t.1.linkStatus) (dropped g)
    · exact fun g h' left => by simp [dropped] at left
    · exact fun _ h g h' left => dextra_connect_destination c h g h' left
  · rename_i c
    obtain ⟨type, e, member, ⟨sender, port⟩, name, linking⟩ := skews
    have dropped (g : GroupHandler) : e.2.processConnect c g = (g, none, []) := by
      simp [DCSHandler.processConnect, sender, port, type, name, linking]
    refine result (p := w.stepDCS (.connect c)) (good.orphan_sweepDCS member ?_ ?_ ?_) taken
    · exact fun g => congrArg (fun t => t.1.linkStatus) (dropped g)
    · exact fun g h' left => by simp [dropped] at left
    · exact fun _ h g h' left => dcs_connect_destination c h g h' left
  · exact skews.elim

/-- The invariant is agreement. -/
theorem Good.agree (good : w.Good) (i : Fin n) : w.Agree i := by
  have serves {k : Link n} (member : k ∈ w.links) (here : k.destination = i) : k.Serves i :=
    ⟨(good.held k member).outgoing, here, (good.held k member).active⟩
  have status_iff {status : LinkStatus} (busy : status ≠ .none) :
      (w.groups i).linkStatus = status ↔ ∃ k ∈ w.links, k.destination = i ∧ k.status = status := by
    constructor
    · intro same
      by_contra absent
      refine busy (same.symm.trans (good.idle i fun k member here => absent ⟨k, member, here, ?_⟩))
      subst here
      exact (good.held k member).status.symm.trans same
    · rintro ⟨k, member, rfl, same⟩
      exact (good.held k member).status.trans same
  constructor
  · intro protocol
    rw [status_iff (by cases protocol <;> decide)]
    refine exists_congr fun k => and_congr_right fun member => ?_
    have held := good.held k member
    rw [status_eq_linking_iff held.active]
    exact ⟨fun h => ⟨h.2.1, held.outgoing, h.1, h.2.2⟩, fun h => ⟨h.2.2.1, h.1, h.2.2.2⟩⟩
  · intro protocol
    rw [status_iff (by cases protocol <;> decide)]
    refine exists_congr fun k => and_congr_right fun member => ?_
    have held := good.held k member
    rw [status_eq_linked_iff held.active]
    exact ⟨fun h => ⟨h.2.1, held.outgoing, h.1, h.2.2⟩, fun h => ⟨h.2.2.1, h.1, h.2.2.2⟩⟩
  · have same : (w.links.filter (·.Serves i)).map Link.destination =
        List.replicate (w.links.filter (·.Serves i)).length i := by
      rw [List.eq_replicate_iff]
      refine ⟨List.length_map _, fun j member => ?_⟩
      obtain ⟨k, served, rfl⟩ := List.mem_map.mp member
      exact (of_decide_eq_true (List.mem_filter.mp served).2).2.1
    have distinct := good.single.sublist (List.filter_sublist (p := (·.Serves i)).map Link.destination)
    exact List.nodup_replicate.mp (same ▸ distinct)
  · intro none
    exact good.idle i fun k member here => none k member (serves member here)

/-- A step that skews no link keeps the invariant. -/
theorem Good.step {w' : World n} {e : LinkEvent n} {outs : List (LinkOutput n)} (good : w.Good)
    (opens : w.SocketOpens e) (spared : ¬w.Skews e) (taken : w.step e = .ok (w', outs)) : w'.Good := by
  have result {p : Result n} (kept : p.1.Good) (same : Except.ok (ε := Fault) p = .ok (w', outs)) :
      w'.Good := by
    rw [Except.ok.inj same] at kept
    exact kept
  cases e with
  | group i input => exact good.stepGroup taken
  | dextra input => exact result (good.stepDExtra spared) taken
  | dcs input => exact result (good.stepDCS spared) taken
  | remoteLink i env reflector port => exact result (good.remoteLink env reflector opens) taken
  | remoteUnlink i env => exact result (good.remoteUnlink spared) taken

/-- Groups and handlers agree when the server starts, and in every state of a run with
open sockets exactly when no step of the run skews a link. -/
theorem agree_iff (configs : Fin n → GroupHandler.Config) (callsign : Str)
    {startUp : Option (StartUp n)} (opens : ∀ s ∈ startUp, ∀ i, (s.ports i).isSome) {w : World n}
    {tr : List (LinkEntry n)} (run : Run step (start configs callsign startUp) tr w)
    (sockets : Under SocketOpens tr) :
    (∀ i, (start configs callsign startUp).Agree i) ∧
      ((∀ x ∈ tr, ∀ i, x.post.Agree i) ↔ Under (fun w e => ¬w.Skews e) tr) := by
  have good := good_start configs callsign opens
  refine ⟨good.agree, run.forall_iff (I := World.Good) good ?_ ?_ sockets⟩
  · intro w e w' o good opens spared taken
    have kept := good.step opens spared taken
    exact ⟨kept, kept.agree⟩
  · intro w e w' o good _ skews taken agrees
    obtain ⟨i, apart⟩ := good.skews (not_not.mp skews) taken
    exact apart (agrees i)

/-- A DExtra link is requested, accepted, unlinked and followed by a DCS link that is refused. -/
theorem two_links_agree :
    ∃ tr w, Run step Sample.server tr w ∧ tr.length = 5 ∧ ∀ x ∈ tr, ∀ i, x.post.Agree i := by
  obtain ⟨tr, w, run, checked⟩ := exists_run_of_accepts step Sample.server
    [.remoteLink 0 Sample.linkEnv Sample.dextraReflector (some 40001),
      Sample.dextraPacket .ack (str "SMART1 A"), .remoteUnlink 0 Sample.linkEnv,
      .remoteLink 0 Sample.linkEnv Sample.dcsReflector (some 40001),
      Sample.dcsPacket .nak (str "SMART1 A")]
    (fun tr _ => decide (tr.length = 5) && decide (Under SocketOpens tr) &&
      decide (Under (fun w e => ¬Skews w e) tr)) (by decide +kernel)
  simp only [Bool.and_eq_true, decide_eq_true_eq] at checked
  exact ⟨tr, w, run, checked.1.1,
    (agree_iff (fun _ => Sample.config) (str "SMART1  ") (by simp) run checked.1.2).2.mpr checked.2⟩

/-- A DCS link is unlinked: the group still has the status of the link. -/
theorem unlinked_keeps_status :
    ∃ tr w, Run step Sample.server tr w ∧ Under SocketOpens tr ∧
      (w.groups 0).linkStatus = .linkedDcs ∧ ¬∀ x ∈ tr, ∀ i, x.post.Agree i := by
  obtain ⟨tr, w, run, checked⟩ := exists_run_of_accepts step Sample.server
    (Sample.linkDCS ++ [.remoteUnlink 0 Sample.linkEnv])
    (fun tr w => decide (Under SocketOpens tr) && decide ((w.groups 0).linkStatus = .linkedDcs) &&
      decide (∃ x ∈ tr, (x.post.groups 0).linkStatus ≠ .none ∧
        ∀ k ∈ x.post.links, k.state = .unlinking)) (by decide +kernel)
  simp only [Bool.and_eq_true, decide_eq_true_eq] at checked
  obtain ⟨⟨sockets, status⟩, x, member, left, gone⟩ := checked
  refine ⟨tr, w, run, sockets, status, fun agrees => ?_⟩
  exact Orphan.not_agree ⟨left, fun k there _ => gone k there⟩ (agrees x member 0)

end World
end SmartGroup
