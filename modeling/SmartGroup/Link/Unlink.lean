import SmartGroup.Link.HandlerRule
import SmartGroup.Link.Turns

/-! Unlinking a DCS reflector. The handler stays in the list until the reflector answers
or its poll timer expires; the group decides then whether it links again. -/
namespace SmartGroup
open Bytes Sweep Machine

/-- What a turn may not do to an unlinking handler. -/
def TurnSpares {n : Nat} (h : DCSHandler n) (turn : DCSHandler.Turn n) : Prop :=
  h.linkState = .unlinking →
    (∀ h', turn.2.1 = some h' → h'.linkState = .unlinking) ∧
      ∀ c, .connect c ∈ turn.2.2 → c.type ≠ .link1

theorem Keeps.spares {n : Nat} {h : DCSHandler n} {g : GroupHandler} {turn : DCSHandler.Turn n}
    (keeps : Keeps DCSHandler.toLinkHandler h g turn) : TurnSpares h turn := by
  intro unlinking
  obtain ⟨h', left, same⟩ := keeps.link
  constructor
  · intro h'' left'
    rw [left, Option.some.injEq] at left'
    subst left'
    exact (congrArg Link.state (same .dcs)).trans unlinking
  · intro c called type
    have linking := keeps.calls c called type
    rw [unlinking] at linking
    cases linking

namespace World

variable {n : Nat}

/-- The state in which `CDCSHandler::unlink` leaves a handler. -/
def Unlinking (r : Nat) (w : World n) : Prop :=
  ∃ e ∈ w.dcs.entries, e.1 = r ∧ e.2.linkState = .unlinking

instance (r : Nat) (w : World n) : Decidable (w.Unlinking r) :=
  inferInstanceAs (Decidable (∃ e ∈ w.dcs.entries, _ ∧ _))

/-- Every handler that `CDCSHandler::unlink` selects is unlinking after it. -/
theorem unlink_unlinking (w : World n) (env : Env) (group : Fin n) (callsign : Str) (exclude : Bool)
    {r : Nat} {h : DCSHandler n} (member : (r, h) ∈ w.dcs.entries)
    (selected : h.Selected group callsign exclude) :
    (w.sweepDCS fun _ h => h.unlink env group callsign exclude).1.Unlinking r := by
  obtain ⟨gs, -, left⟩ := Registry.mem_loop_of_mem (J := fun _ => True) (s := w.groups)
    (f := visit (·.destination) fun _ h => h.unlink env group callsign exclude)
    (fun _ _ _ _ => trivial) trivial member
  obtain ⟨h', kept, unlinking⟩ : ∃ h', (h.unlink env group callsign exclude (gs h.destination)).2.1 =
      some h' ∧ h'.linkState = .unlinking := by
    unfold DCSHandler.unlink
    rw [if_pos selected]
    refine ⟨_, rfl, ?_⟩
    by_cases active : h.Active
    · rw [if_pos active]
      rfl
    · rw [if_neg active]
      unfold LinkHandler.Active at active
      cases state : h.linkState <;> simp_all
  exact ⟨(r, h'), left h' kept, rfl, unlinking⟩

/-- The events that end an unlinking: a NAK or UNLINK of the reflector and the expiry of
the poll timer. -/
def Ends (h : DCSHandler n) : LinkEvent n → Prop
  | .dcs (.connect c) =>
      (h.From c ∧ h.myPort = c.myPort) ∧
        (c.type = .nak ∧ h.repeater = c.repeater ∨ c.type = .unlink ∧ h.reflector = c.repeater)
  | .dcs (.clock ms) => h.pollInactivityTimer.fires ms
  | _ => False

/-- In this step the handler does not link again, sends no `CT_LINK1`, and is removed
where the unlinking ends. -/
structure StaysUnlinked (r : Nat) (x : LinkEntry n) : Prop where
  state : ∀ h, (r, h) ∈ x.post.dcs.entries → h.linkState = .unlinking
  silent : ∀ c, .handler .dcs r (.connect c) ∈ x.outs → c.type ≠ .link1
  removed : ∀ h, (r, h) ∈ x.pre.dcs.entries → Ends h x.event → ∀ h', (r, h') ∉ x.post.dcs.entries

/-- The poll timer of the unlinking handler expires while its group has an active link status. -/
def Relinks (r : Nat) (w : World n) : LinkEvent n → Prop
  | .dcs (.clock ms) => ∃ e ∈ w.dcs.entries, e.1 = r ∧ e.2.linkState = .unlinking ∧
      e.2.direction = .outgoing ∧ e.2.pollInactivityTimer.fires ms ∧
      GroupHandler.LinkActive (w.groups e.2.destination).linkStatus
  | _ => False

instance (r : Nat) (w : World n) : (e : LinkEvent n) → Decidable (Relinks r w e)
  | .dcs (.clock _) => inferInstanceAs (Decidable (∃ e ∈ w.dcs.entries, _ ∧ _ ∧ _ ∧ _ ∧ _))
  | .dcs (.ambe _ _) => inferInstanceAs (Decidable False)
  | .dcs (.poll _) => inferInstanceAs (Decidable False)
  | .dcs (.connect _) => inferInstanceAs (Decidable False)
  | .group _ _ => inferInstanceAs (Decidable False)
  | .dextra _ => inferInstanceAs (Decidable False)
  | .remoteLink _ _ _ _ => inferInstanceAs (Decidable False)
  | .remoteUnlink _ _ => inferInstanceAs (Decidable False)

/-! Parts of a step that keep the handler unlinking. -/

/-- The handler is unlinking or removed; its reference is not given out again. -/
def Retired (r : Nat) (w : World n) : Prop :=
  r < w.dcs.next ∧ ∀ h, (r, h) ∈ w.dcs.entries → h.linkState = .unlinking

theorem Unlinking.retired {r : Nat} {w : World n} (unlinking : w.Unlinking r) : w.Retired r := by
  obtain ⟨⟨r, h⟩, member, rfl, state⟩ := unlinking
  refine ⟨w.dcs.older _ member, fun h' member' => ?_⟩
  rw [w.dcs.unique member' member]
  exact state

def Spares (r : Nat) (w : World n) (outs : List (LinkOutput n)) (w' : World n) : Prop :=
  w.Retired r → w'.Retired r ∧ ∀ c, .handler .dcs r (.connect c) ∈ outs → c.type ≠ .link1

theorem Spares.trans {r : Nat} {w w' w'' : World n} {outs more : List (LinkOutput n)}
    (first : Spares r w outs w') (second : Spares r w' more w'') : Spares r w (outs ++ more) w'' := by
  intro retired
  obtain ⟨retired', silent⟩ := first retired
  obtain ⟨retired'', silent'⟩ := second retired'
  refine ⟨retired'', fun c called => ?_⟩
  rcases List.mem_append.mp called with before | after
  · exact silent c before
  · exact silent' c after

theorem spares_sweepDCS (r : Nat) (w : World n) (f : Nat → DCSHandler n → GroupHandler → DCSHandler.Turn n)
    (turn : ∀ r h g, TurnSpares h (f r h g)) :
    Spares r w (w.sweepDCS f).2 (w.sweepDCS f).1 := by
  intro retired
  refine ⟨⟨retired.1, fun h left => ?_⟩, fun c called => ?_⟩
  · obtain ⟨a, g, member, kept⟩ := of_mem_sweepDCS left
    exact (turn r a g (retired.2 a member)).1 h kept
  · obtain ⟨a, g, member, emitted⟩ := of_mem_sweepDCS_outs called
    exact (turn r a g (retired.2 a member)).2 c emitted

/-- A new link gets a new reference. -/
theorem spares_added (r : Nat) (w : World n) (h : DCSHandler n) :
    Spares r w [.handler .dcs w.dcs.next (.connect h.linkPacket)] { w with dcs := w.dcs.add h } := by
  intro retired
  refine ⟨⟨Nat.lt_succ_of_lt retired.1, fun h' member => ?_⟩, fun c called => ?_⟩
  · exact retired.2 h' (Registry.mem_of_mem_add retired.1 member)
  · rw [List.mem_singleton] at called
    cases called
    exact absurd retired.1 (Nat.lt_irrefl _)

theorem spares_rule (r : Nat) : HandlerRule (n := n) TurnSpares (Spares r) where
  trans := .trans
  other := by
    intro w w' outs same quiet retired
    refine ⟨?_, fun c called => absurd called (quiet r _)⟩
    rw [Retired, same]
    exact retired
  stay := fun h g => (Keeps.refl _ h g).spares
  sweep := spares_sweepDCS r
  added := spares_added r

theorem spares_unlink (env : Env) (group : Fin n) (callsign : Str) (exclude : Bool) (h : DCSHandler n)
    (g : GroupHandler) : TurnSpares h (h.unlink env group callsign exclude g) := by
  intro unlinking
  unfold DCSHandler.unlink
  split
  · have idle : ¬h.Active := by simp [LinkHandler.Active, unlinking]
    refine ⟨?_, ?_⟩
    · intro h' left
      simp only [idle, if_false, Option.some.injEq] at left
      rw [← left]
      exact unlinking
    · intro c called
      simp only [idle, if_false, List.nil_append] at called
      unfold LinkHandler.endOfTransmission at called
      split at called
      · cases called
      · exact absurd called (connect_not_mem_group c _)
  · exact (Keeps.refl _ h g).spares unlinking

theorem spares_processConnect (c : ConnectData) (h : DCSHandler n) (g : GroupHandler) :
    TurnSpares h (h.processConnect c g) := by
  intro unlinking
  have same (h' : DCSHandler n) (left : some h = some h') : h'.linkState = .unlinking :=
    Option.some.inj left ▸ unlinking
  unfold DCSHandler.processConnect
  split
  · exact ⟨same, by simp⟩
  · cases c.type with
    | ack => simp only [unlinking]; split <;> exact ⟨same, by simp⟩
    | nak => simp only [unlinking]; split <;> simp [same]
    | unlink => simp only [unlinking]; split <;> simp [same]
    | link1 => exact ⟨same, by simp⟩
    | link2 => exact ⟨same, by simp⟩

/-- Every step but a clock tick of the DCS handlers spares the handler. -/
theorem spares_step (r : Nat) {w w' : World n} {e : LinkEvent n} {outs : List (LinkOutput n)}
    (taken : w.step e = .ok (w', outs)) (other : ∀ ms, e ≠ .dcs (.clock ms)) : Spares r w outs w' := by
  by_cases own : ∃ i input, e = .group i input
  · obtain ⟨i, input, rfl⟩ := own
    refine (spares_rule r).stepGroup (fun w o => ?_) taken
    apply (spares_rule r).forward
    · exact fun header _ h g => (h.keeps_writeHeader g _ _ _).spares
    · exact fun data _ h g => (h.keeps_writeAMBE g _ _ _).spares
  · apply (spares_rule r).step taken
    · exact fun i input same => own ⟨i, input, same⟩
    · rintro input rfl
      cases input with
      | ambe env data =>
          exact (spares_rule r).firstDCS w _ fun h g => (h.keeps_processAMBE g env data).spares
      | poll poll => exact (spares_rule r).firstDCS w _ fun h g => (h.keeps_processPoll g poll).spares
      | connect c => exact spares_sweepDCS r w _ fun _ h g => spares_processConnect c h g
      | clock ms => exact absurd rfl (other ms)
    · exact fun env i callsign h g => spares_unlink env i callsign false h g

/-! The clock tick. -/

/-- The groups whose link status is active are those of `gs`. -/
def SameActive (gs gs' : Groups n) : Prop :=
  ∀ i, GroupHandler.LinkActive (gs' i).linkStatus ↔ GroupHandler.LinkActive (gs i).linkStatus

theorem linkActive_linkingStatus (type : LinkType) :
    GroupHandler.LinkActive (GroupHandler.linkingStatus type) := by
  cases type <;> decide

theorem HandlerClockCase.active {α : Type} {base : α → LinkHandler n} {ms : Nat} {h : α}
    {g : GroupHandler} {turn : GroupHandler × Option α × List HandlerOutput}
    (case : HandlerClockCase base ms h g turn) :
    GroupHandler.LinkActive turn.1.linkStatus ↔ GroupHandler.LinkActive g.linkStatus := by
  cases case with
  | rests quiet keeps =>
      have same : turn.1.linkStatus = g.linkStatus := congrArg LinkInfo.linkStatus keeps.info
      rw [same]
  | relinks h' c fires outgoing active link type =>
      exact iff_of_true (linkActive_linkingStatus g.linkType) active
  | expires fires lost => exact Iff.rfl

/-- A tick of the handlers leaves the active groups active and the others not. -/
theorem sameActive_clock (w : World n) (ms : Nat) (gs : Groups n) (e : Nat × DCSHandler n)
    (same : SameActive w.groups gs) :
    SameActive w.groups (visit (·.destination) (fun _ h => h.clockInt ms) gs e.1 e.2).1 := by
  intro i
  by_cases here : i = e.2.destination
  · subst here
    simp only [visit, Function.update_self]
    exact (HandlerClockCase.active (e.2.clockInt_case _ ms)).trans (same _)
  · simp only [visit, Function.update_of_ne here]
    exact same i

/-- What a clock tick leaves of a handler. -/
theorem clock_left {w : World n} {ms r : Nat} {h' : DCSHandler n}
    (left : (r, h') ∈ (w.stepDCS (.clock ms)).1.dcs.entries) :
    ∃ gs h, SameActive w.groups gs ∧ (r, h) ∈ w.dcs.entries ∧
      (h.clockInt ms (gs h.destination)).2.1 = some h' :=
  Registry.of_mem_loop (fun gs e _ => sameActive_clock w ms gs e) (fun _ => Iff.rfl) left

theorem clock_called {w : World n} {ms r : Nat} {c : ConnectData}
    (called : .handler .dcs r (.connect c) ∈ (w.stepDCS (.clock ms)).2) :
    ∃ gs h, SameActive w.groups gs ∧ (r, h) ∈ w.dcs.entries ∧
      .connect c ∈ (h.clockInt ms (gs h.destination)).2.2 := by
  obtain ⟨⟨r', o⟩, emitted, same⟩ := List.mem_map.mp called
  cases same
  exact Registry.of_mem_loop_outs (fun gs e _ => sameActive_clock w ms gs e) (fun _ => Iff.rfl) emitted

theorem clock_stays {r ms : Nat} {w : World n} (retired : w.Retired r)
    (apart : ¬Relinks r w (.dcs (.clock ms))) :
    StaysUnlinked r ⟨w, .dcs (.clock ms), (w.stepDCS (.clock ms)).2, (w.stepDCS (.clock ms)).1⟩ := by
  have idle {gs : Groups n} {h : DCSHandler n} (same : SameActive w.groups gs)
      (member : (r, h) ∈ w.dcs.entries) (fires : h.pollInactivityTimer.fires ms)
      (outgoing : h.direction = .outgoing) :
      ¬GroupHandler.LinkActive (gs h.destination).linkStatus := by
    intro active
    exact apart ⟨(r, h), member, rfl, retired.2 h member, outgoing, fires, (same _).mp active⟩
  constructor
  · intro h' left
    obtain ⟨gs, h, same, member, kept⟩ := clock_left left
    generalize result : h.clockInt ms (gs h.destination) = turn at kept
    have case := result ▸ h.clockInt_case (gs h.destination) ms
    cases case with
    | rests quiet keeps => exact (keeps.spares (retired.2 h member)).1 h' kept
    | relinks k c fires outgoing active link type =>
        exact absurd active (idle same member fires outgoing)
    | expires fires lost => cases kept
  · intro c called
    obtain ⟨gs, h, same, member, emitted⟩ := clock_called called
    generalize result : h.clockInt ms (gs h.destination) = turn at emitted
    have case := result ▸ h.clockInt_case (gs h.destination) ms
    cases case with
    | rests quiet keeps => exact (keeps.spares (retired.2 h member)).2 c emitted
    | relinks k c fires outgoing active link type =>
        exact absurd active (idle same member fires outgoing)
    | expires fires lost => cases emitted
  · intro h member fires h' left
    obtain ⟨gs, k, same, member', kept⟩ := clock_left left
    obtain rfl := w.dcs.unique member member'
    generalize result : h.clockInt ms (gs h.destination) = turn at kept
    have case := result ▸ h.clockInt_case (gs h.destination) ms
    cases case with
    | rests quiet keeps => exact quiet fires
    | relinks k c fires outgoing active link type => exact idle same member fires outgoing active
    | expires fires lost => cases kept

theorem clock_relinks {r ms : Nat} {w : World n} (relinks : Relinks r w (.dcs (.clock ms))) :
    ∃ h', (r, h') ∈ (w.stepDCS (.clock ms)).1.dcs.entries ∧ h'.linkState = .linking := by
  obtain ⟨⟨r', h⟩, member, rfl, unlinking, outgoing, fires, active⟩ := relinks
  obtain ⟨gs, same, left⟩ := Registry.mem_loop_of_mem (J := SameActive w.groups)
    (f := visit (·.destination) fun _ h => h.clockInt ms)
    (fun gs e _ => sameActive_clock w ms gs e) (fun _ => Iff.rfl) member
  have still : GroupHandler.LinkActive (gs h.destination).linkStatus := (same _).mpr active
  generalize result : h.clockInt ms (gs h.destination) = turn
  have case := result ▸ h.clockInt_case (gs h.destination) ms
  cases case with
  | rests quiet keeps => exact absurd fires quiet
  | relinks h' c fires outgoing active link type =>
      have kept : (visit (·.destination) (fun _ h => h.clockInt ms) gs r' h).2.1 = some h' := by
        simp only [visit, result]
      exact ⟨h', left h' kept, congrArg Link.state (link .dcs)⟩
  | expires fires lost => exact absurd still (lost outgoing)

/-- The answer of the reflector to an unlink removes the handler. -/
theorem processConnect_ends {c : ConnectData} {h : DCSHandler n} (unlinking : h.linkState = .unlinking)
    (ends : Ends h (.dcs (.connect c))) (g : GroupHandler) : (h.processConnect c g).2.1 = none := by
  obtain ⟨⟨sender, port⟩, ⟨type, name⟩ | ⟨type, name⟩⟩ := ends
  · simp [DCSHandler.processConnect, sender, port, type, name, unlinking]
  · simp [DCSHandler.processConnect, sender, port, type, name, unlinking]

theorem connect_removes {r : Nat} {w : World n} {c : ConnectData} {h : DCSHandler n}
    (retired : w.Retired r) (member : (r, h) ∈ w.dcs.entries) (ends : Ends h (.dcs (.connect c)))
    (h' : DCSHandler n) : (r, h') ∉ (w.stepDCS (.connect c)).1.dcs.entries := by
  intro left
  obtain ⟨k, g, member', kept⟩ := of_mem_sweepDCS left
  obtain rfl := w.dcs.unique member member'
  rw [processConnect_ends (retired.2 h member) ends g] at kept
  cases kept

theorem retired_step {r : Nat} {w w' : World n} {e : LinkEvent n} {outs : List (LinkOutput n)}
    (retired : w.Retired r) (apart : ¬Relinks r w e) (taken : w.step e = .ok (w', outs)) :
    w'.Retired r ∧ StaysUnlinked r ⟨w, e, outs, w'⟩ := by
  by_cases tick : ∃ ms, e = .dcs (.clock ms)
  · obtain ⟨ms, rfl⟩ := tick
    simp only [step, Except.ok.injEq] at taken
    have stays := clock_stays retired apart
    rw [taken] at stays
    have next : w'.dcs.next = w.dcs.next := (congrArg (fun p : Result n => p.1.dcs.next) taken).symm
    exact ⟨⟨next ▸ retired.1, stays.state⟩, stays⟩
  · have other (ms : Nat) : e ≠ .dcs (.clock ms) := fun same => tick ⟨ms, same⟩
    obtain ⟨retired', silent⟩ := spares_step r taken other retired
    refine ⟨retired', retired'.2, silent, fun h member ends h' => ?_⟩
    cases e with
    | dcs input =>
        cases input with
        | connect c =>
            simp only [step, Except.ok.injEq] at taken
            have removed := connect_removes retired member ends h'
            rw [taken] at removed
            exact removed
        | clock ms => exact absurd rfl (other ms)
        | ambe env data => exact ends.elim
        | poll poll => exact ends.elim
    | group i input => exact ends.elim
    | dextra input => exact ends.elim
    | remoteLink i env reflector port => exact ends.elim
    | remoteUnlink i env => exact ends.elim

theorem relinks_step {r : Nat} {w w' : World n} {e : LinkEvent n} {outs : List (LinkOutput n)}
    (relinks : Relinks r w e) (taken : w.step e = .ok (w', outs)) :
    ¬StaysUnlinked r ⟨w, e, outs, w'⟩ := by
  intro stays
  have tick : ∃ ms, e = .dcs (.clock ms) := by
    unfold Relinks at relinks
    split at relinks
    · exact ⟨_, rfl⟩
    · exact relinks.elim
  obtain ⟨ms, rfl⟩ := tick
  simp only [step, Except.ok.injEq] at taken
  obtain ⟨h', left, linking⟩ := clock_relinks relinks
  rw [taken] at left
  have unlinking := stays.state h' left
  rw [linking] at unlinking
  cases unlinking

/-- An unlinking handler stays unlinked in a run exactly when its poll timer never
expires under an active link status of its group. -/
theorem unlink_final_iff {w t : World n} {r : Nat} {tr : List (LinkEntry n)}
    (unlinking : w.Unlinking r) (run : Run step w tr t) :
    (∀ x ∈ tr, StaysUnlinked r x) ↔ Under (fun w e => ¬Relinks r w e) tr := by
  refine Run.forall_iff (I := Retired r) (D := fun _ _ => True) unlinking.retired ?_ ?_ run ?_
  · intro w e w' o retired _ apart taken
    exact retired_step retired apart taken
  · intro w e w' o _ _ relinks taken
    exact relinks_step (not_not.mp relinks) taken
  · exact fun _ _ => trivial

/-- The reflector answers the unlink: the handler is gone and no packet follows. -/
theorem answered_unlink :
    ∃ before w after t, Run step Sample.server before w ∧ w.Unlinking 0 ∧ Run step w after t ∧
      t.dcs.entries = [] ∧ ∀ x ∈ after, StaysUnlinked 0 x := by
  obtain ⟨before, w, run, checked⟩ := exists_run_of_accepts step Sample.server
    (Sample.linkDCS ++ [.remoteUnlink 0 Sample.linkEnv])
    (fun _ w => decide (w.Unlinking 0) &&
      accepts step w (Sample.tick 1000 ++ [Sample.dcsPacket .nak (str "SMART1 A")] ++ Sample.tick 1000)
        fun tr t => t.dcs.entries.isEmpty && decide (Under (fun w e => ¬Relinks 0 w e) tr))
    (by decide +kernel)
  simp only [Bool.and_eq_true, decide_eq_true_eq] at checked
  obtain ⟨after, t, run', ended⟩ := exists_run_of_accepts step w _ _ checked.2
  simp only [Bool.and_eq_true, decide_eq_true_eq, List.isEmpty_iff] at ended
  exact ⟨before, w, after, t, run, checked.1, run', ended.1,
    (unlink_final_iff checked.1 run').mpr ended.2⟩

/-- The reflector is silent: when the poll timer expires the handler links again. -/
theorem silent_unlink_relinks :
    ∃ before w after t, Run step Sample.server before w ∧ w.Unlinking 0 ∧ Run step w after t ∧
      (∀ x ∈ after, x.event.isLink = false) ∧ ¬∀ x ∈ after, StaysUnlinked 0 x := by
  obtain ⟨before, w, run, checked⟩ := exists_run_of_accepts step Sample.server
    (Sample.linkDCS ++ [.remoteUnlink 0 Sample.linkEnv])
    (fun _ w => decide (w.Unlinking 0) &&
      accepts step w (Sample.tick 10000 ++ Sample.tick 10000 ++ Sample.tick 10000) fun tr _ =>
        decide ((∀ x ∈ tr, x.event.isLink = false) ∧
          ∃ x ∈ tr, ∃ e ∈ x.post.dcs.entries, e.1 = 0 ∧ e.2.linkState = .linking))
    (by decide +kernel)
  simp only [Bool.and_eq_true, decide_eq_true_eq] at checked
  obtain ⟨after, t, run', ended⟩ := exists_run_of_accepts step w _ _ checked.2
  obtain ⟨unasked, x, member, ⟨r, h⟩, left, rfl, linking⟩ := of_decide_eq_true ended
  refine ⟨before, w, after, t, run, checked.1, run', unasked, fun stays => ?_⟩
  have unlinking := (stays x member).state h left
  rw [linking] at unlinking
  cases unlinking

end World
end SmartGroup
