import SmartGroup.Link.Turns

/-! The link status of a group against the handlers of both protocols that point to it. -/
namespace SmartGroup
open Bytes Sweep Machine
open GroupHandler (linkingStatus linkedStatus)

def DStarProtocol.linkType : DStarProtocol → LinkType
  | .dextra => .dextra
  | .dcs => .dcs

namespace Link

variable {n : Nat}

/-- The status that belongs to the link. -/
def status (k : Link n) : LinkStatus :=
  match k.state with
  | .linking => linkingStatus k.protocol.linkType
  | .linked => linkedStatus k.protocol.linkType
  | .unlinking => .none

/-- An outgoing link of the group that is coming up or up. -/
def Serves (i : Fin n) (k : Link n) : Prop :=
  k.direction = .outgoing ∧ k.destination = i ∧ (k.state = .linking ∨ k.state = .linked)

instance (i : Fin n) (k : Link n) : Decidable (k.Serves i) :=
  inferInstanceAs (Decidable (_ ∧ _ ∧ (_ ∨ _)))

end Link

def linksOf {α : Type} {n : Nat} (base : α → LinkHandler n) (protocol : DStarProtocol)
    (l : List (Nat × α)) : List (Link n) := l.map fun e => (base e.2).link protocol

namespace World

variable {n : Nat}

def links (w : World n) : List (Link n) :=
  linksOf DExtraHandler.toLinkHandler .dextra w.dextra.entries ++
    linksOf DCSHandler.toLinkHandler .dcs w.dcs.entries

/-- The group has an outgoing link of the protocol in the state. -/
def HasLink (w : World n) (i : Fin n) (protocol : DStarProtocol) (state : LinkState) : Prop :=
  ∃ k ∈ w.links, k.protocol = protocol ∧ k.direction = .outgoing ∧ k.destination = i ∧ k.state = state

/-- The group and the handlers agree on the link of the group. -/
structure Agree (w : World n) (i : Fin n) : Prop where
  linking : ∀ protocol : DStarProtocol,
    (w.groups i).linkStatus = linkingStatus protocol.linkType ↔ w.HasLink i protocol .linking
  linked : ∀ protocol : DStarProtocol,
    (w.groups i).linkStatus = linkedStatus protocol.linkType ↔ w.HasLink i protocol .linked
  single : (w.links.filter (·.Serves i)).length ≤ 1
  idle : (∀ k ∈ w.links, ¬k.Serves i) → (w.groups i).linkStatus = .none

/-- The event takes a link from its group without a word, or tells it too late: a DCS
link is unlinked, or an UNLINK comes for a link that is still coming up. -/
def Skews (w : World n) : LinkEvent n → Prop
  | .remoteUnlink i _ => (w.groups i).linkType = .dcs ∧ ∃ e ∈ w.dcs.entries,
      e.2.destination = i ∧ e.2.reflector = (w.groups i).linkReflector ∧ e.2.linkState ≠ .unlinking
  | .dextra (.connect c) => c.type = .unlink ∧ ∃ e ∈ w.dextra.entries,
      e.2.From c ∧ e.2.reflector = c.repeater ∧ e.2.linkState = .linking
  | .dcs (.connect c) => c.type = .unlink ∧ ∃ e ∈ w.dcs.entries,
      (e.2.From c ∧ e.2.myPort = c.myPort) ∧ e.2.reflector = c.repeater ∧ e.2.linkState = .linking
  | _ => False

instance (w : World n) : (e : LinkEvent n) → Decidable (w.Skews e)
  | .remoteUnlink _ _ => inferInstanceAs (Decidable (_ ∧ ∃ e ∈ w.dcs.entries, _ ∧ _ ∧ _))
  | .dextra (.connect _) => inferInstanceAs (Decidable (_ ∧ ∃ e ∈ w.dextra.entries, _ ∧ _ ∧ _))
  | .dextra (.header _ _) => inferInstanceAs (Decidable False)
  | .dextra (.ambe _ _) => inferInstanceAs (Decidable False)
  | .dextra (.poll _) => inferInstanceAs (Decidable False)
  | .dextra (.clock _) => inferInstanceAs (Decidable False)
  | .dcs (.connect _) => inferInstanceAs (Decidable (_ ∧ ∃ e ∈ w.dcs.entries, (_ ∧ _) ∧ _ ∧ _))
  | .dcs (.ambe _ _) => inferInstanceAs (Decidable False)
  | .dcs (.poll _) => inferInstanceAs (Decidable False)
  | .dcs (.clock _) => inferInstanceAs (Decidable False)
  | .group _ _ => inferInstanceAs (Decidable False)
  | .remoteLink _ _ _ _ => inferInstanceAs (Decidable False)

/-- A link command finds a socket. -/
def SocketOpens (_ : World n) : LinkEvent n → Prop
  | .remoteLink _ _ _ port => port.isSome
  | _ => True

instance (w : World n) : (e : LinkEvent n) → Decidable (w.SocketOpens e)
  | .remoteLink _ _ _ port => inferInstanceAs (Decidable (port.isSome = true))
  | .group _ _ => inferInstanceAs (Decidable True)
  | .dextra _ => inferInstanceAs (Decidable True)
  | .dcs _ => inferInstanceAs (Decidable True)
  | .remoteUnlink _ _ => inferInstanceAs (Decidable True)

end World

/-! The invariant. -/

section Invariant

variable {n : Nat}

/-- The group carries the data of its link. -/
structure InStep (g : GroupHandler) (k : Link n) : Prop where
  outgoing : k.direction = .outgoing
  active : k.state = .linking ∨ k.state = .linked
  type : g.linkType = k.protocol.linkType
  reflector : g.linkReflector = k.reflector
  status : g.linkStatus = k.status

/-- Every link is in step with its group, no group has two, and one without has no status. -/
structure Good (gs : Groups n) (l : List (Link n)) : Prop where
  held : ∀ k ∈ l, InStep (gs k.destination) k
  single : (l.map Link.destination).Nodup
  idle : ∀ i, (∀ k ∈ l, k.destination ≠ i) → (gs i).linkStatus = .none

theorem linkType_ne_none (protocol : DStarProtocol) : protocol.linkType ≠ .none := by
  cases protocol <;> decide

theorem status_active {k : Link n} (active : k.state = .linking ∨ k.state = .linked) :
    GroupHandler.LinkActive k.status := by
  unfold Link.status
  rcases active with state | state <;> rw [state] <;> cases k.protocol <;> decide

theorem status_ne_none {k : Link n} (active : k.state = .linking ∨ k.state = .linked) :
    k.status ≠ .none := by
  intro none
  have status := status_active active
  rw [none] at status
  exact absurd status (by decide)

theorem status_eq_linking_iff {k : Link n} (active : k.state = .linking ∨ k.state = .linked)
    (protocol : DStarProtocol) :
    k.status = linkingStatus protocol.linkType ↔ k.protocol = protocol ∧ k.state = .linking := by
  unfold Link.status
  rcases active with state | state <;> rw [state] <;> cases k.protocol <;> cases protocol <;> decide

theorem status_eq_linked_iff {k : Link n} (active : k.state = .linking ∨ k.state = .linked)
    (protocol : DStarProtocol) :
    k.status = linkedStatus protocol.linkType ↔ k.protocol = protocol ∧ k.state = .linked := by
  unfold Link.status
  rcases active with state | state <;> rw [state] <;> cases k.protocol <;> cases protocol <;> decide

theorem InStep.congr {g g' : GroupHandler} {k : Link n} (step : InStep g k)
    (same : g'.linkInfo = g.linkInfo) : InStep g' k where
  outgoing := step.outgoing
  active := step.active
  type := (congrArg LinkInfo.linkType same).trans step.type
  reflector := (congrArg LinkInfo.linkReflector same).trans step.reflector
  status := (congrArg LinkInfo.linkStatus same).trans step.status

theorem InStep.busy {g : GroupHandler} {k : Link n} (step : InStep g k) : g.linkStatus ≠ .none :=
  fun none => status_ne_none step.active (step.status.symm.trans none)

/-- Only what a group says about its link matters. -/
theorem Good.congr {gs gs' : Groups n} {l : List (Link n)} (good : Good gs l)
    (same : ∀ i, (gs' i).linkInfo = (gs i).linkInfo) : Good gs' l where
  held := fun k member => (good.held k member).congr (same k.destination)
  single := good.single
  idle := fun i free => (congrArg LinkInfo.linkStatus (same i)).trans (good.idle i free)

/-- A link is the only one of its group. -/
theorem Good.apart {gs : Groups n} {before after : List (Link n)} {k : Link n}
    (good : Good gs (before ++ k :: after)) :
    ∀ k' ∈ before ++ after, k'.destination ≠ k.destination := by
  have distinct := good.single
  simp only [List.map_append, List.map_cons, List.nodup_middle, List.nodup_cons] at distinct
  intro k' member same
  exact distinct.1 (by simpa only [List.map_append, same] using List.mem_map_of_mem (f := Link.destination) member)

/-- A link ends, and its group with it. -/
theorem Good.drop {gs : Groups n} {before after : List (Link n)} {k : Link n} {g : GroupHandler}
    (good : Good gs (before ++ k :: after)) (none : g.linkStatus = .none) :
    Good (Function.update gs k.destination g) (before ++ after) := by
  have distinct := good.single
  simp only [List.map_append, List.map_cons, List.nodup_middle, List.nodup_cons] at distinct
  refine ⟨fun k' member => ?_, by simpa using distinct.2, fun i free => ?_⟩
  · rw [Function.update_of_ne (good.apart k' member)]
    apply good.held
    simp only [List.mem_append, List.mem_cons] at member ⊢
    tauto
  · by_cases here : i = k.destination
    · subst here
      rw [Function.update_self]
      exact none
    · rw [Function.update_of_ne here]
      apply good.idle i
      intro k' member
      simp only [List.mem_append, List.mem_cons] at member
      rcases member with early | rfl | late
      · exact free k' (List.mem_append_left after early)
      · exact Ne.symm here
      · exact free k' (List.mem_append_right before late)

/-- A group without a link gets one. -/
theorem Good.insert {gs : Groups n} {before after : List (Link n)} {k : Link n} {g : GroupHandler}
    (good : Good gs (before ++ after)) (free : ∀ k' ∈ before ++ after, k'.destination ≠ k.destination)
    (step : InStep g k) : Good (Function.update gs k.destination g) (before ++ k :: after) := by
  refine ⟨fun k' member => ?_, ?_, fun i absent => ?_⟩
  · simp only [List.mem_append, List.mem_cons] at member
    rcases member with early | rfl | late
    · have member := List.mem_append_left after early
      rw [Function.update_of_ne (free k' member)]
      exact good.held k' member
    · rw [Function.update_self]
      exact step
    · have member := List.mem_append_right before late
      rw [Function.update_of_ne (free k' member)]
      exact good.held k' member
  · simp only [List.map_append, List.map_cons, List.nodup_middle, List.nodup_cons]
    refine ⟨fun member => ?_, by simpa using good.single⟩
    rw [← List.map_append] at member
    obtain ⟨k', there, same⟩ := List.mem_map.mp member
    exact free k' there same
  · have here : i ≠ k.destination := by
      rintro rfl
      exact absent k (by simp) rfl
    rw [Function.update_of_ne here]
    refine good.idle i fun k' member => absent k' ?_
    simp only [List.mem_append, List.mem_cons] at member ⊢
    tauto

/-- A link changes, and its group with it. -/
theorem Good.replace {gs : Groups n} {before after : List (Link n)} {k l : Link n} {g : GroupHandler}
    (good : Good gs (before ++ k :: after)) (same : l.destination = k.destination)
    (step : InStep g l) : Good (Function.update gs k.destination g) (before ++ l :: after) := by
  have dropped := good.drop (g := { g with linkStatus := .none }) rfl
  have inserted := dropped.insert (k := l) (by rw [same]; exact good.apart) step
  rwa [same, Function.update_idem] at inserted

/-- A group without a link changes, without a status. -/
theorem Good.update {gs : Groups n} {l : List (Link n)} {i : Fin n} {g : GroupHandler}
    (good : Good gs l) (free : ∀ k ∈ l, k.destination ≠ i) (none : g.linkStatus = .none) :
    Good (Function.update gs i g) l := by
  refine ⟨fun k member => ?_, good.single, fun j absent => ?_⟩
  · rw [Function.update_of_ne (free k member)]
    exact good.held k member
  · by_cases here : j = i
    · subst here
      rw [Function.update_self]
      exact none
    · rw [Function.update_of_ne here]
      exact good.idle j absent

end Invariant
end SmartGroup
