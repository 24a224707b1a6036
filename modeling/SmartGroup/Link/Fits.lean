import SmartGroup.Link.Status

/-! Turns of the handlers that keep a group and its link in step, and loops of such turns. -/
namespace SmartGroup
open Bytes Sweep Machine
open GroupHandler (linkingStatus linkedStatus LinkActive)

section Loops

variable {α : Type} {n : Nat} {base : α → LinkHandler n} {protocol : DStarProtocol}

/-- After the turn the handler is in step with its group, or both have dropped the link. -/
def TurnFits (base : α → LinkHandler n) (protocol : DStarProtocol) (h : α)
    (turn : GroupHandler × Option α × List HandlerOutput) : Prop :=
  (∀ h', turn.2.1 = some h' →
    (base h').destination = (base h).destination ∧ InStep turn.1 ((base h').link protocol)) ∧
  (turn.2.1 = none → turn.1.linkStatus = .none)

theorem Keeps.fits {h : α} {g : GroupHandler} {turn : GroupHandler × Option α × List HandlerOutput}
    (keeps : Keeps base h g turn) (step : InStep g ((base h).link protocol)) :
    TurnFits base protocol h turn := by
  obtain ⟨h₁, left, same⟩ := keeps.link
  constructor
  · intro h' left'
    rw [left, Option.some.injEq] at left'
    subst left'
    refine ⟨congrArg Link.destination (same protocol), ?_⟩
    rw [same protocol]
    exact step.congr keeps.info
  · intro gone
    rw [left] at gone
    cases gone

/-- The reflector accepts the link. -/
theorem TurnFits.accept {h h' : α} {g : GroupHandler} {outs : List HandlerOutput}
    (link : (base h').link protocol = { (base h).link protocol with state := .linked })
    (step : InStep g ((base h).link protocol)) :
    TurnFits base protocol h (g.linkUp, some h', outs) := by
  refine ⟨fun h'' left => ?_, fun gone => absurd gone (by simp)⟩
  obtain rfl := Option.some.inj left
  refine ⟨congrArg Link.destination link, ?_⟩
  rw [link]
  exact ⟨step.outgoing, .inr rfl, step.type, step.reflector, congrArg linkedStatus step.type⟩

/-- The handler ends, and its group has no link. -/
theorem TurnFits.drop {h : α} {g : GroupHandler} {outs : List HandlerOutput}
    (ended : g.linkStatus = .none) : TurnFits base protocol h (g, none, outs) :=
  ⟨fun h' left => (Option.some_ne_none h' left.symm).elim, fun _ => ended⟩

/-- A tick relinks a link that is in step, and never drops one. -/
theorem HandlerClockCase.fits {ms : Nat} {h : α} {g : GroupHandler}
    {turn : GroupHandler × Option α × List HandlerOutput} (case : HandlerClockCase base ms h g turn)
    (step : InStep g ((base h).link protocol)) : TurnFits base protocol h turn := by
  cases case with
  | rests quiet keeps => exact keeps.fits step
  | relinks h' c fires outgoing active link type =>
      refine ⟨fun h'' left => ?_, fun gone => absurd gone (by simp)⟩
      obtain rfl := Option.some.inj left
      refine ⟨congrArg Link.destination (link protocol), ?_⟩
      rw [link protocol]
      exact ⟨step.outgoing, .inl rfl, step.type, step.reflector, congrArg linkingStatus step.type⟩
  | expires fires lost =>
      refine absurd ?_ (lost step.outgoing)
      rw [step.status]
      exact status_active step.active

/-- A loop whose turns fit keeps the invariant. -/
theorem Good.loop (before : List (Link n)) {gs : Groups n} {after : List (Link n)} {l : List (Nat × α)}
    {f : Nat → α → GroupHandler → GroupHandler × Option α × List HandlerOutput}
    (good : Good gs (before ++ linksOf base protocol l ++ after))
    (turn : ∀ e ∈ l, ∀ g, InStep g ((base e.2).link protocol) →
      TurnFits base protocol e.2 (f e.1 e.2 g)) :
    Good (Registry.loop (World.visit (fun h => (base h).destination) f) gs l).1
      (before ++ linksOf base protocol
        (Registry.loop (World.visit (fun h => (base h).destination) f) gs l).2.1 ++ after) := by
  refine Registry.loop_invariant []
    (I := fun gs l => Good gs (before ++ linksOf base protocol l ++ after)) ?_ good
  intro gs done rest e member good
  have here : Good gs ((before ++ linksOf base protocol done) ++
      (base e.2).link protocol :: (linksOf base protocol rest ++ after)) := by
    simpa [linksOf] using good
  have step := here.held ((base e.2).link protocol) (by simp)
  obtain ⟨stays, ends⟩ := turn e member (gs (base e.2).destination) step
  simp only [World.visit]
  cases left : (f e.1 e.2 (gs (base e.2).destination)).2.1 with
  | none =>
      have dropped := here.drop (ends left)
      simpa [linksOf, LinkHandler.link] using dropped
  | some h' =>
      obtain ⟨same, step'⟩ := stays h' left
      have replaced := here.replace (l := (base h').link protocol) same step'
      simpa [linksOf, LinkHandler.link] using replaced

theorem mem_linksOf {l : List (Nat × α)} {k : Link n} :
    k ∈ linksOf base protocol l ↔ ∃ e ∈ l, (base e.2).link protocol = k := by
  simp only [linksOf, List.mem_map]

/-- A link after the loop belongs to the turn of its handler. -/
theorem of_mem_linksOf_loop {gs : Groups n} {l : List (Nat × α)} {k : Link n}
    {f : Nat → α → GroupHandler → GroupHandler × Option α × List HandlerOutput}
    (left : k ∈ linksOf base protocol
      (Registry.loop (World.visit (fun h => (base h).destination) f) gs l).2.1) :
    ∃ e ∈ l, ∃ g h', (f e.1 e.2 g).2.1 = some h' ∧ (base h').link protocol = k := by
  obtain ⟨⟨r, h'⟩, member, link⟩ := mem_linksOf.mp left
  obtain ⟨gs', h, -, member', kept⟩ :=
    Registry.of_mem_loop (J := fun _ => True) (fun _ _ _ _ => trivial) trivial member
  exact ⟨(r, h), member', gs' (base h).destination, h', kept, link⟩

/-- A turn that leaves the status, with the handler gone or unlinking, leaves its group
with the status and without a link. -/
theorem orphan_loop (base : α → LinkHandler n) (protocol : DStarProtocol) (gs : Groups n)
    {l : List (Nat × α)} {e : Nat × α}
    {f : Nat → α → GroupHandler → GroupHandler × Option α × List HandlerOutput}
    (distinct : (l.map fun e => (base e.2).destination).Nodup) (member : e ∈ l)
    (quiet : ∀ g, (f e.1 e.2 g).1.linkStatus = g.linkStatus)
    (gone : ∀ g h', (f e.1 e.2 g).2.1 = some h' → (base h').linkState = .unlinking)
    (stays : ∀ r h g h', (f r h g).2.1 = some h' → (base h').destination = (base h).destination) :
    ((Registry.loop (World.visit (fun h => (base h).destination) f) gs l).1
        (base e.2).destination).linkStatus = (gs (base e.2).destination).linkStatus ∧
      ∀ k ∈ linksOf base protocol
        (Registry.loop (World.visit (fun h => (base h).destination) f) gs l).2.1,
        k.destination = (base e.2).destination → k.state = .unlinking := by
  have only {e' : Nat × α} (member' : e' ∈ l)
      (same : (base e'.2).destination = (base e.2).destination) : e' = e :=
    List.inj_on_of_nodup_map distinct member' member same
  constructor
  · refine Registry.loop_state (l := l)
      (J := fun gs' : Groups n => (gs' (base e.2).destination).linkStatus = (gs (base e.2).destination).linkStatus)
      ?_ rfl
    intro gs' e' member' status
    simp only [World.visit]
    by_cases same : (base e'.2).destination = (base e.2).destination
    · obtain rfl := only member' same
      rw [Function.update_self, quiet]
      exact status
    · rw [Function.update_of_ne (Ne.symm same)]
      exact status
  · intro k left same
    obtain ⟨e', member', g, h', kept, rfl⟩ := of_mem_linksOf_loop left
    have destination := stays e'.1 e'.2 g h' kept
    obtain rfl := only member' (destination.symm.trans same)
    exact gone g h' kept

end Loops

/-! The turns that change links. -/

theorem LinkHandler.endOfTransmission_linkStatus {n : Nat} (env : Env) (g : GroupHandler)
    (h : LinkHandler n) : (h.endOfTransmission env g).1.linkStatus = g.linkStatus := by
  unfold endOfTransmission
  split
  · rfl
  · exact congrArg LinkInfo.linkStatus (GroupHandler.linkInfo_processReflectorAMBE env _ _)

namespace DExtraHandler

variable {n : Nat} {h : DExtraHandler n} {g : GroupHandler}

theorem fits_processConnect {c : ConnectData} (step : InStep g (h.link .dextra))
    (spared : c.type = .unlink → ¬(h.From c ∧ h.reflector = c.repeater ∧ h.linkState = .linking)) :
    TurnFits DExtraHandler.toLinkHandler .dextra h (h.processConnect c g) := by
  have kept := (Keeps.refl DExtraHandler.toLinkHandler h g).fits step
  have outgoing : h.direction = .outgoing := step.outgoing
  unfold processConnect
  split
  · exact kept
  · rename_i sender
    rw [not_not] at sender
    cases type : c.type with
    | ack =>
        dsimp only
        split
        · exact kept
        · split
          · exact .accept rfl step
          · exact kept
    | nak =>
        dsimp only
        split
        · exact kept
        · split
          · exact .drop rfl
          · exact kept
    | unlink =>
        dsimp only
        split
        · exact kept
        · rename_i name
          rw [not_not] at name
          split
          · exact .drop rfl
          · rename_i waiting
            have linking : h.linkState = .linking := step.active.resolve_right waiting
            exact absurd ⟨sender, name, linking⟩ (spared type)
    | link1 => exact kept
    | link2 => exact kept

theorem fits_unlink (env : Env) (group : Fin n) (callsign : Str) (exclude : Bool)
    (step : InStep g (h.link .dextra)) :
    TurnFits DExtraHandler.toLinkHandler .dextra h (h.unlink env group callsign exclude g) := by
  unfold unlink
  split
  · have active : h.Active := step.active
    refine .drop ?_
    rw [if_pos active]
    exact h.endOfTransmission_linkStatus env _
  · exact (Keeps.refl DExtraHandler.toLinkHandler h g).fits step

end DExtraHandler

namespace DCSHandler

variable {n : Nat} {h : DCSHandler n} {g : GroupHandler}

theorem fits_processConnect {c : ConnectData} (step : InStep g (h.link .dcs))
    (spared : c.type = .unlink →
      ¬((h.From c ∧ h.myPort = c.myPort) ∧ h.reflector = c.repeater ∧ h.linkState = .linking)) :
    TurnFits DCSHandler.toLinkHandler .dcs h (h.processConnect c g) := by
  have kept := (Keeps.refl DCSHandler.toLinkHandler h g).fits step
  have outgoing : h.direction = .outgoing := step.outgoing
  unfold processConnect
  split
  · exact kept
  · rename_i sender
    simp only [not_or, not_not, ne_eq] at sender
    cases type : c.type with
    | ack =>
        dsimp only
        split
        · exact kept
        · split
          · exact .accept rfl step
          · exact kept
    | nak =>
        dsimp only
        split
        · exact kept
        · split
          · exact .drop rfl
          · split
            · exact .drop rfl
            · exact kept
    | unlink =>
        dsimp only
        split
        · exact kept
        · rename_i name
          rw [not_not] at name
          split
          · exact .drop rfl
          · rename_i waiting
            have linking : h.linkState = .linking := step.active.resolve_right waiting
            exact absurd ⟨sender, name, linking⟩ (spared type)
    | link1 => exact kept
    | link2 => exact kept

end DCSHandler

end SmartGroup
