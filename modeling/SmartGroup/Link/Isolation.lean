import SmartGroup.Link.World

/-! Which links a DExtra packet reaches. Every handler has a socket of its own, but
the loops of `process` compare addresses and callsigns, not sockets. -/
namespace SmartGroup
open Bytes Sweep Machine

/-- A call of a handler to its group. -/
inductive GroupCall where
  | header (env : Env) (header : HeaderData)
  | ambe (env : Env) (data : AMBEData)
  | linkUp
  | linkRefused
  | linkFailed

def GroupCall.apply (g : GroupHandler) : GroupCall → GroupHandler × List Output
  | .header env h => (g.processReflectorHeader env h).2
  | .ambe env d => (g.processReflectorAMBE env d).2
  | .linkUp => (g.linkUp, [])
  | .linkRefused => (g.linkRefused, [])
  | .linkFailed => ((g.linkFailed false).2, [])

/-- The packets that reach a link through the loops of `process`, polls apart. -/
inductive DExtraPacket where
  | header (env : Env) (header : HeaderData)
  | ambe (env : Env) (data : AMBEData)
  | connect (connect : ConnectData)

namespace DExtraPacket

def input : DExtraPacket → DExtraInput
  | .header env h => .header env h
  | .ambe env d => .ambe env d
  | .connect c => .connect c

/-- The port of the socket on which the packet came. -/
def myPort : DExtraPacket → Nat
  | .header _ h => h.myPort
  | .ambe _ d => d.myPort
  | .connect c => c.myPort

end DExtraPacket

namespace DExtraHandler

variable {n : Nat}

/-- The turn of a handler in the loop of `process`. -/
def turn (packet : DExtraPacket) (h : DExtraHandler n) (g : GroupHandler) : Turn n :=
  match packet with
  | .header env header =>
      if h.yourAddress = header.yourAddress ∧ h.yourPort = header.yourPort then
        h.processHeader env header g
      else (g, some h, [])
  | .ambe env data =>
      if h.yourAddress = data.yourAddress ∧ h.yourPort = data.yourPort then h.processAMBE env data g
      else (g, some h, [])
  | .connect connect => h.processConnect connect g

/-- The handler goes on with a header. -/
def TakesHeader (header : HeaderData) (h : DExtraHandler n) : Prop :=
  (h.yourAddress = header.yourAddress ∧ h.yourPort = header.yourPort) ∧ h.linkState = .linked ∧
    ¬(h.direction = .incoming ∧ h.repeater = []) ∧
    (h.partner = header.rptCall2 ∨ h.partner = header.rptCall1) ∧ h.id = 0

/-- The handler goes on with a frame. -/
def TakesAMBE (data : AMBEData) (h : DExtraHandler n) : Prop :=
  (h.yourAddress = data.yourAddress ∧ h.yourPort = data.yourPort) ∧ h.linkState = .linked ∧
    h.id = data.getId

/-- The handler is linking with the repeater that an answer names. -/
def Awaits (connect : ConnectData) (h : DExtraHandler n) : Prop :=
  h.repeater = connect.repeater ∧ h.linkState = .linking

/-- The handler goes on with link control. -/
def TakesConnect (connect : ConnectData) (h : DExtraHandler n) : Prop :=
  h.From connect ∧
    ((connect.type = .ack ∨ connect.type = .nak) ∧ h.Awaits connect ∨
      connect.type = .unlink ∧ h.reflector = connect.repeater)

def Takes (packet : DExtraPacket) (h : DExtraHandler n) : Prop :=
  match packet with
  | .header _ header => h.TakesHeader header
  | .ambe _ data => h.TakesAMBE data
  | .connect connect => h.TakesConnect connect

instance (header : HeaderData) (h : DExtraHandler n) : Decidable (h.TakesHeader header) :=
  inferInstanceAs (Decidable (_ ∧ _ ∧ _ ∧ _ ∧ _))

instance (data : AMBEData) (h : DExtraHandler n) : Decidable (h.TakesAMBE data) :=
  inferInstanceAs (Decidable (_ ∧ _ ∧ _))

instance (connect : ConnectData) (h : DExtraHandler n) : Decidable (h.Awaits connect) :=
  inferInstanceAs (Decidable (_ ∧ _))

instance (connect : ConnectData) (h : DExtraHandler n) : Decidable (h.TakesConnect connect) :=
  inferInstanceAs (Decidable (_ ∧ (_ ∨ _)))

instance (packet : DExtraPacket) (h : DExtraHandler n) : Decidable (h.Takes packet) :=
  match packet with
  | .header _ header => inferInstanceAs (Decidable (h.TakesHeader header))
  | .ambe _ data => inferInstanceAs (Decidable (h.TakesAMBE data))
  | .connect connect => inferInstanceAs (Decidable (h.TakesConnect connect))

/-- What a handler does with a packet that it takes, whatever the state of the group:
the calls to the group, and the handler after it unless it is deleted. -/
def taken (packet : DExtraPacket) (h : DExtraHandler n) : List GroupCall × Option (DExtraHandler n) :=
  match packet with
  | .header env header =>
      ([.header env (LinkHandler.relayed header)],
        some { toLinkHandler := h.opened header.getId, header := some (LinkHandler.relayed header) })
  | .ambe env data =>
      let repeated := match h.header with
        | some header => if data.getSeq = 0 then [GroupCall.header env header] else []
        | none => []
      (repeated ++ [.ambe env data],
        some (if data.isEnd then { toLinkHandler := (h.heard data.getSeq).ended, header := none }
          else { h with toLinkHandler := h.heard data.getSeq }))
  | .connect connect =>
      match connect.type with
      | .ack =>
          (if h.direction = .outgoing then [.linkUp] else [],
            some { h with
              tryTimer := h.tryTimer.stop
              pollTimer := h.pollTimer.start
              linkState := .linked })
      | .nak => (if h.direction = .outgoing then [.linkRefused] else [], none)
      | .unlink =>
          (if h.linkState = .linked ∧ h.direction = .outgoing then [.linkFailed] else [], none)
      | .link1 | .link2 => ([], some h)

def answer (packet : DExtraPacket) (h : DExtraHandler n) : List GroupCall × Option (DExtraHandler n) :=
  if h.Takes packet then h.taken packet else ([], some h)

/-! The turn of each kind of packet, taken or not. -/

section
variable {env : Env} {header : HeaderData} {data : AMBEData} {connect : ConnectData}
  {h : DExtraHandler n} {g : GroupHandler}

theorem turn_header_taken (takes : h.TakesHeader header) :
    h.turn (.header env header) g =
      ((g.processReflectorHeader env (LinkHandler.relayed header)).2.1,
        some { toLinkHandler := h.opened header.getId, header := some (LinkHandler.relayed header) },
        (g.processReflectorHeader env (LinkHandler.relayed header)).2.2.map .group) := by
  obtain ⟨sender, linked, kind, callsign, idle⟩ := takes
  have named : ¬(h.partner ≠ header.rptCall2 ∧ h.partner ≠ header.rptCall1) := by
    rintro ⟨second, first⟩
    exact callsign.elim second first
  simp only [turn, sender, and_self, if_true, processHeader, linked, ne_eq, not_true_eq_false,
    if_false, kind, named, idle]

theorem turn_header_passed (passes : ¬h.TakesHeader header) :
    h.turn (.header env header) g = (g, some h, []) := by
  simp only [turn]
  split
  · rename_i sender
    unfold processHeader
    split
    · rfl
    · rename_i linked
      split
      · rfl
      · rename_i kind
        split
        · rfl
        · rename_i callsign
          split
          · rfl
          · rename_i idle
            have named : h.partner = header.rptCall2 ∨ h.partner = header.rptCall1 := by
              rwa [ne_eq, ne_eq, ← not_or, not_not] at callsign
            exact absurd ⟨sender, not_not.mp linked, kind, named, not_not.mp idle⟩ passes
  · rfl

theorem turn_ambe_passed (passes : ¬h.TakesAMBE data) :
    h.turn (.ambe env data) g = (g, some h, []) := by
  simp only [turn]
  split
  · rename_i sender
    unfold processAMBE
    split
    · rfl
    · rename_i linked
      split
      · rfl
      · rename_i same
        exact absurd ⟨sender, not_not.mp linked, not_not.mp same⟩ passes
  · rfl

theorem turn_ambe_taken (takes : h.TakesAMBE data) :
    h.turn (.ambe env data) g =
      ((forEach GroupCall.apply g (h.taken (.ambe env data)).1).1, (h.taken (.ambe env data)).2,
        (forEach GroupCall.apply g (h.taken (.ambe env data)).1).2.map .group) := by
  obtain ⟨sender, linked, same⟩ := takes
  simp only [turn, sender, and_self, if_true, processAMBE, linked, ne_eq, not_true_eq_false, if_false,
    same, taken, repeatHeader]
  cases h.header with
  | none => simp [forEach, GroupCall.apply]
  | some header =>
      by_cases first : data.getSeq = 0 <;> simp [forEach, GroupCall.apply, first]

theorem turn_connect_passed (passes : ¬h.TakesConnect connect) :
    h.turn (.connect connect) g = (g, some h, []) := by
  simp only [turn]
  unfold processConnect
  by_cases sender : h.From connect
  · rw [if_neg (not_not_intro sender)]
    cases type : connect.type with
    | link1 => rfl
    | link2 => rfl
    | ack =>
        simp only []
        split
        · rfl
        · rename_i same
          split
          · rename_i linking
            exact absurd ⟨sender, .inl ⟨.inl type, not_not.mp same, linking⟩⟩ passes
          · rfl
    | nak =>
        simp only []
        split
        · rfl
        · rename_i same
          split
          · rename_i linking
            exact absurd ⟨sender, .inl ⟨.inr type, not_not.mp same, linking⟩⟩ passes
          · rfl
    | unlink =>
        simp only []
        split
        · rfl
        · rename_i same
          exact absurd ⟨sender, .inr ⟨type, not_not.mp same⟩⟩ passes
  · rw [if_pos sender]

theorem turn_connect_taken (takes : h.TakesConnect connect) :
    h.turn (.connect connect) g =
      ((forEach GroupCall.apply g (h.taken (.connect connect)).1).1, (h.taken (.connect connect)).2,
        (forEach GroupCall.apply g (h.taken (.connect connect)).1).2.map .group) := by
  obtain ⟨sender, kind⟩ := takes
  simp only [turn, taken]
  unfold processConnect
  rw [if_neg (not_not_intro sender)]
  rcases kind with ⟨type | type, repeater, linking⟩ | ⟨type, reflector⟩
  · rw [type]
    simp only [repeater, linking, ne_eq, not_true_eq_false, if_false, if_true]
    by_cases outgoing : h.direction = .outgoing <;> simp [outgoing, forEach, GroupCall.apply]
  · rw [type]
    simp only [repeater, linking, ne_eq, not_true_eq_false, if_false, if_true]
    by_cases outgoing : h.direction = .outgoing <;> simp [outgoing, forEach, GroupCall.apply]
  · rw [type]
    simp only [reflector, ne_eq, not_true_eq_false, if_false]
    by_cases linked : h.linkState = .linked
    · by_cases outgoing : h.direction = .outgoing <;> simp [linked, outgoing, forEach, GroupCall.apply]
    · simp [linked, forEach]

end

theorem turn_passed {packet : DExtraPacket} {h : DExtraHandler n} (passes : ¬h.Takes packet)
    (g : GroupHandler) : h.turn packet g = (g, some h, []) := by
  cases packet with
  | header env header => exact turn_header_passed passes
  | ambe env data => exact turn_ambe_passed passes
  | connect connect => exact turn_connect_passed passes

/-- The turn is the answer, with its calls made on the group. -/
theorem turn_eq (packet : DExtraPacket) (h : DExtraHandler n) (g : GroupHandler) :
    h.turn packet g =
      ((forEach GroupCall.apply g (h.answer packet).1).1, (h.answer packet).2,
        (forEach GroupCall.apply g (h.answer packet).1).2.map .group) := by
  unfold answer
  by_cases takes : h.Takes packet
  · rw [if_pos takes]
    cases packet with
    | header env header =>
        rw [turn_header_taken takes]
        simp [taken, forEach, GroupCall.apply]
    | ambe env data => exact turn_ambe_taken takes
    | connect connect => exact turn_connect_taken takes
  · rw [if_neg takes, turn_passed takes g]
    rfl

end DExtraHandler

namespace World

variable {n : Nat}

theorem stepDExtra_packet (w : World n) (packet : DExtraPacket) :
    w.stepDExtra packet.input = w.sweepDExtra fun _ h g => h.turn packet g := by
  cases packet <;> rfl

/-- The calls that a packet makes, each with the handler that makes it. -/
def delivered (w : World n) (packet : DExtraPacket) : List (Nat × GroupCall) :=
  w.dextra.entries.flatMap fun e => (e.2.answer packet).1.map (e.1, ·)

theorem stepDExtra_entries (w : World n) (packet : DExtraPacket) :
    (w.stepDExtra packet.input).1.dextra.entries =
      w.dextra.entries.flatMap fun e => ((e.2.answer packet).2.map (e.1, ·)).toList := by
  have own : ∀ (gs : Groups n) (r : Nat) (h : DExtraHandler n),
      (visit (·.destination) (fun _ h g => h.turn packet g) gs r h).2.1 = (h.answer packet).2 := by
    intro gs r h
    simp only [visit, DExtraHandler.turn_eq]
  rw [stepDExtra_packet]
  exact Registry.loop_entries (u := fun _ h => (h.answer packet).2) own w.groups w.dextra.entries

/-- The sockets of the handlers: a handler opens one of its own. -/
structure Sockets (w : World n) where
  port : Nat → Nat
  distinct : ∀ e ∈ w.dextra.entries, ∀ e' ∈ w.dextra.entries, port e.1 = port e'.1 → e.1 = e'.1

/-- The packet concerns the handler only that owns the socket on which it came. -/
structure Isolated (w : World n) (s : w.Sockets) (packet : DExtraPacket) : Prop where
  kept : ∀ e ∈ w.dextra.entries, s.port e.1 ≠ packet.myPort →
    e ∈ (w.stepDExtra packet.input).1.dextra.entries
  untouched : ∀ i, (∀ e ∈ w.dextra.entries, s.port e.1 = packet.myPort → e.2.destination ≠ i) →
    (w.stepDExtra packet.input).1.groups i = w.groups i
  emits : ∀ r out, .handler .dextra r out ∈ (w.stepDExtra packet.input).2 → s.port r = packet.myPort
  calls : ∀ call ∈ w.delivered packet, s.port call.1 = packet.myPort
  once : ∀ e ∈ w.dextra.entries, s.port e.1 = packet.myPort →
    w.delivered packet = (e.2.answer packet).1.map (e.1, ·)

variable {w : World n} {s : w.Sockets} {packet : DExtraPacket}

theorem answer_passed {e : Nat × DExtraHandler n} (passes : ¬e.2.Takes packet) :
    e.2.answer packet = ([], some e.2) := by
  unfold DExtraHandler.answer
  rw [if_neg passes]

/-- Where no other handler takes the packet, it concerns its own handler only. -/
theorem isolated_of_passed (passed : ∀ e ∈ w.dextra.entries, s.port e.1 ≠ packet.myPort →
    ¬e.2.Takes packet) : w.Isolated s packet where
  kept := by
    intro e member other
    rw [stepDExtra_entries]
    apply List.mem_flatMap.mpr
    refine ⟨e, member, ?_⟩
    rw [answer_passed (passed e member other)]
    exact List.mem_singleton.mpr rfl
  untouched := by
    intro i others
    have keep : ∀ (gs : Groups n), ∀ e ∈ w.dextra.entries, gs i = w.groups i →
        (visit (·.destination) (fun _ h g => h.turn packet g) gs e.1 e.2).1 i = w.groups i := by
      intro gs e member before
      by_cases own : s.port e.1 = packet.myPort
      · have apart := others e member own
        simpa only [visit, Function.update_of_ne apart.symm] using before
      · simpa only [visit, DExtraHandler.turn_passed (passed e member own),
          Function.update_eq_self] using before
    rw [stepDExtra_packet]
    exact Registry.loop_state (J := fun gs : Groups n => gs i = w.groups i) keep rfl
  emits := by
    intro r out emitted
    rw [stepDExtra_packet] at emitted
    obtain ⟨o, there, same⟩ := List.mem_map.mp emitted
    cases same
    obtain ⟨gs, h, -, member, put⟩ := Registry.of_mem_loop_outs (J := fun _ => True)
      (fun _ _ _ _ => trivial) trivial there
    by_contra other
    simp only [visit, DExtraHandler.turn_passed (passed _ member other)] at put
    cases put
  calls := by
    intro call made
    obtain ⟨e, member, there⟩ := List.mem_flatMap.mp made
    obtain ⟨c, answered, rfl⟩ := List.mem_map.mp there
    by_contra other
    rw [answer_passed (passed e member other)] at answered
    cases answered
  once := by
    intro e member own
    apply Registry.flatMap_of_mem w.dextra member
    intro x there apart
    have other : s.port x.1 ≠ packet.myPort := by
      intro same
      exact apart (s.distinct x there e member (same.trans own.symm))
    rw [answer_passed (passed x there other)]
    rfl

/-- A packet that a handler takes makes a call, or changes or removes the handler. -/
theorem taken_shows {h : DExtraHandler n} (takes : h.Takes packet) :
    (h.taken packet).1 ≠ [] ∨ (h.taken packet).2 ≠ some h := by
  cases packet with
  | header env header => exact .inl (List.cons_ne_nil _ _)
  | ambe env data =>
      left
      intro silent
      have added := (List.append_eq_nil_iff.mp silent).2
      cases added
  | connect connect =>
      right
      obtain ⟨-, ⟨type | type, -, linking⟩ | ⟨type, -⟩⟩ := takes
      · intro same
        simp only [DExtraHandler.taken, type, Option.some.injEq] at same
        rw [← same] at linking
        cases linking
      · simp [DExtraHandler.taken, type]
      · simp [DExtraHandler.taken, type]

/-- A packet concerns its own link only if and only if no handler of another socket takes it. -/
theorem dextra_isolated_iff (w : World n) (s : w.Sockets) (packet : DExtraPacket) :
    w.Isolated s packet ↔
      ∀ e ∈ w.dextra.entries, s.port e.1 ≠ packet.myPort → ¬e.2.Takes packet := by
  constructor
  · rintro isolated ⟨r, h⟩ member other takes
    have answer : h.answer packet = h.taken packet := if_pos takes
    rcases taken_shows takes with calls | changed
    · obtain ⟨call, made⟩ := List.exists_mem_of_ne_nil _ calls
      apply other
      apply isolated.calls (r, call)
      apply List.mem_flatMap.mpr
      refine ⟨(r, h), member, List.mem_map_of_mem ?_⟩
      rwa [answer]
    · have kept := isolated.kept (r, h) member other
      rw [stepDExtra_entries] at kept
      obtain ⟨⟨r', h'⟩, there, left⟩ := List.mem_flatMap.mp kept
      obtain ⟨after, rfl⟩ : (h'.answer packet).2 = some h ∧ r' = r := by
        simpa using left
      have own := w.dextra.unique there member
      rw [own, answer] at after
      exact changed after
  · exact isolated_of_passed

end World

/-! Two groups linked to one reflector module. -/
namespace Sample

def secondConfig : GroupHandler.Config :=
  { config with callsign := str "SMART2  ", logoff := str "SMART2 T", repeater := str "SMART2 A" }

def bothConfigs (i : Fin 2) : GroupHandler.Config := if i = 0 then config else secondConfig

/-- The reflector accepts the link of a group, to the socket on which the group asked. -/
def accepted (repeater : Str) (port : Nat) : LinkEvent 2 :=
  .dextra (.connect (.ofLink .repeater repeater (padTo 8 []) .ack dextraAddress dextraPort port))

def shareReflector : List (LinkEvent 2) :=
  [.remoteLink 0 linkEnv dextraReflector (some 40001), .remoteLink 1 linkEnv dextraReflector (some 40002),
    accepted (str "SMART1 A") 40001, accepted (str "SMART2 A") 40002]

def shareModules : List (LinkEvent 2) :=
  [.remoteLink 0 linkEnv dextraReflector (some 40001), .remoteLink 1 linkEnv (str "XRF002 D") (some 40002),
    accepted (str "SMART1 A") 40001, accepted (str "SMART2 A") 40002]

/-- The reflector sends a header on the link of the first group. -/
def sharedHeader : DExtraPacket :=
  .header linkEnv
    { (HeaderData.ofCalls userA (str "ID51") (str "CQCQCQ  ") (str "XRF002 G") dextraReflector).setId 5 with
      yourAddress := dextraAddress
      yourPort := dextraPort
      myPort := 40001 }

end Sample

section
open Sample

/-- The groups are linked to two modules of the reflector, and the header of the first one stays on
its link. -/
theorem World.dextra_header_stays :
    ∃ tr t, Run World.step (.start bothConfigs (str "SMART1  ") none) tr t ∧ ∃ s : t.Sockets,
      (t.delivered sharedHeader).map Prod.fst = [0] ∧ t.Isolated s sharedHeader := by
  obtain ⟨tr, t, run, checked⟩ := exists_run_of_accepts World.step (.start bothConfigs (str "SMART1  ") none)
    shareModules (fun _ t => decide ((t.delivered sharedHeader).map Prod.fst = [0]) &&
      t.dextra.entries.all fun e => decide (40001 + e.1 ≠ sharedHeader.myPort → ¬e.2.Takes sharedHeader))
    (by decide +kernel)
  simp only [Bool.and_eq_true, decide_eq_true_eq, List.all_eq_true] at checked
  obtain ⟨one, passed⟩ := checked
  have apart : ∀ e ∈ t.dextra.entries, ∀ e' ∈ t.dextra.entries, 40001 + e.1 = 40001 + e'.1 → e.1 = e'.1 := by
    intro e _ e' _ same
    exact Nat.add_left_cancel same
  exact ⟨tr, t, run, ⟨(40001 + ·), apart⟩, one, (World.dextra_isolated_iff t _ sharedHeader).mpr passed⟩

/-- The header on the socket of the first group goes to both groups. -/
theorem World.dextra_header_crosses :
    ∃ tr t, Run World.step (.start bothConfigs (str "SMART1  ") none) tr t ∧ ∃ s : t.Sockets,
      (t.delivered sharedHeader).map Prod.fst = [0, 1] ∧ ¬t.Isolated s sharedHeader := by
  obtain ⟨tr, t, run, checked⟩ := exists_run_of_accepts World.step (.start bothConfigs (str "SMART1  ") none)
    shareReflector (fun _ t => decide ((t.delivered sharedHeader).map Prod.fst = [0, 1])) (by decide +kernel)
  have both : (t.delivered sharedHeader).map Prod.fst = [0, 1] := of_decide_eq_true checked
  have apart : ∀ e ∈ t.dextra.entries, ∀ e' ∈ t.dextra.entries, 40001 + e.1 = 40001 + e'.1 → e.1 = e'.1 := by
    intro e _ e' _ same
    exact Nat.add_left_cancel same
  refine ⟨tr, t, run, ⟨(40001 + ·), apart⟩, both, ?_⟩
  intro isolated
  have second : 1 ∈ (t.delivered sharedHeader).map Prod.fst := by
    rw [both]
    exact List.mem_cons_of_mem 0 (List.mem_singleton.mpr rfl)
  obtain ⟨call, made, ref⟩ := List.mem_map.mp second
  have port := isolated.calls call made
  rw [ref] at port
  cases port

end

end SmartGroup
