import SmartGroup.Link.Clocks
import SmartGroup.Link.IdleFrames
import SmartGroup.Support.Recent

/-! The links as the ticks of the clock go by. A handler is not taken for linked without a
sign of its reflector, nor does it hold on to a stream without frames, nor does it wait for
an answer without asking again. -/
namespace SmartGroup
open Bytes Sweep Machine

variable {n : Nat}

/-! What an event is to a handler, told from its key. -/

namespace LinkEvent

/-- The milliseconds of the tick for the handlers of the protocol. -/
def ms (protocol : DStarProtocol) : LinkEvent n → Nat
  | .dextra input => if protocol = .dextra then input.ms else 0
  | .dcs input => if protocol = .dcs then input.ms else 0
  | _ => 0

/-- A sign of the reflector for a DExtra handler, and for a DCS handler on the port. -/
def ShowsDExtra (k : LinkKey) : LinkEvent n → Prop
  | .dextra input => input.Shows k
  | _ => False

def ShowsDCS (k : LinkKey) (myPort : Nat) : LinkEvent n → Prop
  | .dcs input => input.Shows k myPort
  | _ => False

/-- The reflector accepts the link of a DExtra handler. -/
def AcceptsDExtra (k : LinkKey) : LinkEvent n → Prop
  | .dextra input => input.Accepts k
  | _ => False

/-- A packet of the stream. -/
def CarriesDExtra (k : LinkKey) (id : Nat) : LinkEvent n → Prop
  | .dextra input => input.Carries k id
  | _ => False

def CarriesDCS (k : LinkKey) (myPort id : Nat) : LinkEvent n → Prop
  | .dcs input => input.Carries k myPort id
  | _ => False

end LinkEvent

/-! The timers of one handler, in any run that knows its packets. -/
namespace LinkHandler

variable {σ ε ω : Type*}

/-- The request of the state was sent lately, or the run has only begun. -/
def Awaits (Asked : LinkState → Entry σ ε ω → Prop) (time : Entry σ ε ω → Nat) (tr : List (Entry σ ε ω))
    (h : LinkHandler n) : Prop :=
  ∃ limit, (1 < limit ∧ limit ≤ 60001) ∧ h.tryTimer.Kept limit ∧
    (Recent (Asked h.linkState) time h.tryTimer.age tr ∨ total time tr ≤ h.tryTimer.age)

/-- The timers of a handler tell when the packets have come and gone. -/
structure Live (limit : Nat) (Shows : Entry σ ε ω → Prop) (Carries : Nat → Entry σ ε ω → Prop)
    (Asked : LinkState → Entry σ ε ω → Prop) (time : Entry σ ε ω → Nat) (tr : List (Entry σ ε ω))
    (h : LinkHandler n) : Prop where
  hears : h.pollInactivityTimer.Kept limit
  shown : h.linkState = .linked → Recent Shows time h.pollInactivityTimer.age tr
  length : h.inactivityTimer.timeout = 2001
  carried : h.id ≠ 0 → h.inactivityTimer.Kept 2001 ∧ Recent (Carries h.id) time h.inactivityTimer.age tr
  unit : h.tryTimer.ticksPerSec = 1000
  asked : h.linkState ≠ .linked → h.Awaits Asked time tr

section
variable {limit : Nat} {Shows : Entry σ ε ω → Prop} {Carries : Nat → Entry σ ε ω → Prop}
  {Asked : LinkState → Entry σ ε ω → Prop} {time : Entry σ ε ω → Nat} {tr : List (Entry σ ε ω)}
  {x : Entry σ ε ω} {told : List HandlerOutput} {h h' : LinkHandler n}

theorem kept_startFor {t : Timer} {secs : Nat} (unit : t.ticksPerSec = 1000) (range : 0 < secs ∧ secs ≤ 60) :
    (t.startFor secs 0).Kept (secs * 1000 + 1) ∧ (t.startFor secs 0).age = 0 := by
  have span : Timer.span t.ticksPerSec secs 0 = secs * 1000 + 1 := by
    rw [Timer.span, if_pos (.inl range.1), unit, Nat.add_zero, Nat.mul_div_cancel _ (by decide)]
    exact Nat.mod_eq_of_lt (by unfold word; omega)
  have set : (t.setTimeout secs 0).timeout = secs * 1000 + 1 := by
    rw [Timer.setTimeout, if_pos (.inl range.1)]
    exact span
  exact Timer.kept_start set (by omega)

/-- A call that the packets of the step explain. -/
theorem Live.turned (live : h.Live limit Shows Carries Asked time tr) (long : 1 < limit ∧ limit ≤ 60001)
    (short : 60001 + time x ≤ word) (turned : Turned (time x) (Shows x) (fun id => Carries id x) told h h')
    (asked : h'.Asks told → Asked h'.linkState x) :
    h'.Live limit Shows Carries Asked time (tr ++ [x]) := by
  obtain ⟨hears, heard⟩ := live.hears.moves long.1 (by omega) turned.hears
  refine ⟨hears, ?_, turned.length.trans live.length, ?_, turned.unit.trans live.unit, ?_⟩
  · intro linked
    rcases heard with counted | ⟨restarted, -⟩
    · rcases turned.linked linked with before | shows
      · exact (live.shown before).later counted.ge
      · exact .now shows
    · exact .now (restarted linked)
  · intro named
    rcases turned.carries named with ⟨same, moves⟩ | ⟨carries, started⟩
    · obtain ⟨kept, recent⟩ := live.carried (same ▸ named)
      obtain ⟨kept', counted⟩ := kept.moves (by decide) (by omega) moves
      refine ⟨kept', ?_⟩
      rcases counted with counted | ⟨carries, -⟩
      · rw [same]
        exact recent.later counted.ge
      · exact .now carries
    · obtain ⟨kept, zero⟩ := Timer.kept_start live.length (by decide)
      rw [started]
      exact ⟨kept, .now carries⟩
  · intro other
    rcases turned.asks other with ⟨state, moves⟩ | ⟨asks, t, secs, unit, range, started⟩
    · obtain ⟨length, range, kept, before⟩ := live.asked (state ▸ other)
      obtain ⟨kept', counted⟩ := kept.moves range.1 (by omega) moves
      have counted : h'.tryTimer.age = h.tryTimer.age + time x := counted.resolve_right fun never => never.1
      refine ⟨length, range, kept', ?_⟩
      rw [state, counted, total_snoc]
      exact before.imp (fun recent => recent.later (Nat.le_refl _)) fun early => Nat.add_le_add_right early _
    · obtain ⟨kept, zero⟩ := kept_startFor (unit.trans live.unit) range
      rw [← started] at kept zero
      exact ⟨secs * 1000 + 1, by omega, kept, .inl (.now (asked asks))⟩

/-- A handler that has just been made, where its request is sent or the run begins. -/
theorem live_new (destination : Fin n) (reflector repeater address : Str) (port poll secs : Nat)
    (range : 0 < secs ∧ secs ≤ 60) (asked : Recent (Asked .linking) time 0 tr ∨ total time tr = 0) :
    (LinkHandler.new destination reflector repeater address port .outgoing poll secs).Live (secs * 1000 + 1)
      Shows Carries Asked time tr := by
  have span : Timer.span 1000 secs 0 = secs * 1000 + 1 := by
    rw [Timer.span, if_pos (.inl range.1), Nat.add_zero, Nat.mul_div_cancel _ (by decide)]
    exact Nat.mod_eq_of_lt (by unfold word; omega)
  have started : ((Timer.new 1000 1 0).start).Kept 1001 ∧ ((Timer.new 1000 1 0).start).age = 0 :=
    Timer.kept_start (by decide) (by decide)
  have length : (Timer.new 1000 networkTimeout 0).timeout = 2001 := by decide
  refine ⟨(Timer.kept_start span (by omega)).1, by simp [new], length, fun named => absurd rfl named, rfl, ?_⟩
  intro _
  refine ⟨1001, by decide, started.1, ?_⟩
  exact asked.imp (fun recent => recent.mono (Nat.zero_le _)) fun early => early.le.trans (Nat.zero_le _)

end

end LinkHandler

namespace World

section
variable {w w' : World n} {outs : List (LinkOutput n)}

/-! The handlers that a step leaves. -/

theorem of_mem_sweepDExtra_told {f : Nat → DExtraHandler n → GroupHandler → DExtraHandler.Turn n} {r : Nat}
    {h' : DExtraHandler n} (left : (r, h') ∈ (w.sweepDExtra f).1.dextra.entries) :
    ∃ h g, (r, h) ∈ w.dextra.entries ∧ (f r h g).2.1 = some h' ∧
      ∀ o ∈ (f r h g).2.2, .handler .dextra r o ∈ (w.sweepDExtra f).2 := by
  obtain ⟨gs, h, member, kept, told⟩ := Registry.of_mem_loop_told left
  exact ⟨h, _, member, kept, fun o put => List.mem_map.mpr ⟨(r, o), told o put, rfl⟩⟩

theorem of_mem_sweepDCS_told {f : Nat → DCSHandler n → GroupHandler → DCSHandler.Turn n} {r : Nat}
    {h' : DCSHandler n} (left : (r, h') ∈ (w.sweepDCS f).1.dcs.entries) :
    ∃ h g, (r, h) ∈ w.dcs.entries ∧ (f r h g).2.1 = some h' ∧
      ∀ o ∈ (f r h g).2.2, .handler .dcs r o ∈ (w.sweepDCS f).2 := by
  obtain ⟨gs, h, member, kept, told⟩ := Registry.of_mem_loop_told left
  exact ⟨h, _, member, kept, fun o put => List.mem_map.mpr ⟨(r, o), told o put, rfl⟩⟩

/-- Voice of the group leaves the links of the handlers as they are. -/
structure SameLinks (w w' : World n) : Prop where
  dextra : ∀ r h', (r, h') ∈ w'.dextra.entries →
    ∃ h, (r, h) ∈ w.dextra.entries ∧ h'.toLinkHandler = h.toLinkHandler
  dcs : ∀ r h', (r, h') ∈ w'.dcs.entries →
    ∃ h, (r, h) ∈ w.dcs.entries ∧ h'.myPort = h.myPort ∧ h'.toLinkHandler = h.toLinkHandler

theorem SameLinks.of_eq (dextra : w'.dextra = w.dextra) (dcs : w'.dcs = w.dcs) : SameLinks w w' := by
  constructor
  · intro r h member
    exact ⟨h, dextra ▸ member, rfl⟩
  · intro r h member
    exact ⟨h, dcs ▸ member, rfl, rfl⟩

theorem SameLinks.trans {w'' : World n} (first : SameLinks w w') (second : SameLinks w' w'') :
    SameLinks w w'' := by
  constructor
  · intro r h'' member
    obtain ⟨h', there, same⟩ := second.dextra r h'' member
    obtain ⟨h, before, same'⟩ := first.dextra r h' there
    exact ⟨h, before, same.trans same'⟩
  · intro r h'' member
    obtain ⟨h', there, port, same⟩ := second.dcs r h'' member
    obtain ⟨h, before, port', same'⟩ := first.dcs r h' there
    exact ⟨h, before, port.trans port', same.trans same'⟩

theorem sameLinks_dextra (w : World n) {f : Nat → DExtraHandler n → GroupHandler → DExtraHandler.Turn n}
    (turn : ∀ r h g h', (f r h g).2.1 = some h' → h'.toLinkHandler = h.toLinkHandler) :
    SameLinks w (w.sweepDExtra f).1 := by
  constructor
  · intro r h' left
    obtain ⟨h, g, member, kept, -⟩ := of_mem_sweepDExtra_told left
    exact ⟨h, member, turn r h g h' kept⟩
  · intro r h' member
    exact ⟨h', member, rfl, rfl⟩

theorem sameLinks_dcs (w : World n) {f : Nat → DCSHandler n → GroupHandler → DCSHandler.Turn n}
    (turn : ∀ r h g h', (f r h g).2.1 = some h' → h'.myPort = h.myPort ∧ h'.toLinkHandler = h.toLinkHandler) :
    SameLinks w (w.sweepDCS f).1 := by
  constructor
  · intro r h' member
    exact ⟨h', member, rfl⟩
  · intro r h' left
    obtain ⟨h, g, member, kept, -⟩ := of_mem_sweepDCS_told left
    exact ⟨h, member, turn r h g h' kept⟩

theorem sameLinks_forward (w : World n) (i : Fin n) (o : Output) : SameLinks w (forward i w o).1 := by
  unfold forward
  split
  · apply sameLinks_dextra
    intro r h g h' left
    unfold DExtraHandler.writeHeader at left
    split at left <;> cases left <;> rfl
  · apply sameLinks_dcs
    intro r h g h' left
    unfold DCSHandler.writeHeader at left
    split at left <;> cases left <;> exact ⟨rfl, rfl⟩
  · apply sameLinks_dextra
    intro r h g h' left
    unfold DExtraHandler.writeAMBE at left
    split at left <;> cases left <;> rfl
  · apply sameLinks_dcs
    intro r h g h' left
    unfold DCSHandler.writeAMBE at left
    split at left <;> cases left <;> exact ⟨rfl, rfl⟩
  · exact .of_eq rfl rfl

theorem sameLinks_group {i : Fin n} {input : GroupInput} (taken : w.stepGroup i input = .ok (w', outs)) :
    SameLinks w w' := by
  obtain ⟨g, emitted, -, rfl, -⟩ := stepGroup_ok taken
  have sent := forEach_rel (f := forward i) (S := fun w _ w' => SameLinks w w') (l := emitted)
    (fun w => .of_eq rfl rfl) .trans (fun w o _ => sameLinks_forward w i o) (w.setGroup i g)
  have placed : SameLinks w (w.setGroup i g) := .of_eq rfl rfl
  exact placed.trans sent

/-- A handler that a link command makes, whose first request it sends. -/
structure MadeDExtra (outs : List (LinkOutput n)) (r : Nat) (h : DExtraHandler n) : Prop where
  new : ∃ i reflector repeater address, h = .new i reflector repeater address
  told : .handler .dextra r (.connect h.linkPacket) ∈ outs

structure MadeDCS (outs : List (LinkOutput n)) (r : Nat) (h : DCSHandler n) : Prop where
  new : ∃ i reflector repeater address port, h = .new i reflector repeater address port
  told : .handler .dcs r (.connect h.linkPacket) ∈ outs

theorem request_left (w : World n) (i : Fin n) (result : Bool × GroupHandler × Option LinkRequest)
    (port : Option Nat) :
    (∀ r h, (r, h) ∈ (w.request i result port).1.dextra.entries →
      (r, h) ∈ w.dextra.entries ∨ MadeDExtra (w.request i result port).2 r h) ∧
    ∀ r h, (r, h) ∈ (w.request i result port).1.dcs.entries →
      (r, h) ∈ w.dcs.entries ∨ MadeDCS (w.request i result port).2 r h := by
  unfold request
  dsimp only
  split
  · exact ⟨fun r h => .inl, fun r h => .inl⟩
  · split
    · unfold linkDExtra
      split
      · exact ⟨fun r h => .inl, fun r h => .inl⟩
      · refine ⟨fun r h left => ?_, fun r h => .inl⟩
        rcases List.mem_append.mp left with old | new
        · exact .inl old
        · cases List.mem_singleton.mp new
          exact .inr ⟨⟨_, _, _, _, rfl⟩, List.mem_cons_self⟩
    · unfold linkDCS
      split
      · exact ⟨fun r h => .inl, fun r h => .inl⟩
      · split
        · exact ⟨fun r h => .inl, fun r h => .inl⟩
        · refine ⟨fun r h => .inl, fun r h left => ?_⟩
          rcases List.mem_append.mp left with old | new
          · exact .inl old
          · cases List.mem_singleton.mp new
            exact .inr ⟨⟨_, _, _, _, _, rfl⟩, List.mem_cons_self⟩
    · exact ⟨fun r h => .inl, fun r h => .inl⟩

/-- A handler that the step has called, or left alone. -/
def CalledDExtra (e : LinkEvent n) (outs : List (LinkOutput n)) (r : Nat) (h h' : DExtraHandler n) : Prop :=
  ∃ told, (∀ o ∈ told, .handler .dextra r o ∈ outs) ∧
    LinkHandler.Turned (e.ms .dextra) (e.ShowsDExtra h.key) (fun id => e.CarriesDExtra h.key id) told
      h.toLinkHandler h'.toLinkHandler ∧
    DExtraHandler.Polled (e.ms .dextra) (e.AcceptsDExtra h.key) told h h'

theorem CalledDExtra.same {e : LinkEvent n} {r : Nat} {h h' : DExtraHandler n} (still : e.ms .dextra = 0)
    (same : h'.toLinkHandler = h.toLinkHandler) : CalledDExtra e outs r h h' := by
  refine ⟨[], List.forall_mem_nil _, ?_⟩
  rw [same, still]
  exact ⟨.refl _, .same (congrArg (·.linkState) same) (congrArg (·.pollTimer) same)⟩

theorem CalledDExtra.answers {input : DExtraInput} {r : Nat} {h h' : DExtraHandler n} {turn : DExtraHandler.Turn n}
    (answers : DExtraHandler.Answers input h turn) (left : turn.2.1 = some h')
    (told : ∀ o ∈ turn.2.2, .handler .dextra r o ∈ outs) : CalledDExtra (.dextra input) outs r h h' := by
  have time : (LinkEvent.dextra (n := n) input).ms .dextra = input.ms := by
    simp [LinkEvent.ms]
  refine ⟨turn.2.2, told, ?_⟩
  rw [time]
  exact answers h' left

theorem dextra_input {input : DExtraInput} {r : Nat} {h' : DExtraHandler n}
    (valid : ∀ e ∈ w.dextra.entries, e.2.linkState ≠ .unlinking)
    (left : (r, h') ∈ (w.stepDExtra input).1.dextra.entries) :
    ∃ h, (r, h) ∈ w.dextra.entries ∧ CalledDExtra (.dextra input) (w.stepDExtra input).2 r h h' := by
  cases input with
  | header env data =>
      obtain ⟨h, g, member, kept, told⟩ := of_mem_sweepDExtra_told left
      refine ⟨h, member, .answers ?_ kept told⟩
      split
      · rename_i own
        exact DExtraHandler.answers_header env data own
      · exact .refl rfl _ _
  | ambe env data =>
      obtain ⟨h, g, member, kept, told⟩ := of_mem_sweepDExtra_told left
      refine ⟨h, member, .answers ?_ kept told⟩
      split
      · rename_i own
        exact DExtraHandler.answers_ambe env data own
      · exact .refl rfl _ _
  | poll data =>
      obtain ⟨h, g, member, kept, told⟩ := of_mem_sweepDExtra_told left
      exact ⟨h, member, .answers (DExtraHandler.answers_poll data) kept told⟩
  | connect data =>
      obtain ⟨h, g, member, kept, told⟩ := of_mem_sweepDExtra_told left
      exact ⟨h, member, .answers (DExtraHandler.answers_connect data) kept told⟩
  | clock ms =>
      obtain ⟨h, g, member, kept, told⟩ := of_mem_sweepDExtra_told left
      exact ⟨h, member, .answers (DExtraHandler.answers_clock w.callsign ms (valid _ member)) kept told⟩

theorem firstDCS_dextra (w : World n) (test : DCSHandler n → Bool)
    (f : DCSHandler n → GroupHandler → DCSHandler.Turn n) : (w.firstDCS test f).1.dextra = w.dextra := by
  unfold firstDCS
  split <;> rfl

theorem dcs_input_dextra (w : World n) (input : DCSInput) : (w.stepDCS input).1.dextra = w.dextra := by
  cases input with
  | ambe env data => exact firstDCS_dextra w _ _
  | poll data => exact firstDCS_dextra w _ _
  | connect data => rfl
  | clock ms => rfl

/-- The DExtra handlers that a step leaves: those before it, called or not, and a new one. -/
theorem dextra_left {e : LinkEvent n} {r : Nat} {h' : DExtraHandler n} (taken : w.step e = .ok (w', outs))
    (valid : ∀ e ∈ w.dextra.entries, e.2.linkState ≠ .unlinking) (left : (r, h') ∈ w'.dextra.entries) :
    (∃ h, (r, h) ∈ w.dextra.entries ∧ CalledDExtra e outs r h h') ∨ MadeDExtra outs r h' := by
  cases e with
  | group i input =>
      obtain ⟨h, member, same⟩ := (sameLinks_group taken).dextra r h' left
      exact .inl ⟨h, member, .same rfl same⟩
  | dextra input =>
      obtain ⟨rfl, rfl⟩ : (w.stepDExtra input).1 = w' ∧ (w.stepDExtra input).2 = outs :=
        Prod.mk.inj (Except.ok.inj taken)
      exact .inl (dextra_input valid left)
  | dcs input =>
      obtain ⟨rfl, rfl⟩ : (w.stepDCS input).1 = w' ∧ (w.stepDCS input).2 = outs :=
        Prod.mk.inj (Except.ok.inj taken)
      rw [dcs_input_dextra] at left
      exact .inl ⟨h', left, .same rfl rfl⟩
  | remoteLink i env reflector port =>
      obtain ⟨rfl, rfl⟩ := Prod.mk.inj (Except.ok.inj taken)
      rcases (request_left w i _ port).1 r h' left with old | new
      · exact .inl ⟨h', old, .same rfl rfl⟩
      · exact .inr new
  | remoteUnlink i env =>
      obtain ⟨rfl, rfl⟩ : (w.remoteUnlink i env).1 = w' ∧ (w.remoteUnlink i env).2 = outs :=
        Prod.mk.inj (Except.ok.inj taken)
      have stays : ∃ h, (r, h) ∈ w.dextra.entries ∧ h'.toLinkHandler = h.toLinkHandler := by
        unfold remoteUnlink at left
        dsimp only at left
        split at left
        · exact ⟨h', left, rfl⟩
        · obtain ⟨h, g, member, kept, -⟩ := of_mem_sweepDExtra_told left
          rw [DExtraHandler.answers_unlink env i _ kept]
          exact ⟨h, member, rfl⟩
        · exact ⟨h', left, rfl⟩
      obtain ⟨h, member, same⟩ := stays
      exact .inl ⟨h, member, .same rfl same⟩

def CalledDCS (e : LinkEvent n) (outs : List (LinkOutput n)) (r : Nat) (h h' : DCSHandler n) : Prop :=
  ∃ told, (∀ o ∈ told, .handler .dcs r o ∈ outs) ∧ h'.myPort = h.myPort ∧
    LinkHandler.Turned (e.ms .dcs) (e.ShowsDCS h.key h.myPort) (fun id => e.CarriesDCS h.key h.myPort id) told
      h.toLinkHandler h'.toLinkHandler

theorem CalledDCS.same {e : LinkEvent n} {r : Nat} {h h' : DCSHandler n} (still : e.ms .dcs = 0)
    (port : h'.myPort = h.myPort) (same : h'.toLinkHandler = h.toLinkHandler) : CalledDCS e outs r h h' := by
  refine ⟨[], List.forall_mem_nil _, port, ?_⟩
  rw [same, still]
  exact .refl _

theorem CalledDCS.turns {input : DCSInput} {r : Nat} {h h' : DCSHandler n} {turn : DCSHandler.Turn n}
    (turns : DCSHandler.Turns input h turn) (left : turn.2.1 = some h')
    (told : ∀ o ∈ turn.2.2, .handler .dcs r o ∈ outs) : CalledDCS (.dcs input) outs r h h' := by
  have time : (LinkEvent.dcs (n := n) input).ms .dcs = input.ms := by
    simp [LinkEvent.ms]
  refine ⟨turn.2.2, told, ?_⟩
  rw [time]
  exact turns h' left

/-- A loop that returns at the first handler calls one that passes the test. -/
theorem of_mem_firstDCS {test : DCSHandler n → Bool} {f : DCSHandler n → GroupHandler → DCSHandler.Turn n} {r : Nat}
    {h' : DCSHandler n} (left : (r, h') ∈ (w.firstDCS test f).1.dcs.entries) :
    (r, h') ∈ w.dcs.entries ∨ ∃ h g, (r, h) ∈ w.dcs.entries ∧ test h = true ∧ (f h g).2.1 = some h' ∧
      ∀ o ∈ (f h g).2.2, .handler .dcs r o ∈ (w.firstDCS test f).2 := by
  unfold firstDCS at left ⊢
  cases found : w.dcs.entries.find? (test ·.2) with
  | none =>
      rw [found] at left
      exact .inl left
  | some e =>
      simp only [found] at left ⊢
      obtain ⟨h, g, member, kept, told⟩ := of_mem_sweepDCS_told left
      split at kept
      · rename_i here
        subst here
        have same : h = e.2 := w.dcs.unique member (List.mem_of_find?_eq_some found)
        rw [if_pos rfl] at told
        have passes : test e.2 = true := by simpa using List.find?_some found
        exact .inr ⟨h, g, member, same ▸ passes, kept, told⟩
      · cases kept
        exact .inl member

theorem dcs_input {input : DCSInput} {r : Nat} {h' : DCSHandler n}
    (left : (r, h') ∈ (w.stepDCS input).1.dcs.entries) :
    ∃ h, (r, h) ∈ w.dcs.entries ∧ CalledDCS (.dcs input) (w.stepDCS input).2 r h h' := by
  cases input with
  | ambe env data =>
      rcases of_mem_firstDCS left with same | ⟨h, g, member, hears, kept, told⟩
      · exact ⟨h', same, .same rfl rfl rfl⟩
      · exact ⟨h, member, .turns (DCSHandler.turns_ambe env data (of_decide_eq_true hears)) kept told⟩
  | poll data =>
      rcases of_mem_firstDCS left with same | ⟨h, g, member, own, kept, told⟩
      · exact ⟨h', same, .same rfl rfl rfl⟩
      · exact ⟨h, member, .turns (DCSHandler.turns_poll (of_decide_eq_true own)) kept told⟩
  | connect data =>
      obtain ⟨h, g, member, kept, told⟩ := of_mem_sweepDCS_told left
      exact ⟨h, member, .turns (DCSHandler.turns_connect data) kept told⟩
  | clock ms =>
      obtain ⟨h, g, member, kept, told⟩ := of_mem_sweepDCS_told left
      exact ⟨h, member, .turns (DCSHandler.turns_clock ms) kept told⟩

/-- The DCS handlers that a step leaves. -/
theorem dcs_left {e : LinkEvent n} {r : Nat} {h' : DCSHandler n} (taken : w.step e = .ok (w', outs))
    (left : (r, h') ∈ w'.dcs.entries) :
    (∃ h, (r, h) ∈ w.dcs.entries ∧ CalledDCS e outs r h h') ∨ MadeDCS outs r h' := by
  cases e with
  | group i input =>
      obtain ⟨h, member, port, same⟩ := (sameLinks_group taken).dcs r h' left
      exact .inl ⟨h, member, .same rfl port same⟩
  | dextra input =>
      obtain ⟨rfl, rfl⟩ : (w.stepDExtra input).1 = w' ∧ (w.stepDExtra input).2 = outs :=
        Prod.mk.inj (Except.ok.inj taken)
      have same : (w.stepDExtra input).1.dcs = w.dcs := by cases input <;> rfl
      rw [same] at left
      exact .inl ⟨h', left, .same rfl rfl rfl⟩
  | dcs input =>
      obtain ⟨rfl, rfl⟩ : (w.stepDCS input).1 = w' ∧ (w.stepDCS input).2 = outs :=
        Prod.mk.inj (Except.ok.inj taken)
      exact .inl (dcs_input left)
  | remoteLink i env reflector port =>
      obtain ⟨rfl, rfl⟩ := Prod.mk.inj (Except.ok.inj taken)
      rcases (request_left w i _ port).2 r h' left with old | new
      · exact .inl ⟨h', old, .same rfl rfl rfl⟩
      · exact .inr new
  | remoteUnlink i env =>
      obtain ⟨rfl, rfl⟩ : (w.remoteUnlink i env).1 = w' ∧ (w.remoteUnlink i env).2 = outs :=
        Prod.mk.inj (Except.ok.inj taken)
      refine .inl ?_
      unfold remoteUnlink at left ⊢
      dsimp only at left ⊢
      split at left
      · exact ⟨h', left, .same rfl rfl rfl⟩
      · exact ⟨h', left, .same rfl rfl rfl⟩
      · obtain ⟨h, g, member, kept, told⟩ := of_mem_sweepDCS_told left
        obtain ⟨port, turned⟩ := DCSHandler.turned_unlink env i _ kept
        exact ⟨h, member, _, told, port, turned⟩

end

/-! What holds after every step. -/

/-- The milliseconds that an entry takes for the handlers of the protocol. -/
def took (protocol : DStarProtocol) (x : LinkEntry n) : Nat := x.event.ms protocol

/-- The handler sends its reflector the request of a state. -/
def Asked (protocol : DStarProtocol) (r : Nat) (k : LinkKey) (state : LinkState) (x : LinkEntry n) : Prop :=
  ∃ c, .handler protocol r (.connect c) ∈ x.outs ∧ c.type = state.request ∧ c.yourAddress = k.yourAddress ∧
    c.yourPort = k.yourPort

/-- A DExtra handler polls its reflector, or the reflector accepts the link. -/
def Polls (r : Nat) (k : LinkKey) (x : LinkEntry n) : Prop :=
  (∃ p, .handler .dextra r (.poll p) ∈ x.outs) ∨ x.event.AcceptsDExtra k

/-- No tick is so long that the timers wrap around. -/
def Ticks (_ : World n) (e : LinkEvent n) : Prop := 60001 + e.ms .dextra ≤ word ∧ 60001 + e.ms .dcs ≤ word

instance (w : World n) (e : LinkEvent n) : Decidable (Ticks w e) := inferInstanceAs (Decidable (_ ∧ _))

structure LiveDExtra (tr : List (LinkEntry n)) (r : Nat) (h : DExtraHandler n) : Prop where
  live : h.Live 60001 (fun x => x.event.ShowsDExtra h.key) (fun id x => x.event.CarriesDExtra h.key id)
    (Asked .dextra r h.key) (took .dextra) tr
  length : h.pollTimer.timeout = 10001
  state : h.linkState ≠ .unlinking
  polls : h.linkState = .linked →
    h.pollTimer.Kept 10001 ∧ Recent (Polls r h.key) (took .dextra) h.pollTimer.age tr

def LiveDCS (tr : List (LinkEntry n)) (r : Nat) (h : DCSHandler n) : Prop :=
  h.Live 30001 (fun x => x.event.ShowsDCS h.key h.myPort) (fun id x => x.event.CarriesDCS h.key h.myPort id)
    (Asked .dcs r h.key) (took .dcs) tr

structure Timed (tr : List (LinkEntry n)) (w : World n) : Prop where
  dextra : ∀ r h, (r, h) ∈ w.dextra.entries → LiveDExtra tr r h
  dcs : ∀ r h, (r, h) ∈ w.dcs.entries → LiveDCS tr r h

section
variable {w : World n} {tr : List (LinkEntry n)} {x : LinkEntry n} {r : Nat}

theorem asked_of_asks {protocol : DStarProtocol} {h : LinkHandler n} {told : List HandlerOutput}
    (out : ∀ o ∈ told, .handler protocol r o ∈ x.outs) (asks : h.Asks told) :
    Asked protocol r h.key h.linkState x := by
  obtain ⟨c, sent, type, address, port⟩ := asks
  exact ⟨c, out _ sent, type, address, port⟩

theorem LiveDExtra.called {h h' : DExtraHandler n} (live : LiveDExtra tr r h) (ticks : Ticks w x.event)
    (called : CalledDExtra x.event x.outs r h h') : LiveDExtra (tr ++ [x]) r h' := by
  obtain ⟨told, out, turned, polled⟩ := called
  have key : h'.key = h.key := turned.key
  constructor
  · rw [key]
    refine live.live.turned (by decide) ticks.1 turned fun asks => ?_
    rw [← key]
    exact asked_of_asks out asks
  · exact polled.length.trans live.length
  · exact fun unlinking => live.state (polled.state unlinking)
  · intro linked
    rw [key]
    rcases polled.polls linked with ⟨before, moves⟩ | ⟨accepted, started⟩
    · obtain ⟨kept, recent⟩ := live.polls before
      obtain ⟨kept', counted⟩ := kept.moves (by decide) (by have := ticks.1; omega) moves
      refine ⟨kept', ?_⟩
      rcases counted with counted | ⟨⟨p, sent⟩, -⟩
      · exact recent.later counted.ge
      · exact .now (.inl ⟨p, out _ sent⟩)
    · rw [started]
      exact ⟨(Timer.kept_start live.length (by decide)).1, .now (.inr accepted)⟩

theorem LiveDExtra.made {h : DExtraHandler n} (new : ∃ i reflector repeater address,
      h = .new i reflector repeater address)
    (asked : Recent (Asked .dextra r h.key .linking) (took .dextra) 0 tr ∨ total (took .dextra) tr = 0) :
    LiveDExtra tr r h := by
  obtain ⟨i, reflector, repeater, address, rfl⟩ := new
  have length : (Timer.new 1000 10 0).timeout = 10001 := by decide
  exact ⟨LinkHandler.live_new _ _ _ _ _ _ 60 (by decide) asked, length, by simp [DExtraHandler.new, LinkHandler.new],
    by simp [DExtraHandler.new, LinkHandler.new]⟩

theorem LiveDCS.made {h : DCSHandler n} (new : ∃ i reflector repeater address port,
      h = .new i reflector repeater address port)
    (asked : Recent (Asked .dcs r h.key .linking) (took .dcs) 0 tr ∨ total (took .dcs) tr = 0) :
    LiveDCS tr r h := by
  obtain ⟨i, reflector, repeater, address, port, rfl⟩ := new
  exact LinkHandler.live_new _ _ _ _ _ _ 30 (by decide) asked

theorem Timed.step {w' : World n} {e : LinkEvent n} {outs : List (LinkOutput n)} (timed : Timed tr w)
    (ticks : Ticks w e) (taken : w.step e = .ok (w', outs)) : Timed (tr ++ [⟨w, e, outs, w'⟩]) w' := by
  constructor
  · intro r h' left
    have valid : ∀ e ∈ w.dextra.entries, e.2.linkState ≠ .unlinking :=
      fun e member => (timed.dextra e.1 e.2 member).state
    rcases dextra_left taken valid left with ⟨h, member, called⟩ | made
    · exact (timed.dextra r h member).called (w := w) ticks called
    · exact .made made.new (.inl (.now ⟨_, made.told, rfl, rfl, rfl⟩))
  · intro r h' left
    rcases dcs_left taken left with ⟨h, member, told, out, port, turned⟩ | made
    · have key : h'.key = h.key := turned.key
      unfold LiveDCS
      rw [key, port]
      refine (timed.dcs r h member).turned (by decide) ticks.2 turned fun asks => ?_
      rw [← key]
      exact asked_of_asks out asks
    · exact .made made.new (.inl (.now ⟨_, made.told, rfl, rfl, rfl⟩))

end

/-- The handlers of the start, none of which has seen a tick. -/
theorem timed_start (configs : Fin n → GroupHandler.Config) (callsign : Str) (startUp : Option (StartUp n)) :
    Timed [] (start configs callsign startUp) := by
  have made : (∀ r h, (r, h) ∈ (start configs callsign startUp).dextra.entries →
      ∃ i reflector repeater address, h = .new i reflector repeater address) ∧
      ∀ r h, (r, h) ∈ (start configs callsign startUp).dcs.entries →
        ∃ i reflector repeater address port, h = .new i reflector repeater address port := by
    unfold start linkAll
    cases startUp with
    | none => exact ⟨by simp [boot, Registry.empty], by simp [boot, Registry.empty]⟩
    | some s =>
        dsimp only
        generalize List.finRange n = l
        induction l using List.reverseRecOn with
        | nil => exact ⟨by simp [boot, Registry.empty], by simp [boot, Registry.empty]⟩
        | append_singleton l i ih =>
            rw [List.foldl_append, List.foldl_cons, List.foldl_nil]
            constructor
            · intro r h left
              rcases (request_left _ i _ _).1 r h left with old | new
              · exact ih.1 r h old
              · exact new.new
            · intro r h left
              rcases (request_left _ i _ _).2 r h left with old | new
              · exact ih.2 r h old
              · exact new.new
  exact ⟨fun r h member => .made (made.1 r h member) (.inr rfl),
    fun r h member => .made (made.2 r h member) (.inr rfl)⟩

section
variable {configs : Fin n → GroupHandler.Config} {callsign : Str} {startUp : Option (StartUp n)}
  {tr : List (LinkEntry n)} {w : World n}

theorem timed_run (run : Run step (start configs callsign startUp) tr w) (ticks : Under Ticks tr) : Timed tr w :=
  run.history (H := Timed) (timed_start configs callsign startUp) (fun timed now taken => timed.step now taken) ticks

theorem age_le {limit : Nat} {t : Timer} (kept : t.Kept (limit + 1)) : t.age ≤ limit := by
  have below := kept.below.timer
  unfold Timer.age
  omega

/-- A handler is not taken for linked without a sign of its reflector in the last minute, or half
minute over DCS, and holds on to a stream for two seconds without a packet of it. -/
theorem links_heard (run : Run step (start configs callsign startUp) tr w) (ticks : Under Ticks tr) :
    (∀ r h, (r, h) ∈ w.dextra.entries →
      (h.linkState = .linked → Recent (fun x => x.event.ShowsDExtra h.key) (took .dextra) 60000 tr) ∧
        (h.id ≠ 0 → Recent (fun x => x.event.CarriesDExtra h.key h.id) (took .dextra) 2000 tr)) ∧
    ∀ r h, (r, h) ∈ w.dcs.entries →
      (h.linkState = .linked → Recent (fun x => x.event.ShowsDCS h.key h.myPort) (took .dcs) 30000 tr) ∧
        (h.id ≠ 0 → Recent (fun x => x.event.CarriesDCS h.key h.myPort h.id) (took .dcs) 2000 tr) := by
  have timed := timed_run run ticks
  constructor
  · intro r h member
    have live := (timed.dextra r h member).live
    refine ⟨fun linked => (live.shown linked).mono (age_le live.hears), fun named => ?_⟩
    obtain ⟨kept, recent⟩ := live.carried named
    exact recent.mono (age_le kept)
  · intro r h member
    have live : h.Live .. := timed.dcs r h member
    refine ⟨fun linked => (live.shown linked).mono (age_le live.hears), fun named => ?_⟩
    obtain ⟨kept, recent⟩ := live.carried named
    exact recent.mono (age_le kept)

/-- A handler that waits for an answer has sent its request in the last minute, or the server was
started then, and a linked DExtra handler has polled its reflector in the last ten seconds, or was
accepted then. -/
theorem requests_repeated (run : Run step (start configs callsign startUp) tr w) (ticks : Under Ticks tr) :
    (∀ r h, (r, h) ∈ w.dextra.entries →
      (h.linkState ≠ .linked → Recent (Asked .dextra r h.key h.linkState) (took .dextra) 60000 tr ∨
        total (took .dextra) tr ≤ 60000) ∧
      (h.linkState = .linked → Recent (Polls r h.key) (took .dextra) 10000 tr)) ∧
    ∀ r h, (r, h) ∈ w.dcs.entries → h.linkState ≠ .linked →
      Recent (Asked .dcs r h.key h.linkState) (took .dcs) 60000 tr ∨ total (took .dcs) tr ≤ 60000 := by
  have timed := timed_run run ticks
  have asked {Asked : LinkState → LinkEntry n → Prop} {time : LinkEntry n → Nat} {h : LinkHandler n}
      (awaits : h.Awaits Asked time tr) : Recent (Asked h.linkState) time 60000 tr ∨ total time tr ≤ 60000 := by
    obtain ⟨limit, range, kept, before⟩ := awaits
    have below := kept.below.timer
    have bound : h.tryTimer.age ≤ 60000 := by
      unfold Timer.age
      omega
    exact before.imp (fun recent => recent.mono bound) fun early => early.trans bound
  constructor
  · intro r h member
    have live := timed.dextra r h member
    refine ⟨fun other => asked (live.live.asked other), fun linked => ?_⟩
    obtain ⟨kept, recent⟩ := live.polls linked
    exact recent.mono (age_le kept)
  · intro r h member other
    have live : h.Live .. := timed.dcs r h member
    exact asked (live.asked other)

end

/-- A stream that comes in over a link, and a tick. -/
theorem stream_heard : ∃ tr w r h, Run step Sample.server tr w ∧ (r, h) ∈ w.dextra.entries ∧ h.id = 7 ∧
    total (took .dextra) tr = 20 ∧
    Recent (fun x => x.event.ShowsDExtra h.key) (took .dextra) 60000 tr ∧
    Recent (fun x => x.event.CarriesDExtra h.key h.id) (took .dextra) 2000 tr := by
  obtain ⟨tr, w, run, checked⟩ := exists_run_of_accepts step Sample.server
    (Sample.linkDExtra ++ Sample.reflectorHeader 7 :: Sample.tick 20)
    (fun tr w => decide (Under Ticks tr) && (decide (total (took .dextra) tr = 20) &&
      w.dextra.entries.any fun e => decide (e.2.linkState = .linked ∧ e.2.id = 7))) (by decide +kernel)
  simp only [Bool.and_eq_true, decide_eq_true_eq, List.any_eq_true] at checked
  obtain ⟨ticks, time, ⟨r, h⟩, member, linked, named⟩ := checked
  have heard := (links_heard run ticks).1 r h member
  exact ⟨tr, w, r, h, run, member, named, time, heard.1 linked, heard.2 (by rw [named]; decide)⟩

/-- A link that waits for its answer, after the first request has been repeated. -/
theorem request_again : ∃ tr w r h, Run step Sample.server tr w ∧ (r, h) ∈ w.dcs.entries ∧ h.tryCount = 1 ∧
    total (took .dcs) tr = 1001 ∧ (Recent (Asked .dcs r h.key h.linkState) (took .dcs) 60000 tr ∨
      total (took .dcs) tr ≤ 60000) := by
  obtain ⟨tr, w, run, checked⟩ := exists_run_of_accepts step Sample.server
    (.remoteLink 0 Sample.linkEnv Sample.dcsReflector (some 40001) :: Sample.tick 1001)
    (fun tr w => decide (Under Ticks tr) && (decide (total (took .dcs) tr = 1001) &&
      w.dcs.entries.any fun e => decide (e.2.linkState ≠ .linked ∧ e.2.tryCount = 1))) (by decide +kernel)
  simp only [Bool.and_eq_true, decide_eq_true_eq, List.any_eq_true] at checked
  obtain ⟨ticks, time, ⟨r, h⟩, member, waits, tried⟩ := checked
  exact ⟨tr, w, r, h, run, member, tried, time, (requests_repeated run ticks).2 r h member waits⟩

end World
end SmartGroup
