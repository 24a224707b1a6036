import SmartGroup.Group.Iterators
import SmartGroup.Link.World

/-! The loops over `m_DExtraHandlers` that erase, with their iterator, and what the erasing
operations of the groups and the handlers do with theirs. -/
namespace SmartGroup
open Bytes Sweep Machine Cursor

namespace World

variable {n : Nat}

/-- The handlers and the groups after a loop, its outputs and the handlers visited. -/
abbrev LoopAt (n : Nat) :=
  Except (Stop Fault)
    ((Groups n × List (Nat × DExtraHandler n)) × List (Nat × HandlerOutput) × List Nat)

def loopDExtraAt (w : World n) (how : Idiom)
    (f : Nat → DExtraHandler n → GroupHandler → DExtraHandler.Turn n) : LoopAt n :=
  run how Prod.snd (objectTurn (visit (·.destination) f)) (w.groups, w.dextra.entries)

/-- `unlink(CGroupHandler *, const std::string &, bool)`. -/
def unlinkAt (w : World n) (env : Env) (group : Fin n) (callsign : Str) (exclude : Bool) : LoopAt n :=
  w.loopDExtraAt .assignBack fun _ h => h.unlink env group callsign exclude

def clockAt (w : World n) (ms : Nat) : LoopAt n :=
  w.loopDExtraAt .assign fun _ h => h.clockInt w.callsign ms

def processConnectAt (w : World n) (connect : ConnectData) : LoopAt n :=
  if connect.type = .ack ∨ connect.type = .nak ∨ connect.type = .unlink then
    w.loopDExtraAt .assign fun _ h => h.processConnect connect
  else .ok ((w.groups, w.dextra.entries), [], [])

section
variable (w : World n) (f : Nat → DExtraHandler n → GroupHandler → DExtraHandler.Turn n)

/-- The loop as the registry has it. -/
def sweptAt : LoopAt n :=
  let swept := w.dextra.sweep (visit (·.destination) f) w.groups
  .ok ((swept.1, swept.2.1.entries), swept.2.2, keys w.dextra.entries)

theorem swept_handlers :
    swept (φ := Fault) (objectTurn (visit (·.destination) f)) (w.groups, w.dextra.entries)
      w.dextra.entries = w.sweptAt f := by
  have distinct : (keys ([] ++ w.dextra.entries)).Nodup := w.dextra.distinct
  have loop := tryEach_objectTurn (φ := Fault) (s := w.groups) (visit (·.destination) f) distinct
  rw [List.nil_append] at loop
  rw [swept, loop]
  rfl

theorem loopDExtraAt_assign : w.loopDExtraAt .assign f = w.sweptAt f :=
  (run_assign (objectTurn_own _) (w.groups, w.dextra.entries) w.dextra.distinct).trans (w.swept_handlers f)

end

section
variable {w : World n} {env : Env} {group : Fin n} {callsign : Str} {exclude : Bool}

/-- The handler that stands first in the list is one to unlink. -/
def FirstSelected (w : World n) (group : Fin n) (callsign : Str) (exclude : Bool) : Prop :=
  ∃ e ∈ w.dextra.entries.head?, e.2.Selected group callsign exclude

instance (w : World n) (group : Fin n) (callsign : Str) (exclude : Bool) :
    Decidable (w.FirstSelected group callsign exclude) :=
  inferInstanceAs (Decidable (∃ e ∈ w.dextra.entries.head?, _))

theorem unlink_left (env : Env) (h : DExtraHandler n) (g : GroupHandler) :
    (h.unlink env group callsign exclude g).2.1 =
      if h.Selected group callsign exclude then none else some h := by
  unfold DExtraHandler.unlink
  split <;> rfl

theorem unlinkAt_erased (first : w.FirstSelected group callsign exclude) :
    w.unlinkAt env group callsign exclude = .error (.misuse .beforeFirst) := by
  obtain ⟨⟨r, h⟩, head, selected⟩ := first
  obtain ⟨rest, start⟩ := List.head?_eq_some_iff.mp head
  refine run_assignBack_erased start w.dextra.distinct rfl ?_
  dsimp only [visit]
  rw [unlink_left, if_pos selected]

theorem unlinkAt_eq (env : Env) (spared : ¬w.FirstSelected group callsign exclude) :
    w.unlinkAt env group callsign exclude =
      w.sweptAt fun _ h => h.unlink env group callsign exclude := by
  have stays : ∀ e ∈ w.dextra.entries.head?, ∀ s' o,
      objectTurn (φ := Fault) (visit (·.destination) fun _ h => h.unlink env group callsign exclude)
        (w.groups, w.dextra.entries) e = .ok (s', o) → e.1 ∈ keys s'.2 := by
    intro ⟨r, h⟩ head s' o turn
    obtain ⟨rest, start⟩ := List.head?_eq_some_iff.mp head
    have other : ¬h.Selected group callsign exclude := fun selected => spared ⟨(r, h), head, selected⟩
    cases turn
    dsimp only [visit]
    rw [unlink_left, if_neg other, start]
    simp [Cursor.put, keys]
  have distinct : (keys (Prod.snd (w.groups, w.dextra.entries))).Nodup := w.dextra.distinct
  exact (run_assignBack_kept (objectTurn_own _) distinct stays).trans (w.swept_handlers _)

/-- The handlers that stay. -/
theorem swept_unlink (w : World n) (env : Env) (group : Fin n) (callsign : Str) (exclude : Bool) :
    (w.dextra.sweep (visit (·.destination) fun _ h => h.unlink env group callsign exclude)
        w.groups).2.1.entries =
      w.dextra.entries.filter fun e => ¬e.2.Selected group callsign exclude := by
  have own (gs : Groups n) (r : Nat) (h : DExtraHandler n) :
      (visit (·.destination) (fun _ h => h.unlink env group callsign exclude) gs r h).2.1 =
        if h.Selected group callsign exclude then none else some h :=
    unlink_left env h _
  refine (Registry.loop_entries own w.groups w.dextra.entries).trans ?_
  induction w.dextra.entries with
  | nil => rfl
  | cons e l ih =>
      rw [List.flatMap_cons, ih]
      by_cases selected : e.2.Selected group callsign exclude <;> simp [selected]

end

end World

/-- A call of an operation that erases, with the state in which it is made. -/
inductive ErasingCall (n : Nat) where
  | processHeader (env : Env) (g : GroupHandler) (header : HeaderData)
  | logoffUser (g : GroupHandler) (callsign : Str)
  | clockInt (env : Env) (g : GroupHandler) (ms : Nat)
  | unlink (w : World n) (env : Env) (group : Fin n) (callsign : Str) (exclude : Bool)
  | clock (w : World n) (ms : Nat)
  | processConnect (w : World n) (connect : ConnectData)

namespace ErasingCall

variable {n : Nat}

/-- No iterator is misused; `unlink` visits every handler once, in the order of the list,
and removes those it is for. -/
def Meets : ErasingCall n → Prop
  | .processHeader env g header => Sound (g.processHeaderAt env header)
  | .logoffUser g callsign => Sound (g.logoffUserAt callsign)
  | .clockInt env g ms => Sound (g.clockIntAt env ms)
  | .unlink w env group callsign exclude =>
      ∃ groups outs, w.unlinkAt env group callsign exclude =
        .ok ((groups, w.dextra.entries.filter fun e => ¬e.2.Selected group callsign exclude), outs,
          keys w.dextra.entries)
  | .clock w ms => Sound (w.clockAt ms)
  | .processConnect w connect => Sound (w.processConnectAt connect)

/-- The call neither ends the subscription of a user nor unlinks the first handler. -/
def Spared : ErasingCall n → Prop
  | .processHeader _ g header => ¬g.Unsubscribes header
  | .unlink w _ group callsign exclude => ¬w.FirstSelected group callsign exclude
  | .logoffUser _ _ | .clockInt _ _ _ | .clock _ _ | .processConnect _ _ => True

/-- Two of the operations misuse their iterator, and only then. -/
theorem meets_iff (call : ErasingCall n) : call.Meets ↔ call.Spared := by
  cases call with
  | processHeader env g header =>
      constructor
      · intro sound unsubscribes
        exact sound .erased (GroupHandler.processHeaderAt_erased unsubscribes)
      · intro stays
        rw [Meets, GroupHandler.processHeaderAt_eq stays]
        exact sound_ok _
  | logoffUser g callsign =>
      refine iff_of_true ?_ trivial
      rw [Meets, GroupHandler.logoffUserAt_eq]
      exact sound_ok _
  | clockInt env g ms =>
      refine iff_of_true ?_ trivial
      rw [Meets, GroupHandler.clockIntAt_eq]
      cases g.clockInt env ms with
      | error f => exact sound_fault f
      | ok result => exact sound_ok result
  | unlink w env group callsign exclude =>
      constructor
      · intro ⟨groups, outs, completes⟩ first
        rw [World.unlinkAt_erased first] at completes
        cases completes
      · intro spared
        have left := World.unlinkAt_eq env spared
        rw [World.sweptAt, World.swept_unlink] at left
        exact ⟨_, _, left⟩
  | clock w ms =>
      refine iff_of_true ?_ trivial
      rw [Meets, World.clockAt, World.loopDExtraAt_assign]
      exact sound_ok _
  | processConnect w connect =>
      refine iff_of_true ?_ trivial
      rw [Meets, World.processConnectAt]
      split
      · rw [World.loopDExtraAt_assign]
        exact sound_ok _
      · exact sound_ok _

section
open Sample

/-- A user leaves the group; the only link of the server is unlinked. -/
theorem misused_iterators :
    (∃ tr g, GroupHandler.GroupRun config tr g ∧
      ¬(processHeader env g (call userA leave 2) : ErasingCall 1).Meets) ∧
    ∃ tr w, Run World.step server tr w ∧ ¬(unlink w linkEnv 0 dextraReflector false).Meets := by
  constructor
  · obtain ⟨tr, g, run, accepted⟩ := Sample.run
      [.g2Header env (call userA smart 1), .g2AMBE env (lastFrame 1)]
      (fun _ g => decide (g.Unsubscribes (call userA leave 2))) (by decide +kernel)
    have unsubscribes : g.Unsubscribes (call userA leave 2) := of_decide_eq_true accepted
    refine ⟨tr, g, run, ?_⟩
    intro sound
    exact sound .erased (GroupHandler.processHeaderAt_erased unsubscribes)
  · obtain ⟨tr, w, run, accepted⟩ := exists_run_of_accepts World.step server
      [.remoteLink 0 linkEnv dextraReflector (some 40001)]
      (fun _ w => decide (w.FirstSelected 0 dextraReflector false)) (by decide +kernel)
    have first : w.FirstSelected 0 dextraReflector false := of_decide_eq_true accepted
    refine ⟨tr, w, run, ?_⟩
    intro ⟨groups, outs, completes⟩
    rw [World.unlinkAt_erased first] at completes
    cases completes

end

end ErasingCall
end SmartGroup
