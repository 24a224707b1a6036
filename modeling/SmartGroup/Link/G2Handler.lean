import Mathlib.Data.List.FinRange
import SmartGroup.Link.Identification
import SmartGroup.Link.Isolation

/-! `CG2Handler::process`: which group a G2 packet is handed to. A voice frame does not
name its group; it goes to the first one in the list with the frame's stream id. -/
namespace SmartGroup
open Bytes Sweep Machine

/-- The events of the server. The packets of the G2 socket come without a group. -/
inductive ServerEvent (n : Nat) where
  | g2Header (env : Env) (header : HeaderData)
  | g2AMBE (env : Env) (data : AMBEData)
  | logoffUser (i : Fin n) (callsign : Str)
  | clock (i : Fin n) (env : Env) (ms : Nat)
  | dextra (input : DExtraInput)
  | dcs (input : DCSInput)
  | remoteLink (i : Fin n) (env : Env) (reflector : Str) (port : Option Nat)
  | remoteUnlink (i : Fin n) (env : Env)

namespace World

variable {n : Nat}

/-- `CGroupHandler::findGroup(const CHeaderData &)`. -/
def findHeaderGroup (w : World n) (header : HeaderData) : Option (Fin n) :=
  (List.finRange n).find? fun i =>
    (w.groups i).groupCallsign = header.yourCall ∨ (w.groups i).offCallsign = header.yourCall

/-- `CGroupHandler::findGroup(const CAMBEData &)`. -/
def findFrameGroup (w : World n) (data : AMBEData) : Option (Fin n) :=
  (List.finRange n).find? fun i => (w.groups i).id = data.getId

/-- `CG2Handler::process` hands the frame to the group. -/
def Hands (w : World n) (data : AMBEData) (i : Fin n) : Prop := w.findFrameGroup data = some i

instance (w : World n) (data : AMBEData) (i : Fin n) : Decidable (w.Hands data i) :=
  inferInstanceAs (Decidable (_ = _))

/-- The event with the group that `CG2Handler::process` finds, if any. -/
def routed (w : World n) : ServerEvent n → Option (LinkEvent n)
  | .g2Header env header =>
      -- a busy reply
      if header.flag1 = 0x01 then none
      else (w.findHeaderGroup header).map fun i => .group i (.g2Header env header)
  | .g2AMBE env data => (w.findFrameGroup data).map fun i => .group i (.g2AMBE env data)
  | .logoffUser i callsign => some (.group i (.logoffUser callsign))
  | .clock i env ms => some (.group i (.clock env ms))
  | .dextra input => some (.dextra input)
  | .dcs input => some (.dcs input)
  | .remoteLink i env reflector port => some (.remoteLink i env reflector port)
  | .remoteUnlink i env => some (.remoteUnlink i env)

def serve : Machine.Step (World n) (ServerEvent n) (LinkOutput n) Fault := fun w e =>
  match w.routed e with
  | none => .ok (w, [])
  | some e' => w.step e'

abbrev ServerEntry (n : Nat) := Entry (World n) (ServerEvent n) (LinkOutput n)

/-- The entry past the dispatch. -/
def linkEntry (x : ServerEntry n) : Option (LinkEntry n) :=
  (x.pre.routed x.event).map fun e => ⟨x.pre, e, x.outs, x.post⟩

def linkTrace (tr : List (ServerEntry n)) : List (LinkEntry n) := tr.filterMap linkEntry

/-- What the server does, the groups and their link handlers do. -/
theorem serve_run {s w : World n} {tr : List (ServerEntry n)} (run : Run serve s tr w) :
    Run step s (linkTrace tr) w := by
  induction run with
  | nil => exact .nil
  | @snoc tr w e w' o earlier last ih =>
      have split : linkTrace (tr ++ [⟨w, e, o, w'⟩]) = linkTrace tr ++ (linkEntry ⟨w, e, o, w'⟩).toList := by
        rw [linkTrace, List.filterMap_append]
        cases entry : linkEntry ⟨w, e, o, w'⟩ with
        | none => simp [linkTrace, entry]
        | some y => simp [linkTrace, entry]
      rw [split]
      unfold serve at last
      cases route : w.routed e with
      | none =>
          rw [route] at last
          cases last
          have skipped : linkEntry ⟨w, e, [], w⟩ = none := by rw [linkEntry, route]; rfl
          rw [skipped, Option.toList_none, List.append_nil]
          exact ih
      | some e' =>
          rw [route] at last
          have taken : linkEntry ⟨w, e, o, w'⟩ = some ⟨w, e', o, w'⟩ := by rw [linkEntry, route]; rfl
          rw [taken]
          exact ih.snoc last

/-- The frame goes to the first group in the list that has its id. -/
theorem hands_iff (w : World n) (data : AMBEData) (i : Fin n) :
    w.Hands data i ↔ (w.groups i).id = data.getId ∧ ∀ j < i, (w.groups j).id ≠ data.getId := by
  unfold Hands findFrameGroup
  rw [← Fin.find?_eq_find?_finRange, Fin.find?_eq_some_iff]
  simp only [decide_eq_true_eq, decide_eq_false_iff_not, ne_eq]

/-- The frames of a stream reach the group that accepted its header as long as no group
before it in the list has a stream with the same id. -/
theorem frames_reach_opener_iff {s w : World n} {tr : List (ServerEntry n)} (run : Run serve s tr w)
    {i : Fin n} {header : HeaderData} (stream : StreamOf i header (linkTrace tr)) {data : AMBEData}
    (own : data.getId = header.getId) :
    (∀ j, w.Hands data j ↔ j = i) ↔ ∀ j < i, (w.groups j).id ≠ data.getId := by
  have current : (w.groups i).id = data.getId := (stream.id (serve_run run)).trans own.symm
  constructor
  · intro only
    exact ((hands_iff w data i).mp ((only i).mpr rfl)).2
  · intro alone j
    have reaches : w.Hands data i := (hands_iff w data i).mpr ⟨current, alone⟩
    constructor
    · intro handed
      exact Option.some.inj (handed.symm.trans reaches)
    · intro same
      exact same ▸ reaches

end World

/-! Two groups, and two gateways that send with the same stream id. -/
namespace Sample

def gatewayA : Str := str "44.0.0.1"
def gatewayB : Str := str "44.0.0.2"

def callFrom (address my your : Str) (id : Nat) : HeaderData :=
  { call my your id with yourAddress := address }

def frameFrom (address : Str) (id : Nat) : AMBEData := { frame id with yourAddress := address }

def bothGroups : World 2 := .start bothConfigs (str "SMART1  ") none

/-- A user of each group talks. -/
def talks (idA idB : Nat) : List (ServerEvent 2) :=
  [.g2Header env (callFrom gatewayA userA smart idA),
    .g2Header env (callFrom gatewayB userB (str "SMART2  ") idB)]

end Sample

namespace World

section
open Sample

instance (i : Fin n) (header : HeaderData) (tr : List (LinkEntry n)) : Decidable (StreamOf i header tr) :=
  decidableSince _ _ tr

theorem frames_reach_second : ∃ tr w, Run serve bothGroups tr w ∧
    (w.groups 0).id = 6 ∧ ∀ j, w.Hands (frameFrom gatewayB 7) j ↔ j = 1 := by
  obtain ⟨tr, w, run, accepted⟩ := exists_run_of_accepts serve bothGroups (talks 6 7)
    (fun tr w => decide (StreamOf 1 (callFrom gatewayB userB (str "SMART2  ") 7) (linkTrace tr) ∧
      (w.groups 0).id = 6)) (by decide +kernel)
  obtain ⟨stream, first⟩ := of_decide_eq_true accepted
  refine ⟨tr, w, run, first, (frames_reach_opener_iff run stream (by decide)).mpr ?_⟩
  intro j before
  have zero : j = 0 := by omega
  rw [zero, first]
  decide

/-- The frames of the second group's user go to the first group. -/
theorem frames_reach_first : ∃ tr w, Run serve bothGroups tr w ∧
    StreamOf 1 (callFrom gatewayB userB (str "SMART2  ") 7) (linkTrace tr) ∧
      w.Hands (frameFrom gatewayB 7) 0 ∧ ¬∀ j, w.Hands (frameFrom gatewayB 7) j ↔ j = 1 := by
  obtain ⟨tr, w, run, accepted⟩ := exists_run_of_accepts serve bothGroups (talks 7 7)
    (fun tr w => decide (StreamOf 1 (callFrom gatewayB userB (str "SMART2  ") 7) (linkTrace tr) ∧
      w.Hands (frameFrom gatewayB 7) 0)) (by decide +kernel)
  obtain ⟨stream, astray⟩ := of_decide_eq_true accepted
  refine ⟨tr, w, run, stream, astray, fun only => ?_⟩
  exact absurd ((only 0).mp astray) (by decide)

end

end World
end SmartGroup
