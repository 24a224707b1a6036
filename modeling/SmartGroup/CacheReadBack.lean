import SmartGroup.CacheManager

/-! What the cache answers for a user whose repeater, gateway and address have just been
written. The gateway is stored only where its first seven characters are not the
repeater's; otherwise the lookup answers with an older entry of the repeater, or with the
gateway of the repeater's own name. -/
namespace SmartGroup
open Bytes Sweep

namespace CacheManager

section
variable (c : CacheManager) {user rptr gate addr : Str} (time : Str)

theorem updateUser_stored (named : user ≠ []) (known : rptr ≠ []) (reached : gate ≠ [])
    (placed : addr ≠ []) :
    (c.updateUser user rptr gate addr time).userRptr = c.userRptr.insert user rptr ∧
      (c.updateUser user rptr gate addr time).rptrGate =
        (if rptr.take 7 = gate.take 7 then c.rptrGate else c.rptrGate.insert rptr gate) ∧
      (c.updateUser user rptr gate addr time).gateAddr = c.gateAddr.insert gate addr := by
  have filed : ¬(gate = [] ∨ addr = []) := not_or.mpr ⟨reached, placed⟩
  simp only [updateUser, if_neg named, if_neg known, if_neg filed]
  refine ⟨?_, ?_, ?_⟩
  all_goals split <;> split <;> rfl

/-- The gateway that is answered after the write. -/
theorem updateUser_findRptrGate (named : user ≠ []) (known : rptr ≠ []) (reached : gate ≠ [])
    (placed : addr ≠ []) :
    (c.updateUser user rptr gate addr time).findRptrGate rptr =
      if rptr.take 7 = gate.take 7 then c.findRptrGate rptr else gate := by
  obtain ⟨-, gates, -⟩ := c.updateUser_stored time named known reached placed
  simp only [findRptrGate, if_neg known, gates]
  by_cases same : rptr.take 7 = gate.take 7
  · simp only [if_pos same]
  · simp [if_neg same]

theorem updateUser_findUserData (named : user ≠ []) (known : rptr ≠ []) (reached : gate ≠ [])
    (placed : addr ≠ []) :
    ((c.updateUser user rptr gate addr time).findUserData user).rptr = rptr ∧
      ((c.updateUser user rptr gate addr time).findUserData user).gate =
        (if rptr.take 7 = gate.take 7 then c.findRptrGate rptr else gate) ∧
      (c.updateUser user rptr gate addr time).findGateAddr gate = addr := by
  obtain ⟨rptrs, -, addrs⟩ := c.updateUser_stored time named known reached placed
  have rptr_found : (c.updateUser user rptr gate addr time).findUserRptr user = rptr := by
    simp [findUserRptr, named, rptrs]
  refine ⟨rptr_found, ?_, ?_⟩
  · rw [findUserData, rptr_found]
    exact c.updateUser_findRptrGate time named known reached placed
  · simp [findGateAddr, reached, addrs]

/-- A repeater's answer is the gateway of its entry, or of its own name. -/
theorem findRptrGate_eq_iff (known : rptr ≠ []) (eight : rptr.length = longCallsignLength)
    (long : gate.length = longCallsignLength) (same : rptr.take 7 = gate.take 7) :
    c.findRptrGate rptr = gate ↔
      c.rptrGate[rptr]? = some gate ∨ c.rptrGate[rptr]? = none ∧ gate[7]? = some 71 := by
  have own : rptr.set 7 71 = gate ↔ gate[7]? = some 71 := by
    simp only [longCallsignLength] at eight long
    have cut : gate = gate.take 7 ++ [gate[7]] := by
      conv_lhs => rw [← List.take_append_drop 7 gate]
      rw [List.drop_eq_getElem_cons (by omega), List.drop_eq_nil_of_le (by omega)]
    calc
      rptr.set 7 71 = gate ↔ gate.take 7 ++ [(71 : UInt8)] = gate := by rw [set_last eight, same]
      _ ↔ gate.take 7 ++ [(71 : UInt8)] = gate.take 7 ++ [gate[7]] := iff_of_eq (congrArg _ cut)
      _ ↔ gate[7]? = some 71 := by
        rw [List.append_cancel_left_eq, List.getElem?_eq_getElem (by omega)]
        simp [eq_comm]
  unfold findRptrGate
  rw [if_neg known]
  cases c.rptrGate[rptr]? with
  | none => simp [own]
  | some stored => simp

end

/-- What is written of a user is read back, except where the gateway begins like the
repeater and the cache did not answer with it already. -/
theorem updateUser_read_back_iff (c : CacheManager) (user rptr gate addr time : Str)
    (named : user.length = longCallsignLength) (known : rptr.length = longCallsignLength)
    (reached : gate.length = longCallsignLength) (placed : addr ≠ []) :
    ((c.updateUser user rptr gate addr time).findUserData user = ⟨rptr, gate, addr⟩ ∧
        (c.updateUser user rptr gate addr time).findUserAddr user = addr) ↔
      (rptr.take 7 = gate.take 7 →
        c.rptrGate[rptr]? = some gate ∨ c.rptrGate[rptr]? = none ∧ gate[7]? = some 71) := by
  have nonempty {s : Str} (eight : s.length = longCallsignLength) : s ≠ [] := by
    rintro rfl
    cases eight
  obtain ⟨rptr_found, gate_found, addr_found⟩ := c.updateUser_findUserData time (nonempty named)
    (nonempty known) (nonempty reached) placed
  have addr_of (found : ((c.updateUser user rptr gate addr time).findUserData user).gate = gate) :
      (c.updateUser user rptr gate addr time).findUserAddr user = addr := by
    calc
      _ = (c.updateUser user rptr gate addr time).findGateAddr
          ((c.updateUser user rptr gate addr time).findUserData user).gate := rfl
      _ = (c.updateUser user rptr gate addr time).findGateAddr gate := congrArg _ found
      _ = addr := addr_found
  rw [imp_congr_right fun same => (c.findRptrGate_eq_iff (nonempty known) known reached same).symm]
  constructor
  · rintro ⟨whole, -⟩ same
    have found := congrArg UserData.gate whole
    rw [gate_found, if_pos same] at found
    exact found
  · intro kept
    have found : ((c.updateUser user rptr gate addr time).findUserData user).gate = gate := by
      rw [gate_found]
      split
      · rename_i same
        exact kept same
      · rfl
    have whole : (c.updateUser user rptr gate addr time).findUserData user =
        ⟨((c.updateUser user rptr gate addr time).findUserData user).rptr,
          ((c.updateUser user rptr gate addr time).findUserData user).gate,
          (c.updateUser user rptr gate addr time).findUserAddr user⟩ := rfl
    rw [whole, rptr_found, found, addr_of found]
    exact ⟨rfl, rfl⟩

/-- The gateway of the repeater's own name is read back from an empty cache. -/
theorem own_gateway_read_back :
    (empty.updateUser (str "USERA   ") (str "RPTR1  B") (str "RPTR1  G") (str "44.0.0.1") []).findUserData
        (str "USERA   ") = ⟨str "RPTR1  B", str "RPTR1  G", str "44.0.0.1"⟩ :=
  ((updateUser_read_back_iff empty _ _ _ _ [] rfl rfl rfl (by decide)).mpr fun _ =>
    .inr ⟨rfl, rfl⟩).1

/-- A repeater that was behind another gateway is still answered with that one, which
has another address or none. -/
theorem former_gateway_read_back :
    let c := empty.updateRptr (str "RPTR1  B") (str "GATE2  G") []
    let c := c.updateUser (str "USERA   ") (str "RPTR1  B") (str "RPTR1  G") (str "44.0.0.1") []
    c.findUserData (str "USERA   ") = ⟨str "RPTR1  B", str "GATE2  G", []⟩ ∧
      c.findUserAddr (str "USERA   ") = [] := by
  decide +kernel

end CacheManager
end SmartGroup
