import SmartGroup.Irc.App
import SmartGroup.Support.Last

/-! What rows of the repeater table do to the gateways that the cache answers with.
A row whose value begins like its key is not stored. The lookup's own answer stands in
for it where there is no entry, but not where an earlier row left one. -/
namespace SmartGroup
open Bytes Sweep Last

theorem length_of_dbPattern {s : Str} (form : dbPattern s) : s.length = 8 := by
  simp only [dbPattern, Bool.and_eq_true, beq_iff_eq] at form
  exact form.1

/-- A key has no blank, so that it can be told from the callsign it stands for. -/
theorem callsignOf_take_inj {s t : Str} (hs : dbPattern s) (ht : dbPattern t) {n : Nat} :
    (callsignOf s).take n = (callsignOf t).take n ↔ s.take n = t.take n := by
  have plain {u : Str} (form : dbPattern u) : ∀ b ∈ u, b ≠ 32 := by
    rintro b member rfl
    simp only [dbPattern, Bool.and_eq_true, List.all_eq_true] at form
    exact absurd (form.2 32 member) (by decide)
  have back {u : Str} (form : dbPattern u) :
      ((callsignOf u).take n).map (fun b => if b = 32 then 95 else b) = u.take n := by
    rw [callsignOf, replaceChar, ← List.map_take, List.map_map]
    refine (List.map_congr_left fun b member => ?_).trans (List.map_id _)
    have apart := plain form b (List.mem_of_mem_take member)
    by_cases mark : b = 95 <;> simp [mark, apart]
  constructor
  · intro same
    rw [← back hs, ← back ht, same]
  · intro same
    rw [callsignOf, callsignOf, replaceChar, replaceChar, ← List.map_take, ← List.map_take, same]

theorem callsignOf_inj {s t : Str} (hs : dbPattern s) (ht : dbPattern t) :
    callsignOf s = callsignOf t ↔ s = t := by
  have whole := callsignOf_take_inj hs ht (n := 8)
  rwa [List.take_of_length_le (by simp [callsignOf, length_of_dbPattern hs]),
    List.take_of_length_le (by simp [callsignOf, length_of_dbPattern ht]),
    List.take_of_length_le (length_of_dbPattern hs).le,
    List.take_of_length_le (length_of_dbPattern ht).le] at whole

/-- Gateways are told apart by seven characters. -/
theorem gatewayOf_inj {s t : Str} (hs : dbPattern s) (ht : dbPattern t) :
    gatewayOf s = gatewayOf t ↔ s.take 7 = t.take 7 := by
  rw [← callsignOf_take_inj hs ht]
  have eight {u : Str} (form : dbPattern u) : (callsignOf u).length = 8 := by
    simp [callsignOf, length_of_dbPattern form]
  simp only [gatewayOf, set_last (eight hs), set_last (eight ht)]
  exact ⟨fun same => (List.append_inj' same rfl).1, fun same => by rw [same]⟩

theorem callsignOf_ne_nil {s : Str} (form : dbPattern s) : callsignOf s ≠ [] := by
  have eight := length_of_dbPattern form
  rw [callsignOf, Ne, replaceChar_nil_iff]
  rintro rfl
  cases eight

theorem gatewayOf_ne_nil {s : Str} (form : dbPattern s) : gatewayOf s ≠ [] := by
  have eight := length_of_dbPattern form
  rw [gatewayOf, Ne, ← List.length_eq_zero_iff, List.length_set, callsignOf, replaceChar_length,
    eight]
  decide

/-- The gateway of a repeater: its entry, or the one of its own name. -/
theorem findRptrData_gate (c : CacheManager) {key : Str} (form : dbPattern key) :
    (c.findRptrData (callsignOf key)).1 = (c.rptrGate[callsignOf key]?).getD (gatewayOf key) := by
  simp only [CacheManager.findRptrData, CacheManager.findRptrGate,
    if_neg (callsignOf_ne_nil form), gatewayOf]
  cases c.rptrGate[callsignOf key]? <;> rfl

namespace IRCDDBApp

/-- A well-formed row of the repeater table. -/
def repeaterRow (msg : Str) : Option Row := (rowOf msg).filter fun row => row.tableID = 1

/-- The value that a message's row gives for a key. -/
def valueFor (key : Str) (msg : Str) : Option Str :=
  (repeaterRow msg).bind fun row => if row.key = key then some row.value else none

/-- The gateway of a row for a key that `doUpdate` stores: not where the value begins
like the key. -/
def gatewayFor (key : Str) (msg : Str) : Option Str :=
  (valueFor key msg).bind fun value =>
    if key.take 6 ≠ value.take 6 then some (gatewayOf value) else none

theorem valueFor_eq_some {key msg value : Str} :
    valueFor key msg = some value ↔
      ∃ row, repeaterRow msg = some row ∧ row.key = key ∧ row.value = value := by
  simp [valueFor, Option.bind_eq_some_iff]

theorem gatewayFor_eq_some {key msg gate : Str} :
    gatewayFor key msg = some gate ↔
      ∃ value, valueFor key msg = some value ∧ key.take 6 ≠ value.take 6 ∧ gatewayOf value = gate := by
  simp [gatewayFor, Option.bind_eq_some_iff]

/-- The values in rows have the form that the parser asks for. -/
theorem valueFor_form {key msg value : Str} (gives : valueFor key msg = some value) :
    dbPattern key ∧ dbPattern value := by
  obtain ⟨row, -, rfl, rfl⟩ := valueFor_eq_some.mp gives
  exact ⟨row.keyForm, row.valueForm⟩

theorem storeRow_initReady (a : IRCDDBApp) (tm_isdst : Int) (row : Row) :
    (a.storeRow tm_isdst row).initReady = a.initReady := by
  unfold storeRow
  split
  · split <;> rfl
  · split <;> rfl

/-- The entry of a repeater after a row. -/
theorem storeRow_rptrGate {a : IRCDDBApp} (ready : a.initReady = true) (tm_isdst : Int) (row : Row)
    (rptr : Str) : (a.storeRow tm_isdst row).cache.rptrGate[rptr]? =
      if row.tableID = 1 ∧ row.key.take 6 ≠ row.value.take 6 ∧ callsignOf row.key = rptr then
        some (gatewayOf row.value)
      else a.cache.rptrGate[rptr]? := by
  simp only [storeRow, ready, true_and]
  by_cases table : row.tableID = 1
  · by_cases moves : row.key.take 6 = row.value.take 6
    · simp [table, moves]
    · simp only [table, moves, ne_eq, not_false_eq_true, if_true, true_and,
        CacheManager.updateRptr, callsignOf_ne_nil row.keyForm, gatewayOf_ne_nil row.valueForm,
        or_self, if_false, get_insert]
  · simp only [table, if_false, false_and]
    split
    · rw [CacheManager.updateUser_rptrGate]
    · rfl

theorem doUpdate_initReady (a : IRCDDBApp) (tm_isdst : Int) (msg : Str) :
    (a.doUpdate tm_isdst msg).initReady = a.initReady := by
  unfold doUpdate
  split
  · exact storeRow_initReady _ _ _
  · rfl

theorem doUpdate_rptrGate {a : IRCDDBApp} (ready : a.initReady = true) {key : Str}
    (form : dbPattern key) (tm_isdst : Int) (msg : Str) :
    (a.doUpdate tm_isdst msg).cache.rptrGate[callsignOf key]? =
      (gatewayFor key msg).or a.cache.rptrGate[callsignOf key]? := by
  unfold doUpdate gatewayFor valueFor repeaterRow
  cases parsed : rowOf msg with
  | none => rfl
  | some row =>
      simp only [storeRow_rptrGate ready, callsignOf_inj row.keyForm form, Option.filter_some]
      by_cases table : row.tableID = 1
      · by_cases own : row.key = key
        · subst own
          by_cases moves : row.key.take 6 = row.value.take 6 <;> simp [table, moves]
        · simp [table, own]
      · simp [table]

/-- Updates one after the other, each with what its parse finds in `tm_isdst`. -/
def updates (a : IRCDDBApp) (msgs : List (Int × Str)) : IRCDDBApp :=
  msgs.foldl (fun a msg => a.doUpdate msg.1 msg.2) a

/-- After the rows a repeater has the entry that the last stored one left, or its old one. -/
theorem updates_rptrGate {a : IRCDDBApp} (ready : a.initReady = true) {key : Str}
    (form : dbPattern key) (msgs : List (Int × Str)) :
    (a.updates msgs).cache.rptrGate[callsignOf key]? =
      (lastOf (fun msg => gatewayFor key msg.2) msgs).or a.cache.rptrGate[callsignOf key]? := by
  have replayed := replay (l := msgs) (fun a (msg : Int × Str) => a.doUpdate msg.1 msg.2)
    (fun a : IRCDDBApp => a.cache.rptrGate[callsignOf key]?) (fun msg => gatewayFor key msg.2)
    (fun a => a.initReady = true) (fun a msg _ ready => (doUpdate_initReady a _ _).trans ready)
    (fun a msg _ ready => doUpdate_rptrGate ready form _ _) ready
  exact replayed.2

/-- The cache answers with the value's gateway for a repeater that no row has moved. -/
def Stands (c : CacheManager) (key value : Str) : Prop :=
  c.rptrGate[callsignOf key]? = some (gatewayOf value) ∨
    c.rptrGate[callsignOf key]? = none ∧ key.take 7 = value.take 7

instance (c : CacheManager) (key value : Str) : Decidable (Stands c key value) :=
  inferInstanceAs (Decidable (_ ∨ _ ∧ _))

theorem stands_iff {c : CacheManager} {key value : Str} (hk : dbPattern key) (hv : dbPattern value) :
    Stands c key value ↔ (c.findRptrData (callsignOf key)).1 = gatewayOf value := by
  rw [findRptrData_gate c hk, Stands, ← gatewayOf_inj hk hv]
  cases c.rptrGate[callsignOf key]? <;> simp

/-- After the rows of an update a repeater has the gateway of its last row exactly when
that row was stored, or none was and the answer was right before. -/
theorem last_update_wins_iff {a : IRCDDBApp} (ready : a.initReady = true) {msgs : List (Int × Str)}
    {key value : Str} (last : lastOf (fun msg => valueFor key msg.2) msgs = some value) :
    ((a.updates msgs).cache.findRptrData (callsignOf key)).1 = gatewayOf value ↔
      key.take 6 ≠ value.take 6 ∨
        (∀ msg ∈ msgs, gatewayFor key msg.2 = none) ∧ Stands a.cache key value := by
  obtain ⟨_, -, gives⟩ := exists_of_lastOf last
  obtain ⟨hk, hv⟩ := valueFor_form gives
  rw [findRptrData_gate _ hk, updates_rptrGate ready hk]
  by_cases moves : key.take 6 = value.take 6
  · simp only [moves, ne_eq, not_true_eq_false, false_or, ← lastOf_eq_none_iff]
    cases stored : lastOf (fun msg => gatewayFor key msg.2) msgs with
    | none =>
        rw [Option.none_or, stands_iff hk hv, findRptrData_gate _ hk]
        simp
    | some gate =>
        -- an earlier row moved the repeater, and the entry it left hides the default
        obtain ⟨msg, -, writes⟩ := exists_of_lastOf stored
        obtain ⟨other, names, away, rfl⟩ := gatewayFor_eq_some.mp writes
        have apart : gatewayOf other ≠ gatewayOf value := by
          intro same
          have seven := (gatewayOf_inj (valueFor_form names).2 hv).mp same
          have six := congrArg (List.take 6) seven
          simp only [List.take_take] at six
          exact away (moves.trans six.symm)
        simpa using apart
  · have stored : lastOf (fun msg => gatewayFor key msg.2) msgs = some (gatewayOf value) :=
      lastOf_bind last (if_pos moves)
    simp [stored, moves]

section
open Sample

/-- The repeater moves to a gateway and on to another, while a second one moves, too. -/
def moves : List (Int × Str) :=
  [(0, str "1 2024-05-01 10:00:00 AB1CDE_B YY8YYY_G"), (1, str "1 2024-05-02 10:00:00 EF2GHI_C YY8YYY_G"),
    (1, str "1 2024-05-03 10:00:00 AB1CDE_B ZZ9ZZZ_G"), (0, str "1 2024-05-04 10:00:00 EF2GHI_C EF2GHI_G")]

/-- It is found at the second one. -/
theorem moved_repeater_followed :
    ((standby.updates moves).cache.findRptrData (callsignOf (str "AB1CDE_B"))).1 =
      gatewayOf (str "ZZ9ZZZ_G") :=
  (last_update_wins_iff rfl (by decide +kernel)).mpr (.inl (by decide))

/-- A repeater that moves and comes back: its last row is not stored, the first one stays. -/
theorem returned_repeater_forgotten :
    lastOf (fun msg => valueFor (str "AB1CDE_B") msg.2) [(0, str "1 2024-05-01 10:00:00 AB1CDE_B ZZ9ZZZ_G"),
        (0, str "1 2024-05-02 10:00:00 AB1CDE_B AB1CDE_G")] = some (str "AB1CDE_G") ∧
      ((standby.updates [(0, str "1 2024-05-01 10:00:00 AB1CDE_B ZZ9ZZZ_G"),
          (0, str "1 2024-05-02 10:00:00 AB1CDE_B AB1CDE_G")]).cache.findRptrData
        (callsignOf (str "AB1CDE_B"))).1 ≠ gatewayOf (str "AB1CDE_G") := by
  decide +kernel

end

end IRCDDBApp
end SmartGroup
