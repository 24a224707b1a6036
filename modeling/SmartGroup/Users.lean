import SmartGroup.CacheManager

/-! The subscribers of a group and their pending transmission ids: `CSGSUser`,
`CSGSId` and the map `m_users` with the objects it points to. -/
namespace SmartGroup
open Bytes Sweep Objects

structure SGSUser where
  callsign : Str
  timer : Timer
  found : Int
  deriving DecidableEq

namespace SGSUser

def new (callsign : Str) (timeout : Nat) (now : Int) : SGSUser :=
  ⟨callsign, (Timer.new 1000 timeout 0).start, now⟩

def clock (u : SGSUser) (ms : Nat) : SGSUser := { u with timer := u.timer.clock ms }
def hasExpired (u : SGSUser) : Bool := u.timer.isRunning && u.timer.hasExpired
def reset (u : SGSUser) (now : Int) : SGSUser := { u with found := now, timer := u.timer.start }
def setLastFound (u : SGSUser) (t : Int) : SGSUser := { u with found := t }

end SGSUser

/-- `CSGSId`; `user` is the pointer to the owner, which the id does not keep alive. -/
structure SGSId where
  id : Nat
  timer : Timer
  login : Bool
  logoff : Bool
  ended : Bool
  user : Nat
  deriving DecidableEq

namespace SGSId

def new (id timeout user : Nat) : SGSId :=
  ⟨id, (Timer.new 1000 timeout 0).start, false, false, false, user⟩

def reset (t : SGSId) : SGSId := { t with timer := t.timer.start }
def setLogin (t : SGSId) : SGSId := { t with login := true }
def setLogoff (t : SGSId) : SGSId := if t.login then t else { t with logoff := true }
def setEnd (t : SGSId) : SGSId := { t with ended := true }
def clock (t : SGSId) (ms : Nat) : SGSId := { t with timer := t.timer.clock ms }
def hasExpired (t : SGSId) : Bool := t.timer.isRunning && t.timer.hasExpired

end SGSId

/-- `m_users` and the heap of its objects. An entry is never null, its object is
alive and carries the callsign it is filed under. Erasing an entry leaves the
object to whoever still points to it. -/
structure Users where
  heap : Heap SGSUser
  index : OrdMap Str Nat
  owned : ∀ {c r}, index[c]? = some r → ∃ u, heap.cell r = some u ∧ u.callsign = c

namespace Users

def empty : Users := ⟨.empty, ∅, fun h => by simp at h⟩

def find (t : Users) (c : Str) : Option Nat := t.index[c]?

def entries (t : Users) : List (Str × Nat) := t.index.toList

theorem mem_entries {t : Users} {c : Str} {r : Nat} : (c, r) ∈ t.entries ↔ t.find c = some r :=
  mem_toList

/-- `auto user = new CSGSUser(..); m_users[callsign] = user`; the reference is `t.heap.next`. -/
def login (t : Users) (u : SGSUser) : Users where
  heap := t.heap.alloc u
  index := t.index.insert u.callsign t.heap.next
  owned := by
    intro c r found
    simp only [Std.ExtTreeMap.getElem?_insert, Std.LawfulEqCmp.compare_eq_iff_eq] at found
    split at found
    · rename_i same
      cases found
      exact ⟨u, by simp, same⟩
    · obtain ⟨v, held, named⟩ := t.owned found
      have older : r ≠ t.heap.next :=
        Nat.ne_of_lt (((t.heap.alive_iff r).mpr ⟨v, held⟩).lt_next)
      exact ⟨v, by simp [older, held], named⟩

/-- `m_users.erase(callsign)`. -/
def erase (t : Users) (c : Str) : Users where
  heap := t.heap
  index := t.index.erase c
  owned := by
    intro c' r found
    simp only [Std.ExtTreeMap.getElem?_erase] at found
    split at found
    · cases found
    · exact t.owned found

/-- `delete user` for the user filed under the callsign, and its entry erased. -/
def deleteAt (t : Users) (c : Str) (r : Nat) (filed : t.find c = some r) : Users where
  heap := t.heap.free r
  index := t.index.erase c
  owned := by
    intro c' r' found
    simp only [Std.ExtTreeMap.getElem?_erase, Std.LawfulEqCmp.compare_eq_iff_eq] at found
    split at found
    · cases found
    · rename_i other
      obtain ⟨u, held, named⟩ := t.owned found
      obtain ⟨v, held', named'⟩ := t.owned filed
      have apart : r' ≠ r := by
        rintro rfl
        rw [held] at held'
        cases held'
        exact other (named'.symm.trans named)
      exact ⟨u, by simp [apart, held], named⟩

def delete (t : Users) (c : Str) : Users :=
  match filed : t.find c with
  | some r => t.deleteAt c r filed
  | none => t

/-- A write to a user object that keeps its callsign. -/
def modify (t : Users) (r : Nat) (f : SGSUser → SGSUser)
    (named : ∀ u, (f u).callsign = u.callsign) : Users where
  heap := t.heap.modify r f
  index := t.index
  owned := by
    intro c r' found
    obtain ⟨u, held, called⟩ := t.owned found
    by_cases same : r' = r
    · subst same
      exact ⟨f u, by simp [held], (named u).trans called⟩
    · exact ⟨u, by simp [same, held], called⟩

def reset (t : Users) (r : Nat) (now : Int) : Users := t.modify r (·.reset now) fun _ => rfl
def clock (t : Users) (r ms : Nat) : Users := t.modify r (·.clock ms) fun _ => rfl
def setLastFound (t : Users) (r : Nat) (now : Int) : Users :=
  t.modify r (·.setLastFound now) fun _ => rfl

/-- The loop that deletes every user, followed by `m_users.clear()`. -/
def deleteAll (t : Users) : Users where
  heap := t.entries.foldl (fun h entry => h.free entry.2) t.heap
  index := ∅
  owned := fun h => by simp at h

/-! What the operations do to the entries. -/

@[simp] theorem find_empty (c : Str) : empty.find c = none := by simp [find, empty]

@[simp] theorem find_login (t : Users) (u : SGSUser) (c : Str) :
    (t.login u).find c = if u.callsign = c then some t.heap.next else t.find c := by
  exact get_insert t.index u.callsign c t.heap.next

@[simp] theorem find_erase (t : Users) (c c' : Str) :
    (t.erase c).find c' = if c = c' then none else t.find c' := by
  exact get_erase t.index c c'

@[simp] theorem find_reset (t : Users) (r : Nat) (now : Int) (c : Str) :
    (t.reset r now).find c = t.find c := rfl

@[simp] theorem find_clock (t : Users) (r ms : Nat) (c : Str) :
    (t.clock r ms).find c = t.find c := rfl

theorem delete_of_find {t : Users} {c : Str} {r : Nat} (filed : t.find c = some r) :
    t.delete c = t.deleteAt c r filed := by
  unfold delete
  split
  · rename_i r' filed'
    have same : r' = r := Option.some.inj (filed'.symm.trans filed)
    subst same
    rfl
  · rename_i absent
    simp [absent] at filed

theorem delete_of_absent {t : Users} {c : Str} (absent : t.find c = none) : t.delete c = t := by
  unfold delete
  split
  · rename_i r filed
    simp [absent] at filed
  · rfl

@[simp] theorem find_delete (t : Users) (c c' : Str) :
    (t.delete c).find c' = if c = c' then none else t.find c' := by
  cases filed : t.find c with
  | none =>
      rw [delete_of_absent filed]
      split
      · rename_i same
        rw [← same, filed]
      · rfl
  | some r =>
      rw [delete_of_find filed]
      exact get_erase t.index c c'

@[simp] theorem find_deleteAll (t : Users) (c : Str) : t.deleteAll.find c = none := by
  simp [find, deleteAll]

/-- An entry leads to a live object that carries its callsign. -/
theorem find_cell {t : Users} {c : Str} {r : Nat} (filed : t.find c = some r) :
    ∃ u, t.heap.cell r = some u ∧ u.callsign = c := t.owned filed

/-- No two entries share an object. -/
theorem find_injective {t : Users} {c c' : Str} {r : Nat} (filed : t.find c = some r)
    (filed' : t.find c' = some r) : c = c' := by
  obtain ⟨u, held, named⟩ := find_cell filed
  obtain ⟨v, held', named'⟩ := find_cell filed'
  rw [held] at held'
  cases held'
  exact named.symm.trans named'

theorem entries_distinct (t : Users) : t.entries.Pairwise fun a b => a.1 ≠ b.1 :=
  toList_distinct t.index

theorem entries_eq_nil_iff (t : Users) : t.entries = [] ↔ ∀ c, t.find c = none := by
  constructor
  · intro empty c
    cases filed : t.find c with
    | none => rfl
    | some r =>
        have member := mem_entries.mpr filed
        rw [empty] at member
        cases member
  · intro absent
    apply List.eq_nil_iff_forall_not_mem.mpr
    rintro ⟨c, r⟩ member
    rw [mem_entries, absent] at member
    cases member

end Users
end SmartGroup
