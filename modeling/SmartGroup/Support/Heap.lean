import Mathlib.Logic.Function.Basic

/-! Objects with identity. A reference is a number; it is dead once its object is
deleted and is never handed out again. -/
namespace Objects

/-- Cells at and beyond `next` have never been allocated. -/
structure Heap (α : Type*) where
  cell : Nat → Option α
  next : Nat
  fresh : ∀ r, next ≤ r → cell r = none

variable {α : Type*}

def Heap.empty : Heap α := ⟨fun _ => none, 0, fun _ _ => rfl⟩

def Heap.Alive (h : Heap α) (r : Nat) : Prop := (h.cell r).isSome

instance (h : Heap α) (r : Nat) : Decidable (h.Alive r) := inferInstanceAs (Decidable (_ = true))

theorem Heap.alive_iff (h : Heap α) (r : Nat) : h.Alive r ↔ ∃ a, h.cell r = some a := by
  simp [Alive, Option.isSome_iff_exists]

theorem Heap.Alive.lt_next {h : Heap α} {r : Nat} (alive : h.Alive r) : r < h.next := by
  by_contra beyond
  have unused := h.fresh r (Nat.le_of_not_lt beyond)
  simp [Alive, unused] at alive

/-- `new`: the reference of the object is `h.next`. -/
def Heap.alloc (h : Heap α) (a : α) : Heap α where
  cell := Function.update h.cell h.next (some a)
  next := h.next + 1
  fresh := by
    intro r beyond
    have other : r ≠ h.next := by omega
    rw [Function.update_of_ne other]
    exact h.fresh r (by omega)

/-- `delete`. -/
def Heap.free (h : Heap α) (r : Nat) : Heap α where
  cell := Function.update h.cell r none
  next := h.next
  fresh := by
    intro r' beyond
    by_cases same : r' = r
    · rw [same, Function.update_self]
    · rw [Function.update_of_ne same]
      exact h.fresh r' beyond

/-- A write through a reference. -/
def Heap.modify (h : Heap α) (r : Nat) (f : α → α) : Heap α where
  cell := Function.update h.cell r ((h.cell r).map f)
  next := h.next
  fresh := by
    intro r' beyond
    by_cases same : r' = r
    · rw [same, Function.update_self, h.fresh r (same ▸ beyond)]
      rfl
    · rw [Function.update_of_ne same]
      exact h.fresh r' beyond

@[simp] theorem Heap.alloc_cell (h : Heap α) (a : α) (r : Nat) :
    (h.alloc a).cell r = if r = h.next then some a else h.cell r := by
  simp [alloc, Function.update_apply]

@[simp] theorem Heap.free_cell (h : Heap α) (r r' : Nat) :
    (h.free r).cell r' = if r' = r then none else h.cell r' := by
  simp [free, Function.update_apply]

@[simp] theorem Heap.modify_cell (h : Heap α) (r r' : Nat) (f : α → α) :
    (h.modify r f).cell r' = if r' = r then (h.cell r).map f else h.cell r' := by
  simp [modify, Function.update_apply]

@[simp] theorem Heap.alive_alloc (h : Heap α) (a : α) (r : Nat) :
    (h.alloc a).Alive r ↔ r = h.next ∨ h.Alive r := by
  by_cases same : r = h.next <;> simp [Alive, same]

@[simp] theorem Heap.alive_free (h : Heap α) (r r' : Nat) :
    (h.free r).Alive r' ↔ r' ≠ r ∧ h.Alive r' := by
  by_cases same : r' = r <;> simp [Alive, same]

@[simp] theorem Heap.alive_modify (h : Heap α) (r r' : Nat) (f : α → α) :
    (h.modify r f).Alive r' ↔ h.Alive r' := by
  by_cases same : r' = r <;> simp [Alive, same]

end Objects
