import Mathlib.Data.List.Basic

/-! Lists cut into blocks of one length, and queues of blocks that take turns at a row of
slots. -/
namespace Blocks

variable {α : Type*}

/-! Cutting. -/

/-- The blocks of `n` elements in order; the last one may be shorter. -/
def cut (n : Nat) (l : List α) : List (List α) :=
  (List.range ((l.length + n - 1) / n)).map fun i => (l.drop (n * i)).take n

variable {n : Nat} {l : List α}

theorem cut_nil (n : Nat) : cut n ([] : List α) = [] := by
  have none : (n - 1) / n = 0 := by
    rcases Nat.eq_zero_or_pos n with rfl | pos
    · rfl
    · exact Nat.div_eq_of_lt (by omega)
  rw [cut, List.length_nil, Nat.zero_add, none]
  rfl

theorem cut_cons (pos : 0 < n) (some : l ≠ []) : cut n l = l.take n :: cut n (l.drop n) := by
  have length := List.length_pos_iff.mpr some
  have count : (l.length + n - 1) / n = ((l.drop n).length + n - 1) / n + 1 := by
    rw [List.length_drop, ← Nat.add_div_right _ pos]
    by_cases more : n ≤ l.length
    · congr 1
      omega
    · rw [Nat.div_eq_of_lt_le (k := 1) (by omega) (by omega),
        Nat.div_eq_of_lt_le (k := 1) (by omega) (by omega)]
  rw [cut, count, List.range_succ_eq_map, List.map_cons, List.map_map]
  simp only [Nat.mul_zero, List.drop_zero, cut, List.drop_drop]
  congr 1
  apply List.map_congr_left
  intro i _
  simp only [Function.comp_apply, Nat.succ_eq_add_one, Nat.mul_add, Nat.mul_one, Nat.add_comm]

theorem cut_append {b : List α} (pos : 0 < n) (whole : b.length = n) : cut n (b ++ l) = b :: cut n l := by
  have some : b ++ l ≠ [] := by
    intro empty
    have := congrArg List.length empty
    simp only [List.length_append, List.length_nil] at this
    omega
  rw [cut_cons pos some, List.take_left' whole, List.drop_left' whole]

/-- Whole blocks are cut where they were joined. -/
theorem cut_flatten_append {bs : List (List α)} (pos : 0 < n) (whole : ∀ b ∈ bs, b.length = n) :
    cut n (bs.flatten ++ l) = bs ++ cut n l := by
  induction bs with
  | nil => rfl
  | cons b bs ih =>
      rw [List.flatten_cons, List.append_assoc, cut_append pos (whole b List.mem_cons_self),
        ih fun c member => whole c (List.mem_cons_of_mem b member), List.cons_append]

theorem cut_flatten {bs : List (List α)} (pos : 0 < n) (whole : ∀ b ∈ bs, b.length = n) :
    cut n bs.flatten = bs := by
  have all := cut_flatten_append (l := []) pos whole
  rwa [List.append_nil, cut_nil, List.append_nil] at all

theorem length_cut (n : Nat) (l : List α) : (cut n l).length = (l.length + n - 1) / n := by
  rw [cut, List.length_map, List.length_range]

theorem length_cut_mul (pos : 0 < n) {k : Nat} (length : l.length = n * k) : (cut n l).length = k := by
  rw [length_cut, length]
  exact Nat.div_eq_of_lt_le (by rw [Nat.mul_comm k]; omega) (by rw [Nat.add_mul, Nat.mul_comm k]; omega)

theorem getElem_cut {i : Nat} (inside : i < (cut n l).length) :
    (cut n l)[i] = (l.drop (n * i)).take n := by
  simp [cut]

/-- A list of whole blocks, from its length. -/
theorem whole_of_mem_cut {k : Nat} (length : l.length = n * k) {b : List α} (member : b ∈ cut n l) :
    b.length = n := by
  rcases Nat.eq_zero_or_pos n with rfl | pos
  · simp [cut] at member
  · obtain ⟨i, inside, rfl⟩ := List.getElem_of_mem member
    rw [length_cut_mul pos length] at inside
    have room : n * (i + 1) ≤ n * k := Nat.mul_le_mul_left n inside
    rw [Nat.mul_add, Nat.mul_one] at room
    rw [getElem_cut, List.length_take, List.length_drop]
    omega

theorem flatten_cut (pos : 0 < n) (l : List α) : (cut n l).flatten = l := by
  induction length : l.length using Nat.strongRecOn generalizing l with
  | _ k ih =>
      by_cases some : l = []
      · rw [some, cut_nil, List.flatten_nil]
      · have positive := List.length_pos_iff.mpr some
        rw [cut_cons pos some, List.flatten_cons, ih _ (by rw [List.length_drop]; omega) _ rfl,
          List.take_append_drop]

theorem length_flatten {bs : List (List α)} (whole : ∀ b ∈ bs, b.length = n) : bs.flatten.length = n * bs.length := by
  induction bs with
  | nil => rfl
  | cons b bs ih =>
      rw [List.flatten_cons, List.length_append, List.length_cons, whole b List.mem_cons_self,
        ih fun c member => whole c (List.mem_cons_of_mem b member), Nat.mul_add, Nat.mul_one, Nat.add_comm]

theorem length_filter_add {p q : α → Bool} (apart : ∀ a ∈ l, p a → ¬q a) :
    (l.filter p).length + (l.filter q).length ≤ l.length := by
  induction l with
  | nil => exact Nat.le_refl 0
  | cons a l ih =>
      have rest := ih fun b member => apart b (List.mem_cons_of_mem a member)
      have here := apart a List.mem_cons_self
      rw [List.length_cons]
      by_cases first : p a
      · rw [List.filter_cons_of_pos first, List.filter_cons_of_neg (here first), List.length_cons]
        omega
      · rw [List.filter_cons_of_neg first, List.filter_cons]
        split
        · rw [List.length_cons]
          omega
        · omega

/-! Queues that take turns. -/

/-- What stands in `n` slots that the queues fill: the first queue has every other slot,
the second what the first leaves, and the third what both leave. -/
def schedule (filler : α) : Bool → Nat → List α → List α → List α → List α
  | _, 0, _, _, _ => []
  | true, n + 1, a :: first, second, third => a :: schedule filler false n first second third
  | turn, n + 1, first, b :: second, third => b :: schedule filler (!turn) n first second third
  | turn, n + 1, first, [], c :: third => c :: schedule filler (!turn) n first [] third
  | turn, n + 1, first, [], [] => filler :: schedule filler (!turn) n first [] []

section
variable {filler : α} {turn : Bool} {first second third : List α}

theorem schedule_first (a : α) : schedule filler true (n + 1) (a :: first) second third =
    a :: schedule filler false n first second third := rfl

theorem schedule_second (passed : turn = false ∨ first = []) (b : α) :
    schedule filler turn (n + 1) first (b :: second) third =
      b :: schedule filler (!turn) n first second third := by
  rcases passed with rfl | rfl
  · rfl
  · cases turn <;> rfl

theorem schedule_third (passed : turn = false ∨ first = []) (c : α) :
    schedule filler turn (n + 1) first [] (c :: third) = c :: schedule filler (!turn) n first [] third := by
  rcases passed with rfl | rfl
  · rfl
  · cases turn <;> rfl

theorem schedule_filler (passed : turn = false ∨ first = []) :
    schedule filler turn (n + 1) first [] [] = filler :: schedule filler (!turn) n first [] [] := by
  rcases passed with rfl | rfl
  · rfl
  · cases turn <;> rfl

theorem mem_schedule {a : α} (member : a ∈ schedule filler turn n first second third) :
    a ∈ first ∨ a ∈ second ∨ a ∈ third ∨ a = filler := by
  fun_induction schedule filler turn n first second third <;> grind

theorem enough_next (passed : ∀ a rest, turn = true → first = a :: rest → False)
    (enough : 2 * first.length ≤ n + 1 + turn.toNat) : 2 * first.length ≤ n + (!turn).toNat := by
  cases turn with
  | false => simpa using enough
  | true =>
      cases first with
      | nil => exact Nat.zero_le _
      | cons a rest => exact (passed a rest rfl rfl).elim

/-- The first queue is through after twice as many slots. -/
theorem filter_first {p : α → Bool} (enough : 2 * first.length ≤ n + turn.toNat)
    (here : ∀ a ∈ first, p a) (not_second : ∀ a ∈ second, ¬p a) (not_third : ∀ a ∈ third, ¬p a)
    (not_filler : ¬p filler) : (schedule filler turn n first second third).filter p = first := by
  fun_induction schedule filler turn n first second third with
  | case1 turn first second third =>
      have := Bool.toNat_le turn
      have none : first.length = 0 := by omega
      rw [List.length_eq_zero_iff.mp none, List.filter_nil]
  | case2 n a first second third ih =>
      simp only [List.length_cons, Bool.toNat_true, Bool.toNat_false] at enough ih
      rw [List.filter_cons_of_pos (here a List.mem_cons_self),
        ih (by omega) (fun b member => here b (List.mem_cons_of_mem a member)) not_second not_third]
  | case3 turn n first b second third passed ih =>
      rw [List.filter_cons_of_neg (not_second b List.mem_cons_self)]
      exact ih (enough_next passed enough) here
        (fun c member => not_second c (List.mem_cons_of_mem b member)) not_third
  | case4 turn n first c third passed ih =>
      rw [List.filter_cons_of_neg (not_third c List.mem_cons_self)]
      exact ih (enough_next passed enough) here not_second
        fun b member => not_third b (List.mem_cons_of_mem c member)
  | case5 turn n first passed ih =>
      rw [List.filter_cons_of_neg not_filler]
      exact ih (enough_next passed enough) here not_second not_third

theorem filter_none {p : α → Bool} (not_first : ∀ a ∈ first, ¬p a) (not_second : ∀ a ∈ second, ¬p a)
    (not_third : ∀ a ∈ third, ¬p a) (not_filler : ¬p filler) :
    (schedule filler turn n first second third).filter p = [] := by
  rw [List.filter_eq_nil_iff]
  intro a member
  rcases mem_schedule member with here | here | here | rfl
  · exact not_first a here
  · exact not_second a here
  · exact not_third a here
  · exact not_filler

/-- The second is through when the slots are as many as the blocks of both. -/
theorem filter_second {p : α → Bool} (enough : first.length + second.length ≤ n)
    (not_first : ∀ a ∈ first, ¬p a) (here : ∀ a ∈ second, p a) (not_third : ∀ a ∈ third, ¬p a)
    (not_filler : ¬p filler) : (schedule filler turn n first second third).filter p = second := by
  fun_induction schedule filler turn n first second third with
  | case1 turn first second third =>
      have none : second.length = 0 := by omega
      rw [List.length_eq_zero_iff.mp none, List.filter_nil]
  | case2 n a first second third ih =>
      rw [List.length_cons] at enough
      rw [List.filter_cons_of_neg (not_first a List.mem_cons_self)]
      exact ih (by omega) (fun b member => not_first b (List.mem_cons_of_mem a member)) here not_third
  | case3 turn n first b second third passed ih =>
      rw [List.length_cons] at enough
      rw [List.filter_cons_of_pos (here b List.mem_cons_self), ih (by omega) not_first
        (fun c member => here c (List.mem_cons_of_mem b member)) not_third]
  | case4 turn n first c third passed ih =>
      rw [List.filter_cons_of_neg (not_third c List.mem_cons_self)]
      exact filter_none not_first (List.forall_mem_nil _)
        (fun b member => not_third b (List.mem_cons_of_mem c member)) not_filler
  | case5 turn n first passed ih =>
      rw [List.filter_cons_of_neg not_filler]
      exact filter_none not_first (List.forall_mem_nil _) (List.forall_mem_nil _) not_filler

theorem filter_third {p : α → Bool} (enough : first.length + second.length + third.length ≤ n)
    (not_first : ∀ a ∈ first, ¬p a) (not_second : ∀ a ∈ second, ¬p a) (here : ∀ a ∈ third, p a)
    (not_filler : ¬p filler) : (schedule filler turn n first second third).filter p = third := by
  fun_induction schedule filler turn n first second third with
  | case1 turn first second third =>
      have none : third.length = 0 := by omega
      rw [List.length_eq_zero_iff.mp none, List.filter_nil]
  | case2 n a first second third ih =>
      rw [List.length_cons] at enough
      rw [List.filter_cons_of_neg (not_first a List.mem_cons_self)]
      exact ih (by omega) (fun b member => not_first b (List.mem_cons_of_mem a member)) not_second here
  | case3 turn n first b second third passed ih =>
      rw [List.length_cons] at enough
      rw [List.filter_cons_of_neg (not_second b List.mem_cons_self)]
      exact ih (by omega) not_first (fun c member => not_second c (List.mem_cons_of_mem b member)) here
  | case4 turn n first c third passed ih =>
      rw [List.length_cons] at enough
      rw [List.filter_cons_of_pos (here c List.mem_cons_self), ih (by omega) not_first not_second
        fun b member => here b (List.mem_cons_of_mem c member)]
  | case5 turn n first passed ih =>
      rw [List.filter_cons_of_neg not_filler]
      exact filter_none not_first (List.forall_mem_nil _) (List.forall_mem_nil _) not_filler

/-- The third queue waits until the second is through. -/
theorem filter_second_of_third {p q : α → Bool}
    (begun : (schedule filler turn n first second third).filter q ≠ [])
    (not_first : ∀ a ∈ first, ¬p a ∧ ¬q a) (in_second : ∀ a ∈ second, p a ∧ ¬q a)
    (not_third : ∀ a ∈ third, ¬p a) (not_filler : ¬p filler ∧ ¬q filler) :
    (schedule filler turn n first second third).filter p = second := by
  fun_induction schedule filler turn n first second third with
  | case1 => exact absurd List.filter_nil begun
  | case2 n a first second third ih =>
      obtain ⟨not_p, not_q⟩ := not_first a List.mem_cons_self
      rw [List.filter_cons_of_neg not_q] at begun
      rw [List.filter_cons_of_neg not_p]
      exact ih begun (fun b member => not_first b (List.mem_cons_of_mem a member)) in_second not_third
  | case3 turn n first b second third passed ih =>
      obtain ⟨in_p, not_q⟩ := in_second b List.mem_cons_self
      rw [List.filter_cons_of_neg not_q] at begun
      rw [List.filter_cons_of_pos in_p, ih begun not_first
        (fun c member => in_second c (List.mem_cons_of_mem b member)) not_third]
  | case4 turn n first c third passed ih =>
      rw [List.filter_cons_of_neg (not_third c List.mem_cons_self)]
      exact filter_none (fun a member => (not_first a member).1) (List.forall_mem_nil _)
        (fun b member => not_third b (List.mem_cons_of_mem c member)) not_filler.1
  | case5 turn n first passed ih =>
      rw [List.filter_cons_of_neg not_filler.1]
      exact filter_none (fun a member => (not_first a member).1) (List.forall_mem_nil _)
        (List.forall_mem_nil _) not_filler.1

end
end Blocks
