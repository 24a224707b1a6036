import SmartGroup.Group.Removal

/-! The users' own timers, and the expiry of the users on an idle group. -/
namespace SmartGroup
open Bytes Sweep Objects

namespace GroupHandler

theorem clockUsers_spec (ms : Nat) (g : GroupHandler) :
    (∀ c, (clockUsers ms g).users.find c = g.users.find c) ∧
      (∀ r, (clockUsers ms g).users.heap.Alive r ↔ g.users.heap.Alive r) ∧
      ∀ c r u, g.users.find c = some r → g.users.heap.cell r = some u →
        (clockUsers ms g).users.heap.cell r = some (u.clock ms) := by
  have loop : ∀ (l : List (Str × Nat)) (t : Users), l.Pairwise (fun a b => a.2 ≠ b.2) →
      (∀ c, (l.foldl (fun t entry => t.clock entry.2 ms) t).find c = t.find c) ∧
      (∀ r, (l.foldl (fun t entry => t.clock entry.2 ms) t).heap.Alive r ↔ t.heap.Alive r) ∧
      ∀ r, (l.foldl (fun t entry => t.clock entry.2 ms) t).heap.cell r =
        if r ∈ l.map (·.2) then (t.heap.cell r).map (·.clock ms) else t.heap.cell r := by
    intro l
    induction l with
    | nil => exact fun t _ => ⟨fun _ => rfl, fun _ => Iff.rfl, fun _ => by simp⟩
    | cons entry l ih =>
        intro t apart
        obtain ⟨away, apart⟩ := List.pairwise_cons.mp apart
        obtain ⟨find, alive, cell⟩ := ih (t.clock entry.2 ms) apart
        have outside : entry.2 ∉ l.map (·.2) := by
          intro member
          obtain ⟨other, inside, same⟩ := List.mem_map.mp member
          exact away other inside same.symm
        refine ⟨fun c => by rw [List.foldl_cons, find, Users.find_clock], fun r => ?_, fun r => ?_⟩
        · rw [List.foldl_cons, alive]
          simp [Users.clock, Users.modify]
        · rw [List.foldl_cons, cell]
          by_cases own : r = entry.2
          · subst own
            simp [outside, Users.clock, Users.modify]
          · have only : r ∈ (entry :: l).map (·.2) ↔ r ∈ l.map (·.2) := by
              rw [List.map_cons, List.mem_cons]
              exact or_iff_right own
            simp only [only, Users.clock, Users.modify, Heap.modify_cell, own, if_false]
  have apart : g.users.entries.Pairwise fun a b => a.2 ≠ b.2 := by
    refine g.users.entries_distinct.imp_of_mem fun {a b} first second other same => other ?_
    have filed := Users.mem_entries.mp first
    have filed' := Users.mem_entries.mp second
    rw [← same] at filed'
    exact Users.find_injective filed filed'
  obtain ⟨find, alive, cell⟩ := loop g.users.entries g.users apart
  refine ⟨find, alive, fun c r u filed held => ?_⟩
  have member : r ∈ g.users.entries.map (·.2) :=
    List.mem_map.mpr ⟨(c, r), Users.mem_entries.mpr filed, rfl⟩
  apply (cell r).trans
  rw [if_pos member, held]
  rfl

/-- The entry is one of a user whose time is over. -/
def ExpiredEntry (t : Users) (entry : Str × Nat) : Prop :=
  ∃ u, t.heap.cell entry.2 = some u ∧ u.hasExpired

/-- The users and the outputs after the entries gone through. -/
structure Expired (t : Users) (done : List (Str × Nat)) (outs : List Output) (t' : Users) : Prop
    extends Removed t (ExpiredEntry t) done outs t' where
  gone : ∀ c r, (c, r) ∈ done → ExpiredEntry t (c, r) → ¬t'.heap.Alive r
  kept : ∀ r, (∀ c, ¬((c, r) ∈ done ∧ ExpiredEntry t (c, r))) → t'.heap.cell r = t.heap.cell r

theorem Expired.turn {t t' : Users} {done : List (Str × Nat)} {outs : List Output} {c : Str}
    {r : Nat} (filed : t.find c = some r) (before : ∀ entry ∈ done, t.find entry.1 = some entry.2)
    (fresh : (c, r) ∉ done) (sofar : Expired t done outs t') :
    Expired t (done ++ [(c, r)]) (outs ++ (expireUser t' (c, r)).2) (expireUser t' (c, r)).1 := by
  obtain ⟨u, held, rfl⟩ := Users.find_cell filed
  have other (c' : Str) (member : (c', r) ∈ done) : False := by
    have same := Users.find_injective (before _ member) filed
    exact fresh (same ▸ member)
  have held' : t'.heap.cell r = some u :=
    (sofar.kept r fun c' gone => other c' gone.1).trans held
  have filed' : t'.find u.callsign = some r :=
    (sofar.find _ _).mpr ⟨filed, fun gone => fresh gone.1⟩
  have expired_iff : ExpiredEntry t (u.callsign, r) ↔ u.hasExpired := by
    simp [ExpiredEntry, held]
  by_cases overdue : u.hasExpired
  · have expired := expired_iff.mpr overdue
    simp only [expireUser, held', overdue, if_true]
    have deleted : (t'.delete u.callsign).heap = t'.heap.free r := by
      rw [Users.delete_of_find filed']
      rfl
    refine ⟨sofar.toRemoved.remove filed expired (Users.find_delete _ _) rfl rfl,
      fun c r' member gone => ?_, fun r' stays => ?_⟩
    · rw [deleted, Heap.alive_free, not_and]
      intro apart
      rcases List.mem_append.mp member with earlier | now
      · exact sofar.gone c r' earlier gone
      · exact absurd (Prod.mk.inj (List.mem_singleton.mp now)).2 apart
    · have apart : r' ≠ r := by
        rintro rfl
        exact stays u.callsign ⟨by simp, expired⟩
      rw [deleted, Heap.free_cell, if_neg apart]
      exact sofar.kept r' fun c gone => stays c ⟨List.mem_append_left _ gone.1, gone.2⟩
  · have stays : ¬ExpiredEntry t (u.callsign, r) := fun expired => overdue (expired_iff.mp expired)
    simp only [expireUser, held', overdue, Bool.false_eq_true, if_false]
    refine ⟨sofar.toRemoved.pass stays (fun _ => rfl) (by simp), fun c r' member gone => ?_,
      fun r' kept => ?_⟩
    · have earlier := (Removed.mem_snoc_iff stays _).mp ⟨member, gone⟩
      exact sofar.gone c r' earlier.1 earlier.2
    · exact sofar.kept r' fun c gone => kept c ((Removed.mem_snoc_iff stays _).mpr gone)

/-- What the expiry of the users does on an idle group. -/
theorem expireUsers_spec (t : Users) :
    Expired t t.entries (forEach expireUser t t.entries).2 (forEach expireUser t t.entries).1 := by
  refine forEach_progress ?_ ?_
  · exact ⟨Removed.start _ _, by simp, fun _ _ => rfl⟩
  · intro done entry rest outs t' split sofar
    have member : entry ∈ t.entries := by rw [split]; simp
    have fresh : entry ∉ done := by
      intro earlier
      have distinct := t.entries_distinct
      rw [split, List.pairwise_append] at distinct
      exact distinct.2.2 entry earlier entry List.mem_cons_self rfl
    refine sofar.turn (Users.mem_entries.mp member) (fun e earlier => ?_) fresh
    exact Users.mem_entries.mp (by rw [split]; exact List.mem_append_left _ earlier)

end GroupHandler
end SmartGroup
