import SmartGroup.Group.Removal

/-! The ping phase of a tick: which users it removes. -/
namespace SmartGroup
open Bytes Sweep Objects

/-- The user cannot be found and was not for ten minutes. -/
def Env.Lost (env : Env) (u : SGSUser) : Prop :=
  env.findUserAddr u.callsign = [] ∧ 600 ≤ env.now - u.found

instance (env : Env) (u : SGSUser) : Decidable (env.Lost u) := inferInstanceAs (Decidable (_ ∧ _))

/-- The objects keep their callsigns and their timers. -/
def Users.Like (t t' : Users) : Prop :=
  ∀ r, (t'.heap.cell r).map (fun u => (u.callsign, u.timer)) =
    (t.heap.cell r).map fun u => (u.callsign, u.timer)

theorem Users.Like.cell {t t' : Users} (like : t.Like t') {r : Nat} {u : SGSUser}
    (held : t.heap.cell r = some u) :
    ∃ u', t'.heap.cell r = some u' ∧ u'.callsign = u.callsign ∧ u'.timer = u.timer := by
  have same := like r
  rw [held, Option.map_some, Option.map_eq_some_iff] at same
  obtain ⟨u', held', pair⟩ := same
  exact ⟨u', held', (Prod.mk.inj pair).1, (Prod.mk.inj pair).2⟩

theorem Users.Like.cell_iff {t t' : Users} (like : t.Like t') (r : Nat) (P : Str × Timer → Prop) :
    (∃ u', t'.heap.cell r = some u' ∧ P (u'.callsign, u'.timer)) ↔
      ∃ u, t.heap.cell r = some u ∧ P (u.callsign, u.timer) := by
  have same := like r
  cases held : t.heap.cell r <;> cases held' : t'.heap.cell r <;> simp_all

theorem Users.Like.alive {t t' : Users} (like : t.Like t') (r : Nat) :
    t'.heap.Alive r ↔ t.heap.Alive r := by
  have same := congrArg Option.isSome (like r)
  simpa [Heap.Alive, Option.isSome_map] using same

namespace GroupHandler

/-- The scan removes the user. -/
def NotFound (env : Env) (ms : Nat) (g : GroupHandler) (c : Str) : Prop :=
  g.pingTimer.fires ms ∧ ∃ r u, g.users.find c = some r ∧ g.users.heap.cell r = some u ∧ env.Lost u

/-- The entry is one of a user that cannot be found. -/
def LostEntry (env : Env) (t : Users) (entry : Str × Nat) : Prop :=
  ∃ u, t.heap.cell entry.2 = some u ∧ env.Lost u

/-- The users and the outputs of the scan after the entries gone through. -/
structure Scanned (env : Env) (t : Users) (done : List (Str × Nat)) (outs : List Output)
    (t' : Users) : Prop extends Removed t (LostEntry env t) done outs t' where
  like : t.Like t'
  kept : ∀ r u, t.heap.cell r = some u → env.findUserAddr u.callsign = [] →
    t'.heap.cell r = some u

theorem Scanned.turn {env : Env} {t : Users} {s : Scan} {done : List (Str × Nat)}
    {outs : List Output} {c : Str} {r : Nat} (filed : t.find c = some r)
    (sofar : Scanned env t done outs s.users) :
    Scanned env t (done ++ [(c, r)]) (outs ++ (scanUser env s (c, r)).2)
      (scanUser env s (c, r)).1.users := by
  obtain ⟨u, held, rfl⟩ := Users.find_cell filed
  obtain ⟨u', held', named, -⟩ := sofar.like.cell held
  have lost_iff : LostEntry env t (u.callsign, r) ↔ env.Lost u := by simp [LostEntry, held]
  by_cases unknown : env.findUserAddr u.callsign = []
  · have same : u' = u := Option.some.inj (held'.symm.trans (sofar.kept r u held unknown))
    subst same
    by_cases long : 600 ≤ env.now - u'.found
    · simp only [scanUser, held', unknown, if_true, long]
      have lost := lost_iff.mpr ⟨unknown, long⟩
      exact ⟨sofar.toRemoved.remove filed lost (Users.find_erase _ _) rfl rfl, sofar.like, sofar.kept⟩
    · simp only [scanUser, held', unknown, if_true, long, if_false]
      have stays := fun lost => long (lost_iff.mp lost).2
      refine ⟨sofar.toRemoved.pass stays (fun _ => rfl) fun o member => ?_, sofar.like, sofar.kept⟩
      obtain ⟨irc, -, rfl⟩ := List.mem_map.mp member
      exact ⟨rfl, rfl⟩
  · simp only [scanUser, held', named, unknown, if_false]
    have stays := fun lost => unknown (lost_iff.mp lost).1
    refine ⟨sofar.toRemoved.pass stays (fun _ => rfl) (by simp), fun r' => ?_,
      fun r' v held'' known => ?_⟩
    · rw [← sofar.like r']
      by_cases own : r' = r
      · subst own
        simp [Users.setLastFound, Users.modify, held', SGSUser.setLastFound]
      · simp [Users.setLastFound, Users.modify, own]
    · have other : r' ≠ r := by
        rintro rfl
        rw [held] at held''
        cases held''
        exact unknown known
      rw [← sofar.kept r' v held'' known]
      simp [Users.setLastFound, Users.modify, other]

theorem notFound_iff (env : Env) (ms : Nat) (g : GroupHandler) (c : Str) :
    g.NotFound env ms c ↔ g.pingTimer.fires ms ∧
      ∃ r, (c, r) ∈ g.users.entries ∧ LostEntry env g.users (c, r) := by
  simp only [NotFound, LostEntry, Users.mem_entries, exists_and_left]

/-- What the ping phase does. -/
theorem clockPing_spec (env : Env) (ms : Nat) (g : GroupHandler) :
    (∀ c r, (g.clockPing env ms).1.users.find c = some r ↔
        g.users.find c = some r ∧ ¬g.NotFound env ms c) ∧
      g.users.Like (g.clockPing env ms).1.users ∧
      (∀ o ∈ (g.clockPing env ms).2, o.relayed = none) ∧
      ∀ c, (∃ o ∈ (g.clockPing env ms).2, o.lost = some c) ↔ g.NotFound env ms c := by
  simp only [notFound_iff]
  unfold clockPing
  by_cases fires : g.pingTimer.fires ms
  · have scanned : Scanned env g.users g.users.entries
        (forEach (scanUser env) ⟨g.users, ∅⟩ g.users.entries).2
        (forEach (scanUser env) ⟨g.users, ∅⟩ g.users.entries).1.users := by
      refine forEach_progress (S := fun done outs (s : Scan) => Scanned env g.users done outs s.users) ?_ ?_
      · exact ⟨Removed.start _ _, fun _ => rfl, fun _ _ held _ => held⟩
      · intro done entry rest outs s split sofar
        have member : entry ∈ g.users.entries := by rw [split]; simp
        exact sofar.turn (Users.mem_entries.mp member)
    have pings : ∀ o ∈ (forEach (scanUser env) ⟨g.users, ∅⟩ g.users.entries).1.addresses.toList.map
        (fun address => Output.ping (pingServer env address.1) address.1),
        o.relayed = none ∧ o.lost = none := by
      intro o member
      obtain ⟨address, -, rfl⟩ := List.mem_map.mp member
      exact ⟨rfl, rfl⟩
    have taken : ((g.pingTimer.clock ms).isRunning && (g.pingTimer.clock ms).hasExpired) = true :=
      fires
    simp only [taken, if_true, fires, true_and]
    refine ⟨fun c r => ?_, scanned.like, fun o member => ?_, fun c => ?_⟩
    · rw [scanned.find]
      refine and_congr_right fun filed => not_congr ⟨fun lost => ⟨r, lost⟩, ?_⟩
      rintro ⟨r', member, lost⟩
      have own : r' = r := Option.some.inj ((Users.mem_entries.mp member).symm.trans filed)
      exact own ▸ ⟨member, lost⟩
    · rcases List.mem_append.mp member with scan | ping
      · exact scanned.silent o scan
      · exact (pings o ping).1
    · rw [← scanned.lost]
      constructor
      · rintro ⟨o, member, reported⟩
        rcases List.mem_append.mp member with scan | ping
        · exact ⟨o, scan, reported⟩
        · rw [(pings o ping).2] at reported
          cases reported
      · exact fun ⟨o, scan, reported⟩ => ⟨o, List.mem_append_left _ scan, reported⟩
  · have quiet : ((g.pingTimer.clock ms).isRunning && (g.pingTimer.clock ms).hasExpired) = false :=
      Bool.eq_false_of_not_eq_true fires
    simp only [quiet, Bool.false_eq_true, if_false, fires, false_and, not_false_eq_true, and_true]
    exact ⟨fun _ _ => trivial, fun _ => rfl, by simp, by simp⟩

theorem clockPing_frame (env : Env) (ms : Nat) (g : GroupHandler) :
    (g.clockPing env ms).1.ids = g.ids ∧ (g.clockPing env ms).1.id = g.id ∧
      (g.clockPing env ms).1.repeaters = g.repeaters ∧
      (g.clockPing env ms).1.linkTimer = g.linkTimer := by
  unfold clockPing
  dsimp only
  split <;> exact ⟨rfl, rfl, rfl, rfl⟩

end GroupHandler
end SmartGroup
