import SmartGroup.Group.Ping
import SmartGroup.Group.PendingIds
import SmartGroup.Group.Expiry

/-! What one tick of a group does as a whole. -/
namespace SmartGroup
open Bytes Sweep Objects

namespace GroupHandler

theorem clockAnnounce_frame (env : Env) (ms : Nat) (g : GroupHandler) :
    (g.clockAnnounce env ms).1.ids = g.ids ∧ (g.clockAnnounce env ms).1.id = g.id ∧
      (g.clockAnnounce env ms).1.repeaters = g.repeaters ∧
      (g.clockAnnounce env ms).1.users = g.users ∧
      ∀ o ∈ (g.clockAnnounce env ms).2, o.relayed = none ∧ o.lost = none := by
  unfold clockAnnounce
  dsimp only
  split
  · refine ⟨rfl, rfl, rfl, rfl, fun o member => ?_⟩
    obtain ⟨irc, -, heard⟩ := List.mem_flatMap.mp member
    obtain ⟨name, -, rfl⟩ := List.mem_map.mp heard
    exact ⟨rfl, rfl⟩
  · exact ⟨rfl, rfl, rfl, rfl, by simp⟩

theorem clockStatus_frame (env : Env) (g : GroupHandler) :
    (g.clockStatus env).ids = g.ids ∧ (g.clockStatus env).id = g.id ∧
      (g.clockStatus env).repeaters = g.repeaters ∧ (g.clockStatus env).users = g.users := by
  unfold clockStatus
  split <;> exact ⟨rfl, rfl, rfl, rfl⟩

theorem clockLink_frame (ms : Nat) (g : GroupHandler) :
    (clockLink ms g).ids = g.ids ∧ (clockLink ms g).users = g.users ∧
      ((g.linkTimer.fires ms ∧ (clockLink ms g).id = 0 ∧ (clockLink ms g).repeaters = ∅) ∨
        (¬g.linkTimer.fires ms ∧ (clockLink ms g).id = g.id ∧
          (clockLink ms g).repeaters = g.repeaters)) := by
  unfold clockLink
  dsimp only
  split
  · rename_i fires
    exact ⟨rfl, rfl, .inl ⟨fires, rfl, rfl⟩⟩
  · rename_i quiet
    exact ⟨rfl, rfl, .inr ⟨quiet, rfl, rfl⟩⟩

/-- The tick completes an unsubscription of the user. -/
def LogoffDue (ms : Nat) (g : GroupHandler) (c : Str) : Prop :=
  ∃ k tx u, g.Pending k tx ∧ tx.LogsOff ms ∧ g.users.heap.cell tx.user = some u ∧ u.callsign = c

/-- The tick ends the current stream. -/
def StreamEnds (ms : Nat) (g : GroupHandler) : Prop :=
  g.linkTimer.fires ms ∨ ∃ k tx, g.Pending k tx ∧ tx.Stops ms ∧ tx.id = g.id

/-- The tick removes the user by its own timer. -/
def TimesOut (env : Env) (ms : Nat) (g : GroupHandler) (c : Str) : Prop :=
  (g.id = 0 ∨ g.StreamEnds ms) ∧ ¬g.NotFound env ms c ∧ ¬g.LogoffDue ms c ∧
    ∃ r u, g.users.find c = some r ∧ g.users.heap.cell r = some u ∧ (u.clock ms).hasExpired

structure Tick (env : Env) (ms : Nat) (g : GroupHandler) (outs : List Output) (g' : GroupHandler) :
    Prop where
  find : ∀ c r, g'.users.find c = some r ↔ g.users.find c = some r ∧ ¬g.NotFound env ms c ∧
    ¬g.LogoffDue ms c ∧ ¬g.TimesOut env ms c
  alive : ∀ r, g'.users.heap.Alive r ↔ g.users.heap.Alive r ∧
    ¬∃ c, g.users.find c = some r ∧ g.TimesOut env ms c
  ids : ∀ k : Nat, g'.ids[k]? = g.ids[k]?.bind (idAfter ms)
  stream : (g'.id = g.id ∧ g'.repeaters = g.repeaters ∧ ¬g.StreamEnds ms) ∨
    (g'.id = 0 ∧ g'.repeaters = ∅ ∧ g.StreamEnds ms)
  silent : ∀ o ∈ outs, o.relayed = none
  lost : ∀ c, (∃ o ∈ outs, o.lost = some c) ↔ g.NotFound env ms c ∨ g.TimesOut env ms c

/-- The group when the loop over the pending ids is reached. -/
def beforeIds (env : Env) (ms : Nat) (g : GroupHandler) : GroupHandler :=
  ((clockLink ms (g.clockPing env ms).1).clockAnnounce env ms).1.clockStatus env

theorem beforeIds_frame (env : Env) (ms : Nat) (g : GroupHandler) :
    (g.beforeIds env ms).users = (g.clockPing env ms).1.users ∧
      (g.beforeIds env ms).ids = g.ids ∧
      ((g.linkTimer.fires ms ∧ (g.beforeIds env ms).id = 0 ∧ (g.beforeIds env ms).repeaters = ∅) ∨
        (¬g.linkTimer.fires ms ∧ (g.beforeIds env ms).id = g.id ∧
          (g.beforeIds env ms).repeaters = g.repeaters)) := by
  obtain ⟨ids₁, id₁, repeaters₁, timer₁⟩ := g.clockPing_frame env ms
  obtain ⟨ids₂, users₂, stream₂⟩ := clockLink_frame ms (g.clockPing env ms).1
  obtain ⟨ids₃, id₃, repeaters₃, users₃, -⟩ :=
    (clockLink ms (g.clockPing env ms).1).clockAnnounce_frame env ms
  obtain ⟨ids₄, id₄, repeaters₄, users₄⟩ :=
    ((clockLink ms (g.clockPing env ms).1).clockAnnounce env ms).1.clockStatus_frame env
  rw [timer₁, id₁, repeaters₁] at stream₂
  refine ⟨users₄.trans (users₃.trans users₂), ids₄.trans (ids₃.trans (ids₂.trans ids₁)), ?_⟩
  unfold beforeIds
  rw [id₄, id₃, repeaters₄, repeaters₃]
  exact stream₂

/-- A tick is the loop over the pending ids with what comes before and after. -/
theorem clockInt_ok {env : Env} {ms : Nat} {g g' : GroupHandler} {outs : List Output}
    (h : g.clockInt env ms = .ok (g', outs)) :
    ∃ g₅ acks, (g.beforeIds env ms).clockIds env ms = .ok (g₅, acks) ∧
      g' = (clockUsers ms g₅).clockExpiry.1 ∧
      outs = (g.clockPing env ms).2 ++ ((clockLink ms (g.clockPing env ms).1).clockAnnounce env ms).2 ++
        acks ++ (clockUsers ms g₅).clockExpiry.2 := by
  unfold clockInt at h
  dsimp only at h
  split at h
  · cases h
  · rename_i g₅ acks loop
    simp only [Except.ok.injEq, Prod.mk.injEq] at h
    obtain ⟨rfl, rfl⟩ := h
    exact ⟨g₅, acks, loop, rfl, rfl⟩

theorem clockInt_phases {env : Env} {ms : Nat} {g g' : GroupHandler} {outs : List Output}
    (h : g.clockInt env ms = .ok (g', outs)) :
    ∃ g₅ heard acks, (g.beforeIds env ms).clockIds env ms = .ok (g₅, acks) ∧
      g' = (clockUsers ms g₅).clockExpiry.1 ∧
      outs = (g.clockPing env ms).2 ++ heard ++ acks ++ (clockUsers ms g₅).clockExpiry.2 ∧
      ∀ o ∈ heard, o.relayed = none ∧ o.lost = none := by
  obtain ⟨g₅, acks, loop, left, sent⟩ := clockInt_ok h
  exact ⟨g₅, _, acks, loop, left, sent, ((clockLink ms (g.clockPing env ms).1).clockAnnounce_frame
    env ms).2.2.2.2⟩

/-- The group when its users are about to expire, and what the tick has put out by then. -/
structure BeforeExpiry (env : Env) (ms : Nat) (g : GroupHandler) (outs : List Output)
    (g₆ : GroupHandler) : Prop where
  find : ∀ c r, g₆.users.find c = some r ↔ g.users.find c = some r ∧ ¬g.NotFound env ms c ∧
    ¬g.LogoffDue ms c
  alive : ∀ r, g₆.users.heap.Alive r ↔ g.users.heap.Alive r
  expired : ∀ c r, g₆.users.find c = some r → (ExpiredEntry g₆.users (c, r) ↔
    ∃ u, g.users.heap.cell r = some u ∧ (u.clock ms).hasExpired)
  ids : ∀ k : Nat, g₆.ids[k]? = g.ids[k]?.bind (idAfter ms)
  stream : (g₆.id = g.id ∧ g₆.repeaters = g.repeaters ∧ ¬g.StreamEnds ms) ∨
    (g₆.id = 0 ∧ g₆.repeaters = ∅ ∧ g.StreamEnds ms)
  silent : ∀ o ∈ outs, o.relayed = none
  lost : ∀ c, (∃ o ∈ outs, o.lost = some c) ↔ g.NotFound env ms c

section
variable {env : Env} {ms : Nat} {g g₅ : GroupHandler} {acks : List Output}

theorem logsOffIn_beforeIds (env : Env) (ms : Nat) (g : GroupHandler) (c : Str) :
    LogsOffIn ms (g.beforeIds env ms).users (g.beforeIds env ms).ids.toList c ↔
      g.LogoffDue ms c := by
  obtain ⟨users, ids, -⟩ := g.beforeIds_frame env ms
  simp only [LogsOffIn, LogoffDue, mem_toList, ids, users, Pending, exists_and_left]
  refine exists_congr fun k => exists_congr fun tx => ?_
  refine and_congr_right fun _ => and_congr_right fun _ => ?_
  exact (g.clockPing_spec env ms).2.1.cell_iff tx.user (·.1 = c)

theorem clockedIds_stream (clocked : ClockedIds ms (g.beforeIds env ms)
    (g.beforeIds env ms).ids.toList acks g₅) :
    (g₅.id = g.id ∧ g₅.repeaters = g.repeaters ∧ ¬g.StreamEnds ms) ∨
      (g₅.id = 0 ∧ g₅.repeaters = ∅ ∧ g.StreamEnds ms) := by
  obtain ⟨-, ids, before⟩ := g.beforeIds_frame env ms
  have stops (id : Nat) : StopsIn ms id (g.beforeIds env ms).ids.toList ↔
      ∃ k tx, g.Pending k tx ∧ tx.Stops ms ∧ tx.id = id := by
    simp only [StopsIn, mem_toList, ids, Pending]
  have later := clocked.stream
  rcases before with ⟨fires, id₄, repeaters₄⟩ | ⟨quiet, id₄, repeaters₄⟩
  · rw [id₄, repeaters₄] at later
    rcases later with ⟨id₅, repeaters₅, -⟩ | ⟨id₅, repeaters₅, -⟩ <;>
      exact .inr ⟨id₅, repeaters₅, .inl fires⟩
  · rw [id₄, repeaters₄, stops] at later
    rcases later with ⟨id₅, repeaters₅, going⟩ | ⟨id₅, repeaters₅, stopped⟩
    · exact .inl ⟨id₅, repeaters₅, not_or.mpr ⟨quiet, going⟩⟩
    · exact .inr ⟨id₅, repeaters₅, .inr stopped⟩

theorem clockedIds_beforeExpiry {heard : List Output}
    (clocked : ClockedIds ms (g.beforeIds env ms) (g.beforeIds env ms).ids.toList acks g₅)
    (ids₅ : ∀ k : Nat, g₅.ids[k]? = (g.beforeIds env ms).ids[k]?.bind (idAfter ms))
    (quiet : ∀ o ∈ heard, o.relayed = none ∧ o.lost = none) :
    BeforeExpiry env ms g ((g.clockPing env ms).2 ++ heard ++ acks) (clockUsers ms g₅) := by
  obtain ⟨find₁, like, silent, lost⟩ := g.clockPing_spec env ms
  obtain ⟨users₄, ids₄, -⟩ := g.beforeIds_frame env ms
  obtain ⟨find₆, alive₆, cell₆⟩ := clockUsers_spec ms g₅
  have left (c : Str) (r : Nat) : (clockUsers ms g₅).users.find c = some r ↔
      g.users.find c = some r ∧ ¬g.NotFound env ms c ∧ ¬g.LogoffDue ms c := by
    rw [find₆, clocked.find, logsOffIn_beforeIds, users₄, find₁, and_assoc]
  have stream := clockedIds_stream clocked
  refine ⟨left, fun r => ?_, fun c r filed => ?_, fun k => ?_, stream, fun o member => ?_,
    fun c => ?_⟩
  · rw [alive₆, clocked.heap, users₄]
    exact like.alive r
  · obtain ⟨u, held, -⟩ := Users.find_cell ((left c r).mp filed).1
    obtain ⟨u', held', -, timer⟩ := like.cell held
    have held₅ : g₅.users.heap.cell r = some u' := by rw [clocked.heap, users₄, held']
    have held₆ := cell₆ c r u' (find₆ c ▸ filed) held₅
    have same : (u'.clock ms).hasExpired = (u.clock ms).hasExpired := by
      simp only [SGSUser.clock, SGSUser.hasExpired, timer]
    simp [ExpiredEntry, held₆, held, same]
  · exact (ids₅ k).trans (by rw [ids₄])
  · simp only [List.mem_append] at member
    rcases member with (ping | beat) | ack
    · exact silent o ping
    · exact (quiet o beat).1
    · exact (clocked.silent o ack).1
  · rw [← lost]
    constructor
    · rintro ⟨o, member, reported⟩
      simp only [List.mem_append] at member
      rcases member with (ping | beat) | ack
      · exact ⟨o, ping, reported⟩
      · rw [(quiet o beat).2] at reported
        cases reported
      · rw [(clocked.silent o ack).2] at reported
        cases reported
    · rintro ⟨o, ping, reported⟩
      exact ⟨o, by simp [ping], reported⟩

end

namespace BeforeExpiry
variable {env : Env} {ms : Nat} {g g₆ : GroupHandler} {outs : List Output}

theorem idle_iff (before : BeforeExpiry env ms g outs g₆) :
    g₆.id = 0 ↔ g.id = 0 ∨ g.StreamEnds ms := by
  rcases before.stream with ⟨id, -, going⟩ | ⟨id, -, stopped⟩
  · rw [id]
    exact ⟨.inl, fun either => either.resolve_right going⟩
  · exact ⟨fun _ => .inr stopped, fun _ => id⟩

theorem timesOut_iff (before : BeforeExpiry env ms g outs g₆) (c : Str) :
    g.TimesOut env ms c ↔
      g₆.id = 0 ∧ ∃ r, g₆.users.find c = some r ∧ ExpiredEntry g₆.users (c, r) := by
  rw [before.idle_iff]
  apply and_congr_right
  intro _
  constructor
  · rintro ⟨found, stays, r, u, filed, held, overdue⟩
    have filed₆ := (before.find c r).mpr ⟨filed, found, stays⟩
    exact ⟨r, filed₆, (before.expired c r filed₆).mpr ⟨u, held, overdue⟩⟩
  · rintro ⟨r, filed₆, expired⟩
    obtain ⟨filed, found, stays⟩ := (before.find c r).mp filed₆
    obtain ⟨u, held, overdue⟩ := (before.expired c r filed₆).mp expired
    exact ⟨found, stays, r, u, filed, held, overdue⟩

/-- On a busy group nobody expires, and the tick is over. -/
theorem tick_of_busy (before : BeforeExpiry env ms g outs g₆) (busy : g₆.id ≠ 0) :
    Tick env ms g outs g₆ := by
  have nobody (c : Str) : ¬g.TimesOut env ms c :=
    fun overdue => busy ((before.timesOut_iff c).mp overdue).1
  refine ⟨fun c r => ?_, fun r => ?_, before.ids, before.stream, before.silent, fun c => ?_⟩
  · simp [before.find, nobody]
  · simp [before.alive, nobody]
  · simp [before.lost, nobody]

theorem expired_iff (before : BeforeExpiry env ms g outs g₆) (idle : g₆.id = 0) {c : Str} {r : Nat}
    (filed : g₆.users.find c = some r) :
    ExpiredEntry g₆.users (c, r) ↔ g.TimesOut env ms c := by
  rw [before.timesOut_iff]
  constructor
  · exact fun expired => ⟨idle, r, filed, expired⟩
  · rintro ⟨-, r', filed', expired⟩
    have own : r = r' := Option.some.inj (filed.symm.trans filed')
    exact own ▸ expired

section
variable {users : Users} {more : List Output}

theorem find_expired (before : BeforeExpiry env ms g outs g₆) (idle : g₆.id = 0)
    (expiry : Expired g₆.users g₆.users.entries more users) (c : Str) (r : Nat) :
    users.find c = some r ↔ g.users.find c = some r ∧ ¬g.NotFound env ms c ∧
      ¬g.LogoffDue ms c ∧ ¬g.TimesOut env ms c := by
  rw [expiry.find, Users.mem_entries]
  constructor
  · rintro ⟨filed, stays⟩
    obtain ⟨filed₀, found, logged⟩ := (before.find c r).mp filed
    have kept := fun out => stays ⟨filed, (before.expired_iff idle filed).mpr out⟩
    exact ⟨filed₀, found, logged, kept⟩
  · rintro ⟨filed₀, found, logged, stays⟩
    have filed := (before.find c r).mpr ⟨filed₀, found, logged⟩
    exact ⟨filed, fun gone => stays ((before.expired_iff idle filed).mp gone.2)⟩

theorem alive_expired (before : BeforeExpiry env ms g outs g₆) (idle : g₆.id = 0)
    (expiry : Expired g₆.users g₆.users.entries more users) (r : Nat) :
    users.heap.Alive r ↔
      g.users.heap.Alive r ∧ ¬∃ c, g.users.find c = some r ∧ g.TimesOut env ms c := by
  have same (kept : ∀ c, ¬((c, r) ∈ g₆.users.entries ∧ ExpiredEntry g₆.users (c, r))) :
      users.heap.Alive r ↔ g₆.users.heap.Alive r := by
    simp [Heap.Alive, expiry.kept r kept]
  constructor
  · intro alive
    have kept (c : Str) : ¬((c, r) ∈ g₆.users.entries ∧ ExpiredEntry g₆.users (c, r)) :=
      fun gone => expiry.gone c r gone.1 gone.2 alive
    refine ⟨(before.alive r).mp ((same kept).mp alive), ?_⟩
    rintro ⟨c, filed₀, out⟩
    obtain ⟨-, r', filed, gone⟩ := (before.timesOut_iff c).mp out
    have own : r' = r := Option.some.inj (((before.find c r').mp filed).1.symm.trans filed₀)
    subst own
    exact kept c ⟨Users.mem_entries.mpr filed, gone⟩
  · rintro ⟨alive, stays⟩
    refine (same ?_).mpr ((before.alive r).mpr alive)
    rintro c ⟨member, gone⟩
    have filed := Users.mem_entries.mp member
    exact stays ⟨c, ((before.find c r).mp filed).1, (before.expired_iff idle filed).mp gone⟩

theorem lost_expired (before : BeforeExpiry env ms g outs g₆) (idle : g₆.id = 0)
    (expiry : Expired g₆.users g₆.users.entries more users) (c : Str) :
    (∃ o ∈ outs ++ more, o.lost = some c) ↔ g.NotFound env ms c ∨ g.TimesOut env ms c := by
  have apart : (∃ o ∈ outs ++ more, o.lost = some c) ↔
      (∃ o ∈ outs, o.lost = some c) ∨ ∃ o ∈ more, o.lost = some c := by
    simp only [List.mem_append, or_and_right, exists_or]
  rw [apart, before.lost, expiry.lost, before.timesOut_iff]
  simp only [Users.mem_entries, idle, true_and]

end
end BeforeExpiry

theorem clockExpiry_tick {env : Env} {ms : Nat} {g g₆ : GroupHandler} {outs : List Output}
    (before : BeforeExpiry env ms g outs g₆) :
    Tick env ms g (outs ++ g₆.clockExpiry.2) g₆.clockExpiry.1 := by
  unfold clockExpiry
  split
  · rename_i busy
    rw [List.append_nil]
    exact before.tick_of_busy busy
  · rename_i active
    have idle : g₆.id = 0 := not_not.mp active
    have expiry := expireUsers_spec g₆.users
    refine ⟨before.find_expired idle expiry, before.alive_expired idle expiry, before.ids,
      before.stream, fun o member => ?_, before.lost_expired idle expiry⟩
    rcases List.mem_append.mp member with earlier | last
    · exact before.silent o earlier
    · exact expiry.silent o last

theorem clockInt_spec {env : Env} {ms : Nat} {g g' : GroupHandler} {outs : List Output}
    (h : g.clockInt env ms = .ok (g', outs)) : Tick env ms g outs g' := by
  obtain ⟨g₅, heard, acks, loop, rfl, rfl, quiet⟩ := clockInt_phases h
  obtain ⟨clocked, ids⟩ := clockIds_spec loop
  exact clockExpiry_tick (clockedIds_beforeExpiry clocked ids quiet)

end GroupHandler
end SmartGroup
