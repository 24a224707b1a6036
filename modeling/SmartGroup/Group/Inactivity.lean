import SmartGroup.Group.LinkFrame
import SmartGroup.Group.Quiet

/-! The inactivity timeout: a user's timer against the ticks of the whole run. -/
namespace SmartGroup
open Bytes Sweep Objects Machine

/-- The timer of a user `total` milliseconds after it was started; without a timeout it
does not run. -/
def userTimer (minutes total : Nat) : Timer :=
  if minutes = 0 then ⟨1000, 0, 0⟩ else ⟨1000, minutes * 60000 + 1, 1 + total⟩

section
variable {minutes total ms : Nat}

theorem new_userTimer (admitted : minutes ≤ 600) :
    (Timer.new 1000 (minutes * 60 % word) 0).start = userTimer minutes 0 := by
  have small : minutes * 60 % word = minutes * 60 := Nat.mod_eq_of_lt (by unfold word; omega)
  unfold userTimer
  by_cases never : minutes = 0
  · subst never
    rfl
  · have length : ((minutes * 60 * 1000 + 0) * 1000 / 1000 + 1) % word = minutes * 60000 + 1 := by
      rw [Nat.mul_div_cancel _ (by omega), Nat.mod_eq_of_lt (by unfold word; omega)]
      omega
    rw [if_neg never, small, Timer.new, Timer.span, if_pos (.inl (by omega)), length]
    exact if_pos (Nat.succ_pos _)

theorem start_userTimer : (userTimer minutes total).start = userTimer minutes 0 := by
  unfold userTimer
  split
  · rfl
  · exact if_pos (Nat.succ_pos _)

/-- Within the run no timer wraps around. -/
theorem clock_userTimer (short : total + ms < 2 ^ 31) :
    (userTimer minutes total).clock ms = userTimer minutes (total + ms) := by
  unfold userTimer
  split
  · rfl
  · have small : (1 + total + ms) % word = 1 + (total + ms) := by
      rw [Nat.mod_eq_of_lt (by unfold word; omega)]
      omega
    have runs : 0 < 1 + total := by omega
    rw [Timer.clock, if_pos ⟨runs, Nat.succ_pos _⟩, small]

theorem expired_userTimer :
    ((userTimer minutes total).isRunning && (userTimer minutes total).hasExpired) = true ↔
      0 < minutes ∧ minutes * 60000 ≤ total := by
  unfold userTimer
  split
  · rename_i never
    simp [Timer.isRunning, never]
  · simp only [Timer.isRunning, Timer.hasExpired, Bool.and_eq_true, decide_eq_true_eq]
    omega

end

namespace GroupHandler

/-- The event makes the object of a user, or resets it: a header of the user to the group,
or a frame of the current stream whose pending id is his. -/
def Resets (r : Nat) (g : GroupHandler) : GroupEvent → Prop
  | .g2Header _ header => g.Accepts header ∧ header.yourCall = g.groupCallsign ∧
      (g.users.find header.myCall1).getD g.users.heap.next = r
  | .g2AMBE _ data => data.getId = g.id ∧ ∃ tx, g.Pending g.id tx ∧ tx.user = r
  | _ => False

theorem owner_iff (g : GroupHandler) (r : Nat) :
    (∃ tx, g.Pending g.id tx ∧ tx.user = r) ↔ ∃ tx ∈ (g.ids[g.id]?).join, tx.user = r := by
  simp only [Pending, Option.mem_def, Option.join_eq_some_iff]

instance (r : Nat) (g : GroupHandler) : (e : GroupEvent) → Decidable (Resets r g e)
  | .g2Header _ _ => inferInstanceAs (Decidable (_ ∧ _ ∧ _))
  | .g2AMBE _ _ =>
      have := decidable_of_iff _ (owner_iff g r).symm
      inferInstanceAs (Decidable (_ ∧ _))
  | .reflectorHeader _ _ | .reflectorAMBE _ _ | .logoffUser _ | .clock _ _ | .relink _ =>
      inferInstanceAs (Decidable False)

/-- The milliseconds of the ticks since the object was made or reset. -/
def idleTime (r : Nat) (tr : List GroupEntry) : Nat :=
  tr.foldl (fun total x => if Resets r x.pre x.event then 0 else total + tickTime x.event) 0

theorem idleTime_snoc (r : Nat) (tr : List GroupEntry) (x : GroupEntry) :
    idleTime r (tr ++ [x]) =
      if Resets r x.pre x.event then 0 else idleTime r tr + tickTime x.event := by
  simp only [idleTime, List.foldl_append, List.foldl_cons, List.foldl_nil]

theorem idleTime_le (r : Nat) (tr : List GroupEntry) : idleTime r tr ≤ elapsed tr := by
  induction tr using List.reverseRecOn with
  | nil => exact Nat.le_refl 0
  | append_singleton tr x ih =>
      rw [idleTime_snoc, elapsed_snoc]
      split
      · exact Nat.zero_le _
      · exact Nat.add_le_add_right ih _

/-! The timer of a filed user after a step. -/

inductive TimerCase (g : GroupHandler) (e : GroupEvent) (r : Nat) : Timer → Prop
  | made (resets : Resets r g e) : TimerCase g e r (Timer.new 1000 (g.userTimeout * 60 % word) 0).start
  | started (resets : Resets r g e) (c : Str) (u : SGSUser) (filed : g.users.find c = some r)
      (held : g.users.heap.cell r = some u) : TimerCase g e r u.timer.start
  | kept (still : ¬Resets r g e) (untimed : tickTime e = 0) (c : Str) (u : SGSUser)
      (filed : g.users.find c = some r) (held : g.users.heap.cell r = some u) : TimerCase g e r u.timer
  | clocked (env : Env) (ms : Nat) (event : e = .clock env ms) (c : Str) (u : SGSUser)
      (filed : g.users.find c = some r) (held : g.users.heap.cell r = some u) :
      TimerCase g e r (u.timer.clock ms)

section
variable {env : Env} {g g' : GroupHandler} {e : GroupEvent} {c : Str} {r : Nat} {u : SGSUser}

/-- An event that resets the one object and leaves the others. -/
theorem timer_reset {r₀ : Nat} {now : Int} (resets : ∀ r, Resets r g e ↔ r = r₀) (untimed : tickTime e = 0)
    (filed : g.users.find c = some r) (held : (g.users.reset r₀ now).heap.cell r = some u) :
    TimerCase g e r u.timer := by
  simp only [Users.reset, Users.modify, Heap.modify_cell] at held
  split at held
  · rename_i own
    subst own
    obtain ⟨u₀, held₀, rfl⟩ := Option.map_eq_some_iff.mp held
    exact .started ((resets r).mpr rfl) c u₀ filed held₀
  · rename_i other
    exact .kept (fun own => other ((resets r).mp own)) untimed c u filed held

theorem HeaderCase.timer {header : HeaderData} {go : Option Bool} (case : HeaderCase env g header go g')
    (accepted : g.Accepts header) (filed : g'.users.find c = some r)
    (held : g'.users.heap.cell r = some u) : TimerCase g (.g2Header env header) r u.timer := by
  have resets (subscribe : header.yourCall = g.groupCallsign) (r : Nat) :
      Resets r g (.g2Header env header) ↔ r = (g.users.find header.myCall1).getD g.users.heap.next := by
    simp only [Resets, accepted, subscribe, true_and, eq_comm]
  have silent (other : header.yourCall ≠ g.groupCallsign) : ¬Resets r g (.g2Header env header) :=
    fun own => other own.2.1
  have known {r₀ : Nat} (subscribe : header.yourCall = g.groupCallsign)
      (filed₀ : g.users.find header.myCall1 = some r₀) (r : Nat) : Resets r g (.g2Header env header) ↔ r = r₀ := by
    rw [resets subscribe, filed₀, Option.getD_some]
  cases case with
  | login subscribe absent =>
      rw [Users.find_login] at filed
      simp only [Users.login, Heap.alloc_cell] at held
      split at held
      · rename_i own
        subst own
        cases held
        exact .made ((resets subscribe _).mpr (by rw [absent]; rfl))
      · rename_i other
        have apart : ¬Resets r g (.g2Header env header) := by
          rw [resets subscribe, absent]
          exact other
        split at filed
        · cases filed
          exact absurd rfl other
        · exact .kept apart rfl c u filed held
  | duplicate r₀ tx subscribe filed₀ pending => exact timer_reset (known subscribe filed₀) rfl filed held
  | again r₀ subscribe filed₀ idle => exact timer_reset (known subscribe filed₀) rfl filed held
  | unknown other absent => exact .kept (silent other) rfl c u filed held
  | logoff r₀ other filed₀ =>
      rw [Users.find_erase] at filed
      split at filed
      · cases filed
      · exact .kept (silent other) rfl c u filed held

theorem AMBECase.timer {data : AMBEData} (case : AMBECase env g data g') (current : data.getId = g.id)
    (filed : g'.users.find c = some r) (held : g'.users.heap.cell r = some u) :
    TimerCase g (.g2AMBE env data) r u.timer := by
  have resets (tx : SGSId) (pending : g.Pending g.id tx) (r : Nat) :
      Resets r g (.g2AMBE env data) ↔ r = tx.user := by
    constructor
    · intro ⟨_, tx', pending', owner⟩
      have own : tx' = tx := Option.some.inj (Option.some.inj (pending'.symm.trans pending))
      rw [← own, owner]
    · intro own
      exact ⟨current, tx, pending, own.symm⟩
  cases case with
  | unknown absent =>
      refine .kept ?_ rfl c u filed held
      intro ⟨_, tx, pending, _⟩
      rw [Pending, absent] at pending
      cases pending
  | going tx pending more => exact timer_reset (resets tx pending) rfl filed held
  | login tx pending last login => exact timer_reset (resets tx pending) rfl filed held
  | logoff tx user pending last owner stays logoff =>
      rw [Users.find_erase] at filed
      split at filed
      · cases filed
      · exact timer_reset (resets tx pending) rfl filed held
  | relay tx pending last stays => exact timer_reset (resets tx pending) rfl filed held

theorem LogoffCase.timer {name : Str} (case : LogoffCase g name g') (filed : g'.users.find c = some r)
    (held : g'.users.heap.cell r = some u) : TimerCase g (.logoffUser name) r u.timer := by
  have still : ¬Resets r g (.logoffUser name) := not_false
  have deleted (filed : (g.users.delete name).find c = some r)
      (held : (g.users.delete name).heap.cell r = some u) : TimerCase g (.logoffUser name) r u.timer := by
    rw [Users.find_delete] at filed
    split at filed
    · cases filed
    · refine .kept still rfl c u filed ?_
      cases own : g.users.find name with
      | none => rwa [Users.delete_of_absent own] at held
      | some r₀ =>
          rw [Users.delete_of_find own] at held
          simp only [Users.deleteAt, Heap.free_cell] at held
          split at held
          · cases held
          · exact held
  cases case with
  | all _ =>
      rw [Users.find_deleteAll] at filed
      cases filed
  | absent _ _ => exact .kept still rfl c u filed held
  | last _ _ _ _ | one _ _ _ _ => exact deleted filed held

end

/-! A tick. -/

/-- The group when a tick reaches the inactivity branch. -/
def atExpiry (env : Env) (ms : Nat) (g : GroupHandler) : Except Fault GroupHandler :=
  ((g.beforeIds env ms).clockIds env ms).map fun r => clockUsers ms r.1

/-- What the phases before the branch leave of the users. -/
theorem atExpiry_timer {env : Env} {ms : Nat} {g g₆ : GroupHandler} (reached : g.atExpiry env ms = .ok g₆)
    {c : Str} {r : Nat} {u : SGSUser} (filed : g₆.users.find c = some r)
    (held : g₆.users.heap.cell r = some u) :
    ∃ u₀, g.users.find c = some r ∧ g.users.heap.cell r = some u₀ ∧ u.timer = u₀.timer.clock ms := by
  unfold atExpiry at reached
  cases loop : (g.beforeIds env ms).clockIds env ms with
  | error f =>
      rw [loop] at reached
      cases reached
  | ok result =>
      obtain ⟨g₅, acks⟩ := result
      rw [loop] at reached
      cases reached
      obtain ⟨clocked, -⟩ := clockIds_spec loop
      obtain ⟨find₁, like, -, -⟩ := g.clockPing_spec env ms
      obtain ⟨users₄, -, -⟩ := g.beforeIds_frame env ms
      obtain ⟨find₆, -, cell₆⟩ := clockUsers_spec ms g₅
      rw [find₆] at filed
      have filed₄ := ((clocked.find c r).mp filed).1
      rw [users₄] at filed₄
      have filed₀ := ((find₁ c r).mp filed₄).1
      obtain ⟨u₀, held₀, -⟩ := Users.find_cell filed₀
      obtain ⟨u₁, held₁, -, timer⟩ := like.cell held₀
      have held₅ : g₅.users.heap.cell r = some u₁ := by rw [clocked.heap, users₄, held₁]
      have held₆ := cell₆ c r u₁ filed held₅
      have own := Option.some.inj (held₆.symm.trans held)
      refine ⟨u₀, filed₀, held₀, ?_⟩
      rw [← own, ← timer]
      rfl

theorem clockInt_atExpiry {env : Env} {ms : Nat} {g g' : GroupHandler} {outs : List Output}
    (h : g.clockInt env ms = .ok (g', outs)) :
    ∃ g₆ before, g.atExpiry env ms = .ok g₆ ∧ g' = g₆.clockExpiry.1 ∧ outs = before ++ g₆.clockExpiry.2 := by
  obtain ⟨g₅, acks, loop, left, sent⟩ := clockInt_ok h
  have reached : g.atExpiry env ms = .ok (clockUsers ms g₅) := by
    unfold atExpiry
    rw [loop]
    rfl
  exact ⟨clockUsers ms g₅, _, reached, left, sent⟩

theorem expireUser_outs (t : Users) (entry : Str × Nat) :
    ∀ o ∈ (expireUser t entry).2, ∃ name, o = .removing name .userTimeout := by
  intro o member
  unfold expireUser at member
  split at member
  · cases member
  · split at member
    · exact ⟨_, List.mem_singleton.mp member⟩
    · cases member

/-- The branch takes the user from the map, deletes the object and reports it. -/
structure Expires (g₆ g' : GroupHandler) (outs : List Output) (name : Str) (r : Nat) : Prop where
  filed : g₆.users.find name = some r
  gone : g'.users.find name = none
  deleted : ¬g'.users.heap.Alive r
  reported : .removing name .userTimeout ∈ outs

/-- What the branch leaves of a user that stays. -/
theorem clockExpiry_kept {g : GroupHandler} {c : Str} {r : Nat}
    (filed : g.clockExpiry.1.users.find c = some r) :
    g.users.find c = some r ∧ g.clockExpiry.1.users.heap.cell r = g.users.heap.cell r := by
  unfold clockExpiry at filed ⊢
  split at filed
  · rename_i busy
    rw [if_pos busy]
    exact ⟨filed, rfl⟩
  · rename_i active
    rw [if_neg active]
    dsimp only at filed ⊢
    have expiry := expireUsers_spec g.users
    obtain ⟨filed₀, stays⟩ := (expiry.find c r).mp filed
    refine ⟨filed₀, expiry.kept r ?_⟩
    intro c' ⟨member, gone⟩
    have same := Users.find_injective filed₀ (Users.mem_entries.mp member)
    subst same
    exact stays ⟨member, gone⟩

theorem expires_iff (g : GroupHandler) (before : List Output) (name : Str) (r : Nat) :
    Expires g g.clockExpiry.1 (before ++ g.clockExpiry.2) name r ↔
      g.users.find name = some r ∧ g.id = 0 ∧ ExpiredEntry g.users (name, r) := by
  have expiry := expireUsers_spec g.users
  constructor
  · intro ⟨filed, gone, _, _⟩
    by_cases busy : g.id ≠ 0
    · rw [clockExpiry, if_pos busy] at gone
      cases filed.symm.trans gone
    · rw [clockExpiry, if_neg busy] at gone
      dsimp only at gone
      refine ⟨filed, not_not.mp busy, ?_⟩
      by_contra stays
      have kept := (expiry.find name r).mpr ⟨filed, fun both => stays both.2⟩
      cases kept.symm.trans gone
  · intro ⟨filed, idle, expired⟩
    have member := Users.mem_entries.mpr filed
    rw [clockExpiry, if_neg (not_not.mpr idle)]
    dsimp only
    have gone : (forEach expireUser g.users g.users.entries).1.find name = none := by
      cases left : (forEach expireUser g.users g.users.entries).1.find name with
      | none => rfl
      | some r' =>
          obtain ⟨filed', stays⟩ := (expiry.find name r').mp left
          have own : r' = r := Option.some.inj (filed'.symm.trans filed)
          subst own
          exact absurd ⟨member, expired⟩ stays
    obtain ⟨o, sent, lost⟩ := (expiry.lost name).mpr ⟨r, member, expired⟩
    obtain ⟨name', rfl⟩ := forEach_outputs (fun t entry _ => expireUser_outs t entry) g.users o sent
    cases lost
    exact ⟨filed, gone, expiry.gone name r member expired, List.mem_append_right before sent⟩

section
variable {g g' : GroupHandler} {e : GroupEvent} {outs : List Output} {c : Str} {r : Nat} {u : SGSUser}

theorem step_timer (h : g.step e = .ok (g', outs)) (filed : g'.users.find c = some r)
    (held : g'.users.heap.cell r = some u) : TimerCase g e r u.timer := by
  cases step_case h with
  | refused env header refuses =>
      have still : ¬Resets r g (.g2Header env header) := fun own => refuses own.1
      exact .kept still rfl c u filed held
  | opened env header islogin g₁ accepted _ case => exact case.timer accepted filed held
  | recorded env header go _ accepted _ case => exact case.timer accepted filed held
  | skipped env data other =>
      have still : ¬Resets r g (.g2AMBE env data) := fun own => other own.1
      exact .kept still rfl c u filed held
  | voice env data _ _ current case _ => exact case.timer current filed held
  | reflectorHeader env header _ case =>
      have still : ¬Resets r g (.reflectorHeader env header) := not_false
      cases case with
      | busy _ | idle _ => exact .kept still rfl c u filed held
  | reflectorAMBE env data _ _ case _ =>
      have still : ¬Resets r g (.reflectorAMBE env data) := not_false
      cases case with
      | other _ | going _ _ | last _ _ => exact .kept still rfl c u filed held
  | logoffUser name _ _ case _ => exact case.timer filed held
  | clock env ms _ _ _ =>
      simp only [step] at h
      obtain ⟨g₆, _, reached, rfl, -⟩ := clockInt_atExpiry h
      obtain ⟨filed₆, same⟩ := clockExpiry_kept filed
      rw [same] at held
      obtain ⟨u₀, filed₀, held₀, timer⟩ := atExpiry_timer reached filed₆ held
      rw [timer]
      exact .clocked env ms rfl c u₀ filed₀ held₀
  | relink info =>
      have still : ¬Resets r g (.relink info) := not_false
      exact .kept still rfl c u filed held

theorem userTimeout_step (h : g.step e = .ok (g', outs)) : g'.userTimeout = g.userTimeout :=
  have fixed : Fixed userTimeout := fun _ _ _ _ _ _ _ _ _ => rfl
  fixed.always (fun _ _ => rfl) h

end

/-- Every user's timer shows how long its object has been idle. -/
structure Aged (c : Config) (tr : List GroupEntry) (g : GroupHandler) : Prop where
  timeout : g.userTimeout = c.userTimeout
  timer : elapsed tr < 2 ^ 31 → ∀ name r u, g.users.find name = some r →
    g.users.heap.cell r = some u → u.timer = userTimer c.userTimeout (idleTime r tr)

theorem Aged.step {c : Config} {tr : List GroupEntry} {g g' : GroupHandler} {e : GroupEvent}
    {outs : List Output} (aged : Aged c tr g) (admitted : c.userTimeout ≤ 600)
    (h : g.step e = .ok (g', outs)) : Aged c (tr ++ [⟨g, e, outs, g'⟩]) g' := by
  refine ⟨(userTimeout_step h).trans aged.timeout, ?_⟩
  intro short name r u filed held
  rw [elapsed_snoc] at short
  have before := aged.timer (by omega)
  rw [idleTime_snoc]
  dsimp only
  generalize left : u.timer = timer
  have case : TimerCase g e r timer := left ▸ step_timer h filed held
  cases case with
  | made resets =>
      rw [if_pos resets, aged.timeout]
      exact new_userTimer admitted
  | started resets c' u₀ filed₀ held₀ =>
      rw [if_pos resets, before c' r u₀ filed₀ held₀]
      exact start_userTimer
  | kept still untimed c' u₀ filed₀ held₀ =>
      rw [if_neg still, untimed, Nat.add_zero]
      exact before c' r u₀ filed₀ held₀
  | clocked env ms event c' u₀ filed₀ held₀ =>
      subst event
      have still : ¬Resets r g (.clock env ms) := not_false
      have idle := idleTime_le r tr
      simp only [tickTime] at short
      rw [if_neg still, before c' r u₀ filed₀ held₀]
      exact clock_userTimer (by omega)

theorem GroupRun.aged {c : Config} {tr : List GroupEntry} {g : GroupHandler} (run : GroupRun c tr g)
    (admitted : c.userTimeout ≤ 600) : Aged c tr g := by
  induction run with
  | nil =>
      refine ⟨rfl, ?_⟩
      intro _ name r u filed _
      cases filed.symm.trans (Users.find_empty name)
  | snoc _ taken ih => exact ih.step admitted taken

/-- The branch removes a user exactly when it is reached with no stream open and the
object has been idle for the timeout. -/
theorem inactivity_exact {c : Config} {tr : List GroupEntry} {env : Env} {ms : Nat} {g g' : GroupHandler}
    {outs : List Output} (admitted : c.userTimeout ≤ 600) (run : GroupRun c tr g)
    (tick : g.step (.clock env ms) = .ok (g', outs)) (short : elapsed tr + ms < 2 ^ 31) :
    ∃ g₆, g.atExpiry env ms = .ok g₆ ∧ ∀ name r, Expires g₆ g' outs name r ↔
      g₆.users.find name = some r ∧ g₆.id = 0 ∧
        0 < c.userTimeout ∧ c.userTimeout * 60000 ≤ idleTime r tr + ms := by
  simp only [step] at tick
  obtain ⟨g₆, before, reached, rfl, rfl⟩ := clockInt_atExpiry tick
  refine ⟨g₆, reached, fun name r => ?_⟩
  rw [expires_iff]
  apply and_congr_right
  intro filed
  apply and_congr_right
  intro _
  obtain ⟨u, held, -⟩ := Users.find_cell filed
  obtain ⟨u₀, filed₀, held₀, timer⟩ := atExpiry_timer reached filed held
  have idle := idleTime_le r tr
  have aged := (run.aged admitted).timer (by omega) name r u₀ filed₀ held₀
  rw [aged, clock_userTimer (by omega)] at timer
  rw [← expired_userTimer, ← timer]
  constructor
  · intro overdue
    obtain ⟨u', held', expired⟩ := overdue
    cases held.symm.trans held'
    exact expired
  · exact fun expired => ⟨u, held, expired⟩

section
open Sample

/-- Half an hour after a login, in one tick. -/
theorem expired_user : ∃ tr g g' outs g₆ name r, GroupRun config tr g ∧
    g.step (.clock env 1800000) = .ok (g', outs) ∧ g.atExpiry env 1800000 = .ok g₆ ∧
      Expires g₆ g' outs name r := by
  obtain ⟨tr, g, run, accepted⟩ := Sample.run
    [.g2Header env (call userA smart 1), .g2AMBE env (lastFrame 1)]
    (fun tr g => decide (elapsed tr = 0 ∧ (g.step (.clock env 1800000)).toOption.isSome) &&
      (g.atExpiry env 1800000).toOption.any fun (g₆ : GroupHandler) =>
        decide (g₆.users.find userA = some 0 ∧ g₆.id = 0)) (by decide +kernel)
  rw [Bool.and_eq_true, decide_eq_true_eq] at accepted
  obtain ⟨⟨total, ticks⟩, arrives⟩ := accepted
  cases tick : g.step (.clock env 1800000) with
  | error _ =>
      rw [tick] at ticks
      cases ticks
  | ok result =>
      obtain ⟨g', outs⟩ := result
      have short : elapsed tr + 1800000 < 2 ^ 31 := by
        rw [total]
        decide
      obtain ⟨g₆, reached, removed⟩ := inactivity_exact (by decide) run tick short
      rw [reached] at arrives
      obtain ⟨filed, idle⟩ := of_decide_eq_true arrives
      refine ⟨tr, g, g', outs, g₆, userA, 0, run, tick, reached, (removed userA 0).mpr ?_⟩
      refine ⟨filed, idle, by decide, ?_⟩
      have long : config.userTimeout * 60000 = 1800000 := by decide
      rw [long]
      exact Nat.le_add_left 1800000 _

end

end GroupHandler
end SmartGroup
