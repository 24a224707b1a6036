import SmartGroup.Irc.Effects
import SmartGroup.Support.Credit

/-! How long the application is set up for. The turns of `Entry` before it is ready are counted
down by the timer, except those that answer `LIST_MORE` when the timer has run out. -/
namespace SmartGroup
open Bytes Machine

namespace IRCDDBApp

/-- The turns that are still to come before the application is ready or starts again, when the
server says nothing more. -/
def ahead (a : IRCDDBApp) : Nat :=
  match a.state with
  | 0 => 1105
  | 1 => 1104
  | 2 => max a.timer 1 + 903
  | 3 => if a.sendlistTableID = 2 then 903 else if a.sendlistTableID = 1 then 3 else 1
  | 4 => if a.sendlistTableID = 1 then max (a.timer - 1) 1 + 3 else 2
  | 5 => max a.timer 1 + 2
  | _ => 0

/-- A turn of `Entry` while the application is set up. Without a queue it waits in state 0. -/
def turns (x : AppEntry) : Nat :=
  match x.event with
  | .entry _ => if x.pre.state ≤ 5 ∧ (x.pre.state = 0 → x.pre.sendQ = true) then 1 else 0
  | _ => 0

/-- A turn that starts again. -/
def restarts (x : AppEntry) : Nat :=
  match x.event with
  | .entry _ => if x.pre.state = 10 then 1 else 0
  | _ => 0

/-- A server leaves. -/
def serverLeaves (x : AppEntry) : Nat :=
  match x.event with
  | .userLeave nick => if nick.take 2 = str "s-" then 1 else 0
  | _ => 0

/-- The server has more of the list to send, and the time is over. -/
def lateMore (x : AppEntry) : Nat :=
  match x.event with
  | .msgQuery _ _ => if x.pre.state = 5 ∧ x.post.state = 4 ∧ x.pre.timer ≤ 1 then 1 else 0
  | _ => 0

/-- What a step gains. -/
def granted (x : AppEntry) : Nat := 1105 * restarts x + lateMore x + 1103 * serverLeaves x

/-- What holds of the application in every turn. -/
structure Numbered (a : IRCDDBApp) : Prop where
  state : a.state ≤ 7 ∨ a.state = 10
  next : a.state = 3 → a.sendlistTableID = 0 ∨ a.sendlistTableID = 1 ∨ a.sendlistTableID = 2
  table : a.state = 4 → a.sendlistTableID = 0 ∨ a.sendlistTableID = 1
  waiting : a.state = 5 → a.sendlistTableID = 1

section
variable {a a' : IRCDDBApp} {e : AppEvent} {o : List IRCMessage}

theorem ahead_ready (state : 6 ≤ a.state) : a.ahead = 0 := by
  unfold ahead
  split <;> omega

theorem ahead_early (early : a.state ≤ 5) : 1 ≤ a.ahead := by
  obtain state | state | state | state | state | state : a.state = 0 ∨ a.state = 1 ∨ a.state = 2 ∨ a.state = 3 ∨
      a.state = 4 ∨ a.state = 5 := by omega
  all_goals
    simp only [ahead, state]
    repeat' split
  all_goals omega

theorem turns_ready {order : List Str} (late : 6 ≤ a.state) : turns ⟨a, .entry order, o, a'⟩ = 0 :=
  if_neg fun early => absurd early.1 (Nat.not_le.mpr late)

/-- A turn that changes nothing waits for the queue, or for the timer. -/
theorem waits_of_entryState {order : List Str} (taken : a.entryState order = .ok (a, o)) :
    (a.state = 0 → a.sendQ = false) ∧ (a.state = 2 ∨ a.state = 5 → a.timer ≠ 0) := by
  have moved {b : IRCDDBApp} (other : b.state ≠ a.state) : b ≠ a := fun same => other (congrArg state same)
  constructor
  · intro state
    by_contra queue
    have queue := Bool.eq_true_of_not_eq_false queue
    simp only [entryState, state, queue, if_true, Except.ok.injEq, Prod.mk.injEq] at taken
    exact moved (by simp [state]) taken.1
  · rintro (state | state) zero
    · simp only [entryState, state, zero, if_true] at taken
      split at taken
      · split at taken
        · simp only [Except.ok.injEq, Prod.mk.injEq] at taken
          exact moved (by simp [state]) taken.1
        · simp only [Except.ok.injEq, Prod.mk.injEq] at taken
          exact moved (by simp [state]) taken.1
      · simp only [Except.ok.injEq, Prod.mk.injEq] at taken
        exact moved (by simp [state]) taken.1
    · simp only [entryState, state, zero, if_true] at taken
      split at taken
      · simp only [Except.ok.injEq, Prod.mk.injEq] at taken
        exact moved (by simp [state]) taken.1
      · simp only [Except.ok.injEq, Prod.mk.injEq] at taken
        exact moved (by simp [state]) taken.1

/-- A turn to a state with less ahead of it. -/
theorem paid_of_less {order : List Str} (less : 1 + a'.ahead ≤ a.ahead) :
    turns ⟨a, .entry order, o, a'⟩ + a'.ahead ≤ a.ahead + 1105 * restarts ⟨a, .entry order, o, a'⟩ := by
  have one : turns ⟨a, .entry order, o, a'⟩ ≤ 1 := by
    simp only [turns]
    split <;> omega
  omega

/-- Outside the states 3 to 5 no table is looked at. -/
theorem numbered_of_state {n : Nat} (state : a.state = n) (known : n ≤ 7 ∨ n = 10) (free : n < 3 ∨ 5 < n) :
    Numbered a where
  state := by omega
  next := by omega
  table := by omega
  waiting := by omega

/-- A turn that changes only the timer. -/
theorem Numbered.stay (numbered : Numbered a) {order : List Str}
    (waits : a.state ≠ 1 ∧ a.state ≠ 3 ∧ a.state ≠ 4 ∧ a.state ≠ 6 ∧ a.state ≠ 10)
    (taken : a.entry order = .ok ({ a with timer := a.timer - 1 }, o)) :
    Numbered { a with timer := a.timer - 1 } ∧
      turns ⟨a, .entry order, o, { a with timer := a.timer - 1 }⟩ +
          IRCDDBApp.ahead { a with timer := a.timer - 1 } ≤
        a.ahead + 1105 * restarts ⟨a, .entry order, o, { a with timer := a.timer - 1 }⟩ := by
  obtain ⟨queue, timer⟩ := waits_of_entryState taken
  refine ⟨⟨numbered.state, numbered.next, numbered.table, numbered.waiting⟩, ?_⟩
  have state := numbered.state
  dsimp only at queue timer
  obtain two | five | other : a.state = 2 ∨ a.state = 5 ∨ a.state ≠ 2 ∧ a.state ≠ 5 := by omega
  · have more := timer (.inl two)
    have after : ahead { a with timer := a.timer - 1 } = max (a.timer - 1) 1 + 903 := by simp [ahead, two]
    have before : a.ahead = max a.timer 1 + 903 := by simp [ahead, two]
    exact paid_of_less (by omega)
  · have more := timer (.inr five)
    have after : ahead { a with timer := a.timer - 1 } = max (a.timer - 1) 1 + 2 := by simp [ahead, five]
    have before : a.ahead = max a.timer 1 + 2 := by simp [ahead, five]
    exact paid_of_less (by omega)
  · -- in the other states nothing is ahead, or the queue is waited for
    have still : ahead { a with timer := a.timer - 1 } = a.ahead := by
      unfold ahead
      dsimp only
      split <;> omega
    have free : turns ⟨a, .entry order, o, { a with timer := a.timer - 1 }⟩ = 0 := by
      refine if_neg fun counted => ?_
      obtain ⟨early, sends⟩ := counted
      have zero : a.state = 0 := by
        dsimp only at early
        omega
      exact absurd (sends zero) (by simp [queue zero])
    rw [free, still, Nat.zero_add]
    exact Nat.le_add_right _ _

/-- The next table is begun. -/
theorem Numbered.nextTable (numbered : Numbered a) {order : List Str} (state : a.state = 3)
    (more : 0 ≤ a.sendlistTableID - 1) (next : a'.state = 4) (timer : a'.timer = 900)
    (table : a'.sendlistTableID = a.sendlistTableID - 1) : Numbered a' ∧
      turns ⟨a, .entry order, o, a'⟩ + a'.ahead ≤ a.ahead + 1105 * restarts ⟨a, .entry order, o, a'⟩ := by
  have number := numbered.next state
  refine ⟨⟨.inl (by omega), by omega, fun _ => by omega, by omega⟩, paid_of_less ?_⟩
  obtain two | one := (by omega : a.sendlistTableID = 2 ∨ a.sendlistTableID = 1)
  · have before : a.ahead = 903 := by simp [ahead, state, two]
    have after : a'.ahead = 902 := by simp [ahead, next, table, timer, two]
    omega
  · have before : a.ahead = 3 := by simp [ahead, state, one]
    have after : a'.ahead = 2 := by simp [ahead, next, table, one]
    omega

/-- The table of users is not asked for. -/
theorem Numbered.skipTable (numbered : Numbered a) {order : List Str} (state : a.state = 4)
    (other : a.sendlistTableID ≠ 1) (next : a'.state = 3) (table : a'.sendlistTableID = a.sendlistTableID) :
    Numbered a' ∧
      turns ⟨a, .entry order, o, a'⟩ + a'.ahead ≤ a.ahead + 1105 * restarts ⟨a, .entry order, o, a'⟩ := by
  have zero : a.sendlistTableID = 0 := (numbered.table state).resolve_right other
  refine ⟨⟨.inl (by omega), fun _ => .inl (by omega), by omega, by omega⟩, paid_of_less ?_⟩
  have before : a.ahead = 2 := by simp [ahead, state, zero]
  have after : a'.ahead = 1 := by simp [ahead, next, table, zero]
  omega

/-- A start from state 10. -/
theorem paid_of_restart {order : List Str} (state : a.state = 10) (next : a'.state = 0) :
    turns ⟨a, .entry order, o, a'⟩ + a'.ahead ≤ a.ahead + 1105 * restarts ⟨a, .entry order, o, a'⟩ := by
  have again : restarts ⟨a, .entry order, o, a'⟩ = 1 := if_pos state
  have after : a'.ahead = 1105 := by simp [ahead, next]
  rw [turns_ready (by omega), again, after]
  omega

/-- A turn to a state with nothing ahead of it. -/
theorem paid_of_end {order : List Str} (next : 6 ≤ a'.state) :
    turns ⟨a, .entry order, o, a'⟩ + a'.ahead ≤ a.ahead + 1105 * restarts ⟨a, .entry order, o, a'⟩ := by
  have after : a'.ahead = 0 := ahead_ready next
  by_cases late : 6 ≤ a.state
  · rw [turns_ready late, after]
    exact Nat.zero_le _
  · have before := ahead_early (Nat.not_lt.mp late)
    exact paid_of_less (by omega)

/-- A turn is paid for. -/
theorem Numbered.entry (numbered : Numbered a) {order : List Str} (taken : a.entry order = .ok (a', o)) :
    Numbered a' ∧ turns ⟨a, .entry order, o, a'⟩ + a'.ahead ≤
      a.ahead + 1105 * restarts ⟨a, .entry order, o, a'⟩ := by
  have case := entryState_case taken
  cases case with
  | stay waits => exact numbered.stay waits taken
  | start state queue =>
      have before : a.ahead = 1105 := by simp [ahead, show a.state = 0 from state]
      refine ⟨numbered_of_state (n := 1) rfl (by decide) (by decide), paid_of_less ?_⟩
      change 1 + 1104 ≤ a.ahead
      omega
  | search state =>
      have before : a.ahead = 1104 := by simp [ahead, show a.state = 1 from state]
      refine ⟨numbered_of_state (n := 2) rfl (by decide) (by decide), paid_of_less ?_⟩
      change 1 + 1103 ≤ a.ahead
      omega
  | choose state queue found =>
      have before : a.ahead = max a.timer 1 + 903 := by simp [ahead, show a.state = 2 from state]
      refine ⟨⟨.inl (by simp), fun _ => .inr (.inr rfl), by simp, by simp⟩, paid_of_less ?_⟩
      change 1 + 903 ≤ a.ahead
      omega
  | nextTable state queue more => exact numbered.nextTable state more rfl rfl rfl
  | noTable state queue done =>
      have state : a.state = 3 := state
      have done : a.sendlistTableID - 1 < 0 := done
      have table := numbered.next state
      have before : a.ahead = 1 := by simp [ahead, state, (by omega : a.sendlistTableID = 0)]
      refine ⟨numbered_of_state (n := 6) rfl (by decide) (by decide), paid_of_less ?_⟩
      exact before.ge
  | request state queue table tm time =>
      have state : a.state = 4 := state
      have table : a.sendlistTableID = 1 := table
      have before : a.ahead = max (a.timer - 1) 1 + 3 := by simp [ahead, state, table]
      refine ⟨⟨.inl (by simp), by simp, by simp, fun _ => table⟩, paid_of_less ?_⟩
      change 1 + (max (a.timer - 1) 1 + 2) ≤ a.ahead
      omega
  | skipTable state queue table => exact numbered.skipTable state table rfl rfl
  | ready state queue =>
      exact ⟨numbered_of_state (n := 7) rfl (by decide) (by decide), paid_of_end (Nat.le_succ 6)⟩
  | close o state cause quits =>
      exact ⟨numbered_of_state (n := 10) rfl (by decide) (by decide), paid_of_end (Nat.le_add_left 6 4)⟩
  | restart state => exact ⟨numbered_of_state (n := 0) rfl (by decide) (by decide), paid_of_restart state rfl⟩

/-- What a call of the client's thread does to the phase. -/
theorem Numbered.call (numbered : Numbered a) (taken : step a e = .ok (a', o)) (call : ∀ order, e ≠ .entry order) :
    Numbered a' ∧ a'.ahead ≤ a.ahead + lateMore ⟨a, e, o, a'⟩ + 1103 * serverLeaves ⟨a, e, o, a'⟩ := by
  have still (state : a'.state = a.state) (timer : a'.timer = a.timer)
      (table : a'.sendlistTableID = a.sendlistTableID) : Numbered a' ∧
        a'.ahead ≤ a.ahead + lateMore ⟨a, e, o, a'⟩ + 1103 * serverLeaves ⟨a, e, o, a'⟩ := by
    have same : a'.ahead = a.ahead := by simp only [ahead, state, timer, table]
    refine ⟨⟨?_, ?_, ?_, ?_⟩, by omega⟩
    · rw [state]
      exact numbered.state
    · rw [state, table]
      exact numbered.next
    · rw [state, table]
      exact numbered.table
    · rw [state, table]
      exact numbered.waiting
  cases step_case taken with
  | entry order => exact absurd rfl (call order)
  | joined nick name addr =>
      refine still ?_ ?_ ?_
      all_goals unfold userJoin; split <;> rfl
  | serverLeft nick server =>
      have left : serverLeaves ⟨a, .userLeave nick, [], { a with
          currentServer := [], state := 2, timer := 200, initReady := false }⟩ = 1 := if_pos server
      refine ⟨numbered_of_state (n := 2) rfl (by decide) (by decide), ?_⟩
      rw [left]
      change 1103 ≤ _
      omega
  | update e msg text =>
      refine still ?_ ?_ ?_
      all_goals unfold doUpdate storeRow; repeat' split
      all_goals rfl
  | listEnd m tm_isdst text state =>
      have one := numbered.waiting state
      refine ⟨⟨.inl (by simp), fun _ => .inr (.inl one), by simp, by simp⟩, ?_⟩
      have after : ahead { a with state := 3 } = 3 := by simp [ahead, one]
      have before : a.ahead = max a.timer 1 + 2 := by simp [ahead, state]
      omega
  | listMore m tm_isdst text state =>
      have one := numbered.waiting state
      refine ⟨⟨.inl (by simp), by simp, fun _ => .inr one, by simp⟩, ?_⟩
      have after : ahead { a with state := 4 } = max (a.timer - 1) 1 + 3 := by simp [ahead, one]
      have before : a.ahead = max a.timer 1 + 2 := by simp [ahead, state]
      by_cases late : a.timer ≤ 1
      · have more : lateMore ⟨a, .msgQuery m tm_isdst, [], { a with state := 4 }⟩ = 1 := if_pos ⟨state, rfl, late⟩
        omega
      · omega
  | _ => exact still rfl rfl rfl

/-- A step is paid for. -/
theorem Numbered.step (numbered : Numbered a) (taken : IRCDDBApp.step a e = .ok (a', o)) :
    Numbered a' ∧ turns ⟨a, e, o, a'⟩ + a'.ahead ≤ a.ahead + granted ⟨a, e, o, a'⟩ := by
  have calls (call : ∀ order, e ≠ .entry order) (free : turns ⟨a, e, o, a'⟩ = 0) :
      Numbered a' ∧ turns ⟨a, e, o, a'⟩ + a'.ahead ≤ a.ahead + granted ⟨a, e, o, a'⟩ := by
    obtain ⟨numbered', paid⟩ := numbered.call taken call
    refine ⟨numbered', ?_⟩
    simp only [granted]
    omega
  cases e with
  | entry order =>
      obtain ⟨numbered', paid⟩ := numbered.entry taken
      refine ⟨numbered', paid.trans ?_⟩
      simp only [granted]
      omega
  | userJoin nick name addr => exact calls (by simp) rfl
  | userLeave nick => exact calls (by simp) rfl
  | userListReset => exact calls (by simp) rfl
  | msgChannel m tm_isdst => exact calls (by simp) rfl
  | msgQuery m tm_isdst => exact calls (by simp) rfl
  | setSendQ ready => exact calls (by simp) rfl
  | findUser usrCall => exact calls (by simp) rfl

end

/-- Setting up comes to an end: the turns before the application is ready come to a share for each
start, for each server that leaves, and to one for each `LIST_MORE` that is answered after the time
for the list. -/
theorem setUp_bounded {m_maxTime : Int} {cache : CacheManager} {tr : List AppEntry} {a : IRCDDBApp}
    (run : AppRun m_maxTime cache tr a) :
    total turns tr ≤ 1105 + 1105 * total restarts tr + total lateMore tr + 1103 * total serverLeaves tr := by
  have numbered : Numbered (new m_maxTime cache) := ⟨.inl (Nat.zero_le _), by simp [new], by simp [new], by simp [new]⟩
  have paid := (run.credit Numbered (fun _ => True) ahead turns granted numbered
    (fun numbered taken _ => numbered.step taken) (by simp)).2
  have split : total granted tr = 1105 * total restarts tr + total lateMore tr + 1103 * total serverLeaves tr := by
    rw [← total_mul, ← total_mul]
    clear paid run
    induction tr using List.reverseRecOn with
    | nil => rfl
    | append_singleton tr x ih =>
        simp only [total_snoc, ih, granted]
        omega
  have start : ahead (new m_maxTime cache) = 1105 := rfl
  omega

section
open Sample

/-- The application is asked to wait when the list has taken its time. -/
theorem list_taking_long : ∃ tr a, AppRun 950000000 .empty tr a ∧ total turns tr = 905 ∧
    total lateMore tr = 2 ∧ a.state = 5 ∧
      total turns tr ≤ 1105 + 1105 * total restarts tr + total lateMore tr + 1103 * total serverLeaves tr := by
  obtain ⟨tr, a, run, checked⟩ := Sample.appRun 950000000 .empty
    (connect ++ List.replicate 898 (.entry []) ++ [.msgQuery (fromServer "LIST_MORE") 0, .entry [],
      .msgQuery (fromServer "LIST_MORE") 0, .entry []])
    (fun tr a => decide (total turns tr = 905) && (decide (total lateMore tr = 2) && decide (a.state = 5)))
    (by decide +kernel)
  simp only [Bool.and_eq_true, decide_eq_true_eq] at checked
  exact ⟨tr, a, run, checked.1, checked.2.1, checked.2.2, setUp_bounded run⟩

/-- The application waits for the list. -/
structure Awaits (a : IRCDDBApp) : Prop where
  state : a.state = 5
  table : a.sendlistTableID = 1
  queue : a.sendQ = true
  time : a.m_maxTime = 950000000

/-- The fifteen minutes for the list are no limit where the server has ever more of it: the state in
which they are looked at is left each time before the turn comes to it. -/
theorem list_never_over (n : Nat) : ∃ tr a, AppRun 950000000 .empty tr a ∧ n ≤ total turns tr ∧
    total restarts tr = 0 ∧ total serverLeaves tr = 0 ∧ a.state = 5 := by
  have more (n : Nat) : ∃ tr a, AppRun 950000000 .empty tr a ∧ n ≤ total turns tr ∧
      total restarts tr = 0 ∧ total serverLeaves tr = 0 ∧ Awaits a := by
    induction n with
    | zero =>
        obtain ⟨tr, a, run, checked⟩ := Sample.appRun 950000000 .empty connect
          (fun tr a => decide (total restarts tr = 0 ∧ total serverLeaves tr = 0) &&
            decide (a.state = 5 ∧ a.sendlistTableID = 1 ∧ a.sendQ = true ∧ a.m_maxTime = 950000000))
          (by decide +kernel)
        simp only [Bool.and_eq_true, decide_eq_true_eq] at checked
        obtain ⟨⟨starts, leaves⟩, state, table, queue, time⟩ := checked
        exact ⟨tr, a, run, Nat.zero_le _, starts, leaves, state, table, queue, time⟩
    | succ n ih =>
        obtain ⟨tr, a, run, long, starts, leaves, awaits⟩ := ih
        obtain ⟨state, table, queue, time⟩ := awaits
        have asked : step a (.msgQuery (fromServer "LIST_MORE") 0) = .ok ({ a with state := 4 }, []) := by
          have tokens : stringTokenizer (str "LIST_MORE") = [str "LIST_MORE"] := by decide +kernel
          have text : serverText (fromServer "LIST_MORE") = some (str "LIST_MORE") := by decide +kernel
          have update : str "LIST_MORE" ≠ str "UPDATE" := by decide +kernel
          have listEnd : str "LIST_MORE" ≠ str "LIST_END" := by decide +kernel
          simp [step, msgQuery, text, tokens, update, listEnd, state]
        have answered : ∃ o, step { a with state := 4 } (.entry []) =
            .ok ({ a with state := 5, timer := a.timer - 1 }, o) := by
          have known : Calendar.gmtime 950000000 = some (Calendar.breakdown 950000000) := by decide +kernel
          simp [step, entry, entryState, queue, table, needsDatabaseUpdate, getLastEntryTime, time, known]
        obtain ⟨o, answered⟩ := answered
        have next := (run.snoc asked).snoc answered
        refine ⟨_, _, next, ?_, ?_, ?_, ⟨rfl, table, queue, time⟩⟩
        · rw [total_snoc, total_snoc]
          have one : turns ⟨{ a with state := 4 }, .entry [], o, { a with state := 5, timer := a.timer - 1 }⟩ = 1 := rfl
          omega
        · rw [total_snoc, total_snoc, starts]
          rfl
        · rw [total_snoc, total_snoc, leaves]
          rfl
  obtain ⟨tr, a, run, long, starts, leaves, awaits⟩ := more n
  exact ⟨tr, a, run, long, starts, leaves, awaits.state⟩

end

end IRCDDBApp
end SmartGroup
