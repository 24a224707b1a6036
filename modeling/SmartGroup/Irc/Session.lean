import SmartGroup.Irc.Effects

/-! The session with a server of the network: it is chosen, asked for the repeater table
and answers to the end before the application is ready. -/
namespace SmartGroup
open Bytes Machine Trace

namespace IRCDDBApp

/-- The command of a private message of a server. -/
def queryCommand (m : IRCMessage) : Option Str := (serverText m).bind fun msg => (stringTokenizer msg).head?

/-- `Entry` selects the server in state 2. -/
def Chooses (server : Str) (x : AppEntry) : Prop :=
  (∃ order, x.event = .entry order) ∧ x.pre.state = 2 ∧ x.post.state = 3 ∧ x.post.currentServer = server

/-- The repeater table is requested from the server. -/
def Requests (server : Str) (x : AppEntry) : Prop :=
  ∃ time, .privmsg server (str "SENDLIST 1 " ++ time) ∈ x.outs

/-- A server tells the end of the list. -/
def ListEnds (x : AppEntry) : Prop :=
  ∃ m tm_isdst, x.event = .msgQuery m tm_isdst ∧ queryCommand m = some (str "LIST_END")

/-- The list has been told to its end, after the request for it. -/
def Listed (server : Str) (session : List AppEntry) : Prop :=
  Occurs (fun before x => ListEnds x ∧ ∃ y ∈ before, Requests server y) session

/-- The entries since the server was chosen, in which no other is. -/
structure Session (tr : List AppEntry) (server : Str) (session : List AppEntry) : Prop where
  chosen : ∃ before x, tr = before ++ x :: session ∧ Chooses server x
  steady : ∀ y ∈ session, y.pre.state ≠ 2 ∧ y.post.currentServer = server

/-- State 10 was reached from state 7, and has not been left. -/
def ClosedFromReady (tr : List AppEntry) : Prop :=
  Since (fun x => x.pre.state = 7 ∧ x.post.state = 10) (fun x => x.post.state ≠ 10) tr

/-- What holds of the session after a run. -/
structure InSession (tr : List AppEntry) (a : IRCDDBApp) : Prop where
  server : 3 ≤ a.state → a.state ≤ 7 → a.currentServer ≠ []
  table : a.state = 4 → a.sendlistTableID = 0 ∨ a.sendlistTableID = 1
  ready : a.initReady = true → a.state = 7 ∨ a.state = 10 ∧ ClosedFromReady tr
  listed : a.state = 7 → ∃ session, Session tr a.currentServer session ∧ Listed a.currentServer session

/-! How far the session has come, by the states. -/

inductive Progress (a : IRCDDBApp) (session : List AppEntry) : Prop
  | chosen (state : a.state = 3) (table : a.sendlistTableID = 2)
  | listed (state : a.state = 3) (table : a.sendlistTableID = 0 ∨ a.sendlistTableID = 1)
      (listed : Listed a.currentServer session)
  | table (state : a.state = 4) (table : a.sendlistTableID = 1)
  | users (state : a.state = 4) (table : a.sendlistTableID = 0) (listed : Listed a.currentServer session)
  | waiting (state : a.state = 5) (table : a.sendlistTableID = 1)
      (requested : ∃ y ∈ session, Requests a.currentServer y)
  | ready (state : a.state = 6 ∨ a.state = 7) (listed : Listed a.currentServer session)

/-- The invariant of the runs. -/
structure SessionInv (tr : List AppEntry) (a : IRCDDBApp) : Prop where
  session : 3 ≤ a.state → a.state ≤ 7 → a.currentServer ≠ [] ∧
    ∃ session, Session tr a.currentServer session ∧ Progress a session
  ready : a.initReady = true → a.state = 7 ∨ a.state = 10 ∧ ClosedFromReady tr

theorem SessionInv.inSession {tr : List AppEntry} {a : IRCDDBApp} (inv : SessionInv tr a) :
    InSession tr a where
  server low high := (inv.session low high).1
  table state := by
    obtain ⟨-, session, -, progress⟩ := inv.session (by omega) (by omega)
    cases progress with
    | table _ table => exact .inr table
    | users _ table _ => exact .inl table
    | _ => omega
  ready := inv.ready
  listed state := by
    obtain ⟨-, session, since, progress⟩ := inv.session (by omega) (by omega)
    cases progress with
    | ready _ listed => exact ⟨session, since, listed⟩
    | _ => omega

/-! The steps. -/

theorem Session.snoc {tr session : List AppEntry} {server : Str} (since : Session tr server session)
    {y : AppEntry} (old : y.pre.state ≠ 2) (same : y.post.currentServer = server) :
    Session (tr ++ [y]) server (session ++ [y]) where
  chosen := by
    obtain ⟨before, x, split, chooses⟩ := since.chosen
    exact ⟨before, x, by simp [split], chooses⟩
  steady := by
    intro z member
    rcases List.mem_append.mp member with earlier | last
    · exact since.steady z earlier
    · rw [List.mem_singleton.mp last]
      exact ⟨old, same⟩

/-- The members that the session is told from. -/
structure Still (a a' : IRCDDBApp) : Prop where
  state : a'.state = a.state
  currentServer : a'.currentServer = a.currentServer
  sendlistTableID : a'.sendlistTableID = a.sendlistTableID
  initReady : a'.initReady = a.initReady

theorem Progress.still {a a' : IRCDDBApp} {session : List AppEntry} (progress : Progress a session)
    (still : Still a a') (y : AppEntry) : Progress a' (session ++ [y]) := by
  obtain ⟨state', server', table', -⟩ := still
  cases progress with
  | chosen state table => exact .chosen (state'.trans state) (table'.trans table)
  | listed state table listed =>
      rw [← server'] at listed
      rw [← table'] at table
      exact .listed (state'.trans state) table (listed.append [y])
  | table state table => exact .table (state'.trans state) (table'.trans table)
  | users state table listed =>
      rw [← server'] at listed
      exact .users (state'.trans state) (table'.trans table) (listed.append [y])
  | waiting state table requested =>
      obtain ⟨x, member, requests⟩ := requested
      rw [← server'] at requests
      exact .waiting (state'.trans state) (table'.trans table)
        ⟨x, List.mem_append_left [y] member, requests⟩
  | ready state listed =>
      rw [← server'] at listed
      rw [← state'] at state
      exact .ready state (listed.append [y])

/-- A step that the session does not notice. -/
theorem SessionInv.still {tr : List AppEntry} {a a' : IRCDDBApp} (inv : SessionInv tr a)
    {e : AppEvent} {o : List IRCMessage} (still : Still a a') :
    SessionInv (tr ++ [⟨a, e, o, a'⟩]) a' where
  session low high := by
    rw [still.state] at low high
    obtain ⟨server, session, since, progress⟩ := inv.session low high
    rw [still.currentServer]
    refine ⟨server, _, since.snoc (by dsimp only; omega) still.currentServer, progress.still still _⟩
  ready ready := by
    rw [still.initReady] at ready
    rw [still.state]
    rcases inv.ready ready with standby | ⟨closed, since⟩
    · exact .inl standby
    · refine .inr ⟨closed, (since_snoc _ _ _ _).mpr (.inr ⟨since, ?_⟩)⟩
      exact not_not_intro (still.state.trans closed)

section
variable {tr : List AppEntry} {a a' : IRCDDBApp} {e : AppEvent} {o : List IRCMessage}

theorem SessionInv.unready (inv : SessionInv tr a) (early : a.state ≤ 6) : a.initReady = false := by
  by_contra ready
  rcases inv.ready (Bool.eq_true_of_not_eq_false ready) with standby | ⟨closed, -⟩ <;> omega

/-- A step that ends outside the session. -/
theorem SessionInv.outside {n : Nat} (out : n < 3 ∨ 7 < n) (state : a'.state = n)
    (unready : a'.initReady = false) : SessionInv (tr ++ [⟨a, e, o, a'⟩]) a' where
  session low high := by omega
  ready ready := by
    rw [unready] at ready
    cases ready

/-- A step inside the session, before the application is ready. -/
theorem SessionInv.move (inv : SessionInv tr a) (low : 3 ≤ a.state) (high : a.state ≤ 5)
    (kept : a'.currentServer = a.currentServer ∧ a'.initReady = a.initReady)
    (next : ∀ session, Progress a session → Progress a' (session ++ [⟨a, e, o, a'⟩])) :
    SessionInv (tr ++ [⟨a, e, o, a'⟩]) a' where
  session _ _ := by
    obtain ⟨known, session, since, progress⟩ := inv.session low (by omega)
    rw [kept.1]
    exact ⟨known, _, since.snoc (by dsimp only; omega) kept.1, next session progress⟩
  ready now := by
    rw [kept.2, inv.unready (by omega)] at now
    cases now

/-- A server is chosen, and its session begins. -/
theorem SessionInv.choose (inv : SessionInv tr a) {order : List Str} (state : a.state = 2) (next : a'.state = 3)
    (table : a'.sendlistTableID = 2) (found : a'.currentServer ≠ []) (same : a'.initReady = a.initReady) :
    SessionInv (tr ++ [⟨a, .entry order, o, a'⟩]) a' where
  session _ _ := ⟨found, [], ⟨⟨tr, _, rfl, ⟨order, rfl⟩, state, next, rfl⟩, by simp⟩, .chosen next table⟩
  ready now := by
    rw [same, inv.unready (by omega)] at now
    cases now

/-- The table before the last one follows in state 3. -/
theorem Progress.nextTable {session : List AppEntry} (progress : Progress a session) (state : a.state = 3)
    (more : 0 ≤ a.sendlistTableID - 1) (next : a'.state = 4)
    (table : a'.sendlistTableID = a.sendlistTableID - 1) (same : a'.currentServer = a.currentServer)
    (y : AppEntry) : Progress a' (session ++ [y]) := by
  cases progress with
  | chosen _ two => exact .table next (by omega)
  | listed _ number listed =>
      rw [← same] at listed
      exact .users next (by omega) (listed.append [y])
  | _ => omega

/-- The tables are through. -/
theorem Progress.noTable {session : List AppEntry} (progress : Progress a session) (state : a.state = 3)
    (none : a.sendlistTableID - 1 < 0) (next : a'.state = 6) (same : a'.currentServer = a.currentServer)
    (y : AppEntry) : Progress a' (session ++ [y]) := by
  cases progress with
  | listed _ table listed =>
      rw [← same] at listed
      exact .ready (.inl next) (listed.append [y])
  | _ => omega

/-- The table of users is not asked for. -/
theorem Progress.skipTable {session : List AppEntry} (progress : Progress a session) (state : a.state = 4)
    (other : a.sendlistTableID ≠ 1) (next : a'.state = 3) (number : a'.sendlistTableID = a.sendlistTableID)
    (same : a'.currentServer = a.currentServer) (y : AppEntry) : Progress a' (session ++ [y]) := by
  cases progress with
  | users _ table listed =>
      rw [← same] at listed
      exact .listed next (.inl (number.trans table)) (listed.append [y])
  | _ => omega

/-- The application gets ready. -/
theorem SessionInv.getReady (inv : SessionInv tr a) (state : a.state = 6) (next : a'.state = 7)
    (same : a'.currentServer = a.currentServer) : SessionInv (tr ++ [⟨a, e, o, a'⟩]) a' where
  session _ _ := by
    obtain ⟨known, session, since, progress⟩ := inv.session (by omega) (by omega)
    rw [same]
    refine ⟨known, _, since.snoc (by dsimp only; omega) same, ?_⟩
    cases progress with
    | ready _ listed =>
        rw [← same] at listed
        exact .ready (.inr next) (listed.append _)
    | _ => omega
  ready _ := .inl next

/-- The connection is closed. -/
theorem SessionInv.close (inv : SessionInv tr a) (high : a.state ≤ 7) (next : a'.state = 10)
    (same : a'.initReady = a.initReady) : SessionInv (tr ++ [⟨a, e, o, a'⟩]) a' where
  session _ high := by omega
  ready now := by
    rw [same] at now
    rcases inv.ready now with standby | ⟨closed, -⟩
    · exact .inr ⟨next, (since_snoc _ _ _ _).mpr (.inl ⟨standby, next⟩)⟩
    · omega

theorem SessionInv.entry (inv : SessionInv tr a) {order : List Str}
    (case : EntryCase { a with timer := a.timer - 1 } order a' o) :
    SessionInv (tr ++ [⟨a, .entry order, o, a'⟩]) a' := by
  cases case with
  | stay waits =>
      apply inv.still
      exact ⟨rfl, rfl, rfl, rfl⟩
  | start state queue =>
      have early : a.state = 0 := state
      exact .outside (n := 1) (.inl (by decide)) rfl (inv.unready (by omega))
  | search state =>
      have early : a.state = 1 := state
      exact .outside (n := 2) (.inl (by decide)) rfl (inv.unready (by omega))
  | choose state queue found => exact inv.choose state rfl rfl found rfl
  | nextTable state queue more =>
      have here : a.state = 3 := state
      refine inv.move (by omega) (by omega) ⟨rfl, rfl⟩ fun session progress => ?_
      apply progress.nextTable here more <;> rfl
  | noTable state queue done =>
      have here : a.state = 3 := state
      refine inv.move (by omega) (by omega) ⟨rfl, rfl⟩ fun session progress => ?_
      apply progress.noTable here done <;> rfl
  | request state queue table tm time =>
      have here : a.state = 4 := state
      refine inv.move (by omega) (by omega) ⟨rfl, rfl⟩ fun session progress => ?_
      refine .waiting rfl table ⟨_, List.mem_append_right _ (List.mem_singleton.mpr rfl), ?_⟩
      exact ⟨Calendar.format tm, List.mem_singleton.mpr rfl⟩
  | skipTable state queue table =>
      have here : a.state = 4 := state
      refine inv.move (by omega) (by omega) ⟨rfl, rfl⟩ fun session progress => ?_
      apply progress.skipTable here table <;> rfl
  | ready state queue => exact inv.getReady state rfl rfl
  | close o range cause quits => exact inv.close range.2 rfl rfl
  | restart state => exact .outside (n := 0) (.inl (by decide)) rfl rfl

theorem doUpdate_still (a : IRCDDBApp) (tm_isdst : Int) (msg : Str) : Still a (a.doUpdate tm_isdst msg) := by
  unfold doUpdate storeRow
  split
  · split <;> split <;> exact ⟨rfl, rfl, rfl, rfl⟩
  · exact ⟨rfl, rfl, rfl, rfl⟩

theorem userJoin_still (a : IRCDDBApp) (nick name addr : Str) : Still a (a.userJoin nick name addr) := by
  unfold userJoin
  split <;> exact ⟨rfl, rfl, rfl, rfl⟩

/-- Only the end of the list leads from waiting for it to the next table. -/
theorem queryCommand_of_listEnd {m : IRCMessage} {tm_isdst : Int} (waiting : a.state = 5)
    (next : (a.msgQuery m tm_isdst).1.state = 3) : queryCommand m = some (str "LIST_END") := by
  cases text : serverText m with
  | none =>
      simp only [msgQuery, text] at next
      omega
  | some msg =>
      cases tokens : stringTokenizer msg with
      | nil =>
          simp only [msgQuery, text, tokens] at next
          omega
      | cons cmd tkz =>
          simp only [msgQuery, text, tokens] at next
          by_cases ends : cmd = str "LIST_END"
          · simp [queryCommand, text, tokens, ends]
          · by_cases update : cmd = str "UPDATE"
            · simp only [update, if_true] at next
              rw [(doUpdate_still a _ _).state] at next
              omega
            · simp only [update, ends, waiting, if_true, if_false] at next
              split at next
              · cases next
              · split at next <;> simp [waiting] at next

/-- The list ends: the next table follows. -/
theorem SessionInv.listEnd (inv : SessionInv tr a) {m : IRCMessage} {tm_isdst : Int} (state : a.state = 5)
    (command : queryCommand m = some (str "LIST_END")) :
    SessionInv (tr ++ [⟨a, .msgQuery m tm_isdst, o, { a with state := 3 }⟩]) { a with state := 3 } := by
  refine inv.move (by omega) (by omega) ⟨rfl, rfl⟩ ?_
  intro session progress
  cases progress with
  | waiting _ table requested => exact .listed rfl (.inr table) (.snoc ⟨⟨m, tm_isdst, rfl, command⟩, requested⟩)
  | _ => omega

theorem SessionInv.step (inv : SessionInv tr a) (taken : step a e = .ok (a', o)) :
    SessionInv (tr ++ [⟨a, e, o, a'⟩]) a' := by
  cases step_case taken with
  | entry order _ _ case => exact inv.entry case
  | joined nick name addr => exact inv.still (userJoin_still a nick name addr)
  | serverLeft nick server => exact .outside (n := 2) (.inl (by decide)) rfl rfl
  | update e msg text => exact inv.still (doUpdate_still a _ msg)
  | listEnd m tm_isdst text state =>
      apply inv.listEnd state
      apply queryCommand_of_listEnd state
      have answered := Except.ok.inj taken
      rw [answered]
  | listMore m tm_isdst text state =>
      refine inv.move (by omega) (by omega) ⟨rfl, rfl⟩ ?_
      intro session progress
      cases progress with
      | waiting _ table _ => exact .table rfl table
      | _ => omega
  | _ =>
      apply inv.still
      exact ⟨rfl, rfl, rfl, rfl⟩

end

/-- In every state of every run. -/
theorem session_invariant {m_maxTime : Int} {cache : CacheManager} {tr : List AppEntry} {a : IRCDDBApp}
    (run : AppRun m_maxTime cache tr a) : InSession tr a := by
  have inv : SessionInv tr a := by
    induction run with
    | nil =>
        refine ⟨fun low _ => absurd low (by simp [new]), fun ready => ?_⟩
        cases ready
    | snoc earlier last ih => exact ih.step last
  exact inv.inSession

/-- A server joins, is asked and answers: the application gets ready. -/
theorem session_gets_ready : ∃ tr a, AppRun 950000000 .empty tr a ∧
    (a.state = 7 ∧ a.initReady = true ∧ a.currentServer = Sample.ircServer) ∧ InSession tr a := by
  obtain ⟨tr, a, run, checked⟩ := Sample.appRun 950000000 .empty (Sample.connect ++ Sample.complete)
    (fun _ a => decide (a.state = 7 ∧ a.initReady = true ∧ a.currentServer = Sample.ircServer))
    (by decide +kernel)
  exact ⟨tr, a, run, of_decide_eq_true checked, session_invariant run⟩

end IRCDDBApp
end SmartGroup
