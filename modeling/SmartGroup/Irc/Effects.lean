import SmartGroup.Irc.App

/-! What the steps of the application do: the transitions of `Entry`, and which part of
the state each call leaves alone. -/
namespace SmartGroup
open Bytes

namespace IRCDDBApp

/-- The transitions of `Entry`, after the timer has been counted down. -/
inductive EntryCase (a : IRCDDBApp) (order : List Str) : IRCDDBApp → List IRCMessage → Prop
  | stay (waits : a.state ≠ 1 ∧ a.state ≠ 3 ∧ a.state ≠ 4 ∧ a.state ≠ 6 ∧ a.state ≠ 10) :
      EntryCase a order a []
  | start (state : a.state = 0) (queue : a.sendQ = true) :
      EntryCase a order { a with state := 1 } []
  | search (state : a.state = 1) : EntryCase a order { a with state := 2, timer := 200 } []
  | choose (state : a.state = 2) (queue : a.sendQ = true)
      (found : a.cache.findServerUser order ≠ []) :
      EntryCase a order { a with
        currentServer := a.cache.findServerUser order
        sendlistTableID := numberOfTables
        state := 3 } []
  | nextTable (state : a.state = 3) (queue : a.sendQ = true) (more : 0 ≤ a.sendlistTableID - 1) :
      EntryCase a order
        { a with sendlistTableID := a.sendlistTableID - 1, state := 4, timer := 900 } []
  | noTable (state : a.state = 3) (queue : a.sendQ = true) (done : a.sendlistTableID - 1 < 0) :
      EntryCase a order { a with sendlistTableID := a.sendlistTableID - 1, state := 6 } []
  | request (state : a.state = 4) (queue : a.sendQ = true) (table : a.sendlistTableID = 1)
      (tm : Calendar.Tm) (time : Calendar.gmtime a.m_maxTime = some tm) :
      EntryCase a order { a with state := 5 }
        [.privmsg a.currentServer (str "SENDLIST 1 " ++ Calendar.format tm)]
  | skipTable (state : a.state = 4) (queue : a.sendQ = true) (table : a.sendlistTableID ≠ 1) :
      EntryCase a order { a with state := 3 } []
  | ready (state : a.state = 6) (queue : a.sendQ = true) :
      EntryCase a order { a with initReady := true, state := 7 } []
  | close (o : List IRCMessage) (state : 2 ≤ a.state ∧ a.state ≤ 7)
      (cause : a.sendQ = false ∨ a.state = 2 ∨ a.state = 5)
      (quits : ∀ m ∈ o, ∃ reason, m = quit reason) : EntryCase a order { a with state := 10 } o
  | restart (state : a.state = 10) :
      EntryCase a order { a with state := 0, timer := 0, initReady := false } []

theorem getLastEntryTime_ok {a : IRCDDBApp} {text : Str} (h : a.getLastEntryTime 1 = .ok text) :
    ∃ tm, Calendar.gmtime a.m_maxTime = some tm ∧ text = Calendar.format tm := by
  simp only [getLastEntryTime, if_true] at h
  split at h
  · rename_i tm time
    cases h
    exact ⟨tm, time, rfl⟩
  · cases h

/-! One lemma for each state in which `Entry` does more than wait. -/

section
variable {a a' : IRCDDBApp} {order : List Str} {o : List IRCMessage}

theorem quit_closes (reason : String) : ∀ m ∈ [quit reason], ∃ reason, m = quit reason :=
  fun _ member => ⟨reason, List.mem_singleton.mp member⟩

/-- The queue to the server is gone. -/
theorem EntryCase.lost (state : 2 ≤ a.state ∧ a.state ≤ 7) (queue : ¬a.sendQ = true) :
    EntryCase a order { a with state := 10 } [] :=
  .close [] state (.inl (Bool.eq_false_of_not_eq_true queue)) (by simp)

theorem entryState_choose (state : a.state = 2) (h : a.entryState order = .ok (a', o)) :
    EntryCase a order a' o := by
  simp only [entryState, state] at h
  split at h
  · rename_i queue
    split at h
    · rename_i found
      cases h
      exact .choose state queue found
    · split at h
      · cases h
        exact .close _ (by omega) (.inr (.inl state)) (quit_closes _)
      · cases h
        exact .stay (by omega)
  · rename_i queue
    cases h
    exact .lost (by omega) queue

theorem entryState_table (state : a.state = 3) (h : a.entryState order = .ok (a', o)) :
    EntryCase a order a' o := by
  simp only [entryState, state] at h
  split at h
  · rename_i queue
    split at h
    · rename_i done
      cases h
      exact .noTable state queue done
    · rename_i more
      cases h
      exact .nextTable state queue (by omega)
  · rename_i queue
    cases h
    exact .lost (by omega) queue

theorem entryState_request (state : a.state = 4) (h : a.entryState order = .ok (a', o)) :
    EntryCase a order a' o := by
  simp only [entryState, state] at h
  split at h
  · rename_i queue
    split at h
    · rename_i table
      have one : a.sendlistTableID = 1 := of_decide_eq_true table
      split at h
      · cases h
      · rename_i text answered
        cases h
        obtain ⟨tm, time, rfl⟩ := getLastEntryTime_ok (one ▸ answered)
        have request : str "SENDLIST" ++ getTableIDString a.sendlistTableID true ++
            32 :: Calendar.format tm = str "SENDLIST 1 " ++ Calendar.format tm := by
          rw [one]
          rfl
        rw [request]
        exact .request state queue one tm time
    · rename_i table
      cases h
      exact .skipTable state queue fun one => table (decide_eq_true one)
  · rename_i queue
    cases h
    exact .lost (by omega) queue

theorem entryState_wait (state : a.state = 5) (h : a.entryState order = .ok (a', o)) :
    EntryCase a order a' o := by
  simp only [entryState, state] at h
  split at h
  · split at h
    · cases h
      exact .close _ (by omega) (.inr (.inr state)) (quit_closes _)
    · cases h
      exact .stay (by omega)
  · rename_i queue
    cases h
    exact .lost (by omega) queue

theorem entryState_case (h : a.entryState order = .ok (a', o)) : EntryCase a order a' o := by
  have whole := h
  unfold entryState at h
  split at h
  · rename_i state
    simp only [Except.ok.injEq, Prod.mk.injEq] at h
    obtain ⟨rfl, rfl⟩ := h
    split
    · rename_i queue
      exact .start state queue
    · exact .stay (by omega)
  · rename_i state
    cases h
    exact .search state
  · rename_i state
    exact entryState_choose state whole
  · rename_i state
    exact entryState_table state whole
  · rename_i state
    exact entryState_request state whole
  · rename_i state
    exact entryState_wait state whole
  · rename_i state
    split at h
    · rename_i queue
      cases h
      exact .ready state queue
    · rename_i queue
      cases h
      exact .lost (by omega) queue
  · rename_i state
    simp only [Except.ok.injEq, Prod.mk.injEq] at h
    obtain ⟨rfl, rfl⟩ := h
    split
    · exact .stay (by omega)
    · rename_i queue
      exact .lost (by omega) queue
  · rename_i state
    cases h
    exact .restart state
  · cases h
    exact .stay (by and_intros <;> assumption)

end

theorem EntryCase.cache {a a' : IRCDDBApp} {order : List Str} {o : List IRCMessage}
    (case : EntryCase a order a' o) : a'.cache = a.cache := by
  cases case <;> rfl

/-- A join is about the users only. -/
structure JoinFrame (a a' : IRCDDBApp) : Prop where
  initReady : a'.initReady = a.initReady
  rptrGate : a'.cache.rptrGate = a.cache.rptrGate
  m_maxTime : a'.m_maxTime = a.m_maxTime
  maxTime : a'.maxTime = a.maxTime

theorem userJoin_frame (a : IRCDDBApp) (nick name addr : Str) :
    JoinFrame a (a.userJoin nick name addr) := by
  unfold userJoin
  split
  · exact ⟨rfl, rfl, rfl, rfl⟩
  · refine ⟨rfl, ?_, rfl, rfl⟩
    rw [CacheManager.updateGate_rptrGate, CacheManager.updateName_rptrGate]

/-- The text behind the command of an update that the server sends privately. -/
def queryText (m : IRCMessage) : Option Str :=
  (serverText m).bind fun msg =>
    match stringTokenizer msg with
    | cmd :: tkz => if cmd = str "UPDATE" then some (restOfLine tkz) else none
    | [] => none

/-- The text that a call hands on to `doUpdate`. -/
def updateText : AppEvent → Option Str
  | .msgChannel m _ => serverText m
  | .msgQuery m _ => queryText m
  | _ => none

/-- The messages are requests to find a user. -/
def Finds (o : List IRCMessage) : Prop :=
  ∀ m ∈ o, ∃ server key, m = .privmsg server (str "FIND " ++ key)

theorem findUser_finds (a : IRCDDBApp) (usrCall : Str) : Finds (a.findUser usrCall) := by
  intro m member
  unfold findUser at member
  split at member
  · exact ⟨_, _, List.mem_singleton.mp member⟩
  · cases member

/-- The ways through the steps. -/
inductive AppCase (a : IRCDDBApp) : AppEvent → IRCDDBApp → List IRCMessage → Prop
  | entry (order : List Str) (a' : IRCDDBApp) (o : List IRCMessage)
      (case : EntryCase { a with timer := a.timer - 1 } order a' o) :
      AppCase a (.entry order) a' o
  | joined (nick name addr : Str) :
      AppCase a (.userJoin nick name addr) (a.userJoin nick name addr) []
  | serverLeft (nick : Str) (server : nick.take 2 = str "s-") :
      AppCase a (.userLeave nick)
        { a with currentServer := [], state := 2, timer := 200, initReady := false } []
  | userLeft (name : Str) (d : UInt8) (user : (name ++ [45, d]).take 2 ≠ str "s-") :
      AppCase a (.userLeave (name ++ [45, d])) { a with
        cache := (a.cache.eraseName name).eraseGate (padTo 7 (toUpper name) ++ [71]) } []
  | strangerLeft (nick : Str) (user : nick.take 2 ≠ str "s-")
      (form : ∀ name d, nick ≠ name ++ [45, d]) : AppCase a (.userLeave nick) a []
  | reset : AppCase a .userListReset a.userListReset []
  | update (e : AppEvent) (msg : Str) (text : updateText e = some msg) :
      AppCase a e (a.doUpdate e.tm_isdst msg) []
  | noise (m : IRCMessage) (tm_isdst : Int) (text : serverText m = none) :
      AppCase a (.msgChannel m tm_isdst) a []
  | listEnd (m : IRCMessage) (tm_isdst : Int) (text : queryText m = none) (state : a.state = 5) :
      AppCase a (.msgQuery m tm_isdst) { a with state := 3 } []
  | listMore (m : IRCMessage) (tm_isdst : Int) (text : queryText m = none) (state : a.state = 5) :
      AppCase a (.msgQuery m tm_isdst) { a with state := 4 } []
  | answer (m : IRCMessage) (tm_isdst : Int) (o : List IRCMessage) (text : queryText m = none)
      (finds : Finds o) : AppCase a (.msgQuery m tm_isdst) a o
  | queue (ready : Bool) : AppCase a (.setSendQ ready) (a.setSendQ ready) []
  | find (usrCall : Str) : AppCase a (.findUser usrCall) a (a.findUser usrCall)

theorem userLeave_case {a a' : IRCDDBApp} {nick : Str} (h : a.userLeave nick = .ok a') :
    AppCase a (.userLeave nick) a' [] := by
  unfold userLeave at h
  split at h
  · rename_i server
    cases h
    exact .serverLeft nick server
  · rename_i user
    simp only at h
    split at h
    · cases h
    · rename_i last found
      -- the nick is the shorter name, its last character, and one more
      obtain ⟨rest, shorter⟩ := List.getLast?_eq_some_iff.mp found
      have longer : nick ≠ [] := by
        rintro rfl
        cases found
      have whole := List.dropLast_append_getLast longer
      rw [shorter, List.append_assoc] at whole
      split at h
      · rename_i dash
        cases h
        subst dash
        rw [shorter, List.dropLast_concat, ← whole]
        apply AppCase.userLeft
        rw [show rest ++ [45, nick.getLast longer] = nick from whole]
        exact user
      · rename_i other
        cases h
        apply AppCase.strangerLeft nick user
        rintro name d rfl
        have same : name ++ [45] = rest ++ [last] := by simpa using shorter
        exact other (List.append_inj' same rfl |>.2 |> List.singleton_inj.mp).symm

theorem msgQuery_case (a : IRCDDBApp) (m : IRCMessage) (tm_isdst : Int) :
    AppCase a (.msgQuery m tm_isdst) (a.msgQuery m tm_isdst).1 (a.msgQuery m tm_isdst).2 := by
  have silent : Finds [] := by simp [Finds]
  cases text : serverText m with
  | none =>
      simp only [msgQuery, text]
      exact .answer m tm_isdst [] (by simp [queryText, text]) silent
  | some msg =>
      cases tokens : stringTokenizer msg with
      | nil =>
          simp only [msgQuery, text, tokens]
          exact .answer m tm_isdst [] (by simp [queryText, text, tokens]) silent
      | cons cmd tkz =>
          simp only [msgQuery, text, tokens]
          by_cases update : cmd = str "UPDATE"
          · simp only [update, if_true]
            exact .update (.msgQuery m tm_isdst) _ (by simp [updateText, queryText, text, tokens, update])
          · have other : queryText m = none := by simp [queryText, text, tokens, update]
            simp only [update, if_false]
            split
            · split
              · rename_i state
                exact .listEnd m tm_isdst other state
              · exact .answer m tm_isdst [] other silent
            · split
              · split
                · rename_i state
                  exact .listMore m tm_isdst other state
                · exact .answer m tm_isdst [] other silent
              · split
                · refine .answer m tm_isdst _ other ?_
                  split
                  · exact silent
                  · exact findUser_finds a _
                · exact .answer m tm_isdst [] other silent

theorem step_case {a a' : IRCDDBApp} {e : AppEvent} {o : List IRCMessage}
    (h : step a e = .ok (a', o)) : AppCase a e a' o := by
  cases e with
  | entry order => exact .entry order a' o (entryState_case h)
  | userJoin nick name addr =>
      cases h
      exact .joined nick name addr
  | userLeave nick =>
      simp only [step] at h
      split at h
      · cases h
      · rename_i left
        cases h
        exact userLeave_case left
  | userListReset =>
      cases h
      exact .reset
  | msgChannel m tm_isdst =>
      cases h
      unfold msgChannel
      split
      · rename_i msg text
        exact .update (.msgChannel m tm_isdst) msg text
      · rename_i text
        exact .noise m tm_isdst text
  | msgQuery m tm_isdst =>
      simp only [step, Except.ok.injEq] at h
      have case := msgQuery_case a m tm_isdst
      rwa [h] at case
  | setSendQ ready =>
      cases h
      exact .queue ready
  | findUser usrCall =>
      cases h
      exact .find usrCall

end IRCDDBApp
end SmartGroup
