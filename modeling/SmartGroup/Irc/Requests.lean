import SmartGroup.Irc.Effects
import SmartGroup.Irc.Update
import SmartGroup.Irc.Download

/-! The times that the requests for the repeater table ask from. `doUpdate` keeps the
time of the newest row in `maxTime`, but the requests are written from `m_maxTime`. -/
namespace SmartGroup
open Bytes Machine Last

namespace IRCDDBApp

/-- The time of the row that `doUpdate` stores in this step. -/
def storedTime (x : AppEntry) : Option Int :=
  if x.pre.initReady then
    ((updateText x.event).bind repeaterRow).bind fun row =>
      if row.key.take 6 ≠ row.value.take 6 then some (row.rtime x.event.tm_isdst) else none
  else none

/-- The times of the rows that have been stored. -/
def storedTimes (tr : List AppEntry) : List Int := tr.filterMap storedTime

/-- The time of the newest of them. -/
def newest (tr : List AppEntry) : Option Int := (storedTimes tr).max?

/-- The time in a request for the repeater table. -/
def sendlistTime (m : IRCMessage) : Option Str :=
  match m.params with
  | [_, text] => if text.take 11 = str "SENDLIST 1 " then some (text.drop 11) else none
  | _ => none

/-- Every request asks from the newest row stored before it, or from the initial time. -/
def AsksFromNewest (tr : List AppEntry) : Prop :=
  ∀ before x after, tr = before ++ x :: after → ∀ m ∈ x.outs, ∀ time, sendlistTime m = some time →
    (Calendar.gmtime ((newest before).getD 950000000)).map Calendar.format = some time

/-- The turn of `Entry` that requests the repeater table. -/
def Requesting (a : IRCDDBApp) (e : AppEvent) : Prop :=
  (∃ order, e = .entry order) ∧ a.state = 4 ∧ a.sendQ = true ∧ a.sendlistTableID = 1

/-- The row is stored in the table of repeaters. -/
def StoresRepeater (a : IRCDDBApp) (row : Row) : Prop :=
  a.initReady ∧ row.tableID = 1 ∧ row.key.take 6 ≠ row.value.take 6

instance (a : IRCDDBApp) (row : Row) : Decidable (a.StoresRepeater row) :=
  inferInstanceAs (Decidable (_ ∧ _ ∧ _))

theorem storeRow_maxTime (a : IRCDDBApp) (tm_isdst : Int) (row : Row) :
    (a.storeRow tm_isdst row).maxTime =
      if a.StoresRepeater row then max a.maxTime (row.rtime tm_isdst) else a.maxTime := by
  have larger : (if a.maxTime < row.rtime tm_isdst then row.rtime tm_isdst else a.maxTime) =
      max a.maxTime (row.rtime tm_isdst) := by
    split <;> omega
  by_cases table : row.tableID = 1
  · by_cases stores : a.initReady ∧ row.key.take 6 ≠ row.value.take 6
    · simp only [storeRow, StoresRepeater, table, stores, larger, if_true, true_and, ne_eq, not_false_eq_true]
    · have closed : ¬a.StoresRepeater row := fun h => stores ⟨h.1, h.2.2⟩
      simp only [storeRow, if_pos table, if_neg stores, if_neg closed]
  · have closed : ¬a.StoresRepeater row := fun h => table h.2.1
    simp only [storeRow, if_neg table, if_neg closed]
    split <;> rfl

theorem EntryCase.times {a a' : IRCDDBApp} {order : List Str} {o : List IRCMessage}
    (case : EntryCase a order a' o) : a'.m_maxTime = a.m_maxTime ∧ a'.maxTime = a.maxTime := by
  cases case <;> exact ⟨rfl, rfl⟩

theorem doUpdate_m_maxTime (a : IRCDDBApp) (tm_isdst : Int) (msg : Str) :
    (a.doUpdate tm_isdst msg).m_maxTime = a.m_maxTime := by
  unfold doUpdate storeRow
  split
  · split <;> split <;> rfl
  · rfl

/-- Nothing writes `m_maxTime`. -/
theorem AppCase.m_maxTime {a a' : IRCDDBApp} {e : AppEvent} {o : List IRCMessage}
    (case : AppCase a e a' o) : a'.m_maxTime = a.m_maxTime := by
  cases case with
  | entry order _ _ case => exact case.times.1
  | joined nick name addr => exact (userJoin_frame a nick name addr).m_maxTime
  | update e msg text => exact doUpdate_m_maxTime a _ msg
  | _ => rfl

theorem AppRun.m_maxTime {m : Int} {c : CacheManager} {tr : List AppEntry} {s : IRCDDBApp}
    (run : AppRun m c tr s) : s.m_maxTime = m :=
  run.always (I := fun s => s.m_maxTime = m) rfl fun same taken =>
    (step_case taken).m_maxTime.trans same

/-- A step keeps the newest time in `maxTime`. -/
theorem AppCase.maxTime {a a' : IRCDDBApp} {e : AppEvent} {o : List IRCMessage}
    (case : AppCase a e a' o) :
    a'.maxTime = (storedTime ⟨a, e, o, a'⟩).elim a.maxTime (max a.maxTime) := by
  have quiet (silent : updateText e = none) (same : a'.maxTime = a.maxTime) :
      a'.maxTime = (storedTime ⟨a, e, o, a'⟩).elim a.maxTime (max a.maxTime) := by
    simp [storedTime, silent, same]
  cases case with
  | update e msg text =>
      simp only [storedTime, text, Option.bind_some, doUpdate, repeaterRow]
      cases rowOf msg with
      | none => simp
      | some row =>
          rw [storeRow_maxTime]
          by_cases ready : a.initReady = true
          · by_cases table : row.tableID = 1
            · by_cases moves : row.key.take 6 = row.value.take 6 <;>
                simp [Option.filter_some, StoresRepeater, ready, table, moves]
            · simp [Option.filter_some, StoresRepeater, ready, table]
          · simp [StoresRepeater, ready]
  | entry order _ _ case => exact quiet rfl case.times.2
  | joined nick name addr => exact quiet rfl (userJoin_frame a nick name addr).maxTime
  | noise m tm_isdst text => exact quiet text rfl
  | listEnd m tm_isdst text state => exact quiet text rfl
  | listMore m tm_isdst text state => exact quiet text rfl
  | answer m tm_isdst o text finds => exact quiet text rfl
  | _ => exact quiet rfl rfl

/-- In every run `maxTime` has the time of the newest stored row. -/
theorem AppRun.maxTime {m : Int} {c : CacheManager} {tr : List AppEntry} {s : IRCDDBApp}
    (run : AppRun m c tr s) : s.maxTime = (storedTimes tr).foldl max 950000000 := by
  induction run with
  | nil => rfl
  | snoc before last ih =>
      rw [(step_case last).maxTime, storedTimes, List.filterMap_append, List.foldl_append,
        ← storedTimes, ← ih]
      cases stored : storedTime _ <;> simp [stored]

/-! The requests. -/

theorem sendlistTime_find (server key : Str) :
    sendlistTime (.privmsg server (str "FIND " ++ key)) = none := by
  have apart : (str "FIND " ++ key).take 11 ≠ str "SENDLIST 1 " := by
    intro same
    have first := congrArg List.head? same
    simp [str] at first
  simp only [sendlistTime, IRCMessage.privmsg, if_neg apart]

theorem sendlistTime_request (server time : Str) :
    sendlistTime (.privmsg server (str "SENDLIST 1 " ++ time)) = some time := by
  have front : (str "SENDLIST 1 " ++ time).take 11 = str "SENDLIST 1 " := List.take_left' rfl
  have rest : (str "SENDLIST 1 " ++ time).drop 11 = time := List.drop_left' rfl
  simp only [sendlistTime, IRCMessage.privmsg, front, if_true, rest]

theorem Finds.no_request {o : List IRCMessage} (finds : Finds o) (time : Str) :
    ¬∃ m ∈ o, sendlistTime m = some time := by
  rintro ⟨m, member, gives⟩
  obtain ⟨server, key, rfl⟩ := finds m member
  rw [sendlistTime_find] at gives
  cases gives

theorem EntryCase.sendlist {a a' : IRCDDBApp} {order : List Str} {o : List IRCMessage}
    (case : EntryCase a order a' o) (time : Str) :
    (∃ m ∈ o, sendlistTime m = some time) ↔
      (a.state = 4 ∧ a.sendQ = true ∧ a.sendlistTableID = 1) ∧
        (Calendar.gmtime a.m_maxTime).map Calendar.format = some time := by
  have idle {o : List IRCMessage} (none : ¬∃ m ∈ o, sendlistTime m = some time)
      (stays : ¬(a.state = 4 ∧ a.sendQ = true ∧ a.sendlistTableID = 1)) :
      (∃ m ∈ o, sendlistTime m = some time) ↔
        (a.state = 4 ∧ a.sendQ = true ∧ a.sendlistTableID = 1) ∧
          (Calendar.gmtime a.m_maxTime).map Calendar.format = some time :=
    iff_of_false none fun asks => stays asks.1
  have silent : ¬∃ m ∈ ([] : List IRCMessage), sendlistTime m = some time := by simp
  have elsewhere {k : Nat} (state : a.state = k) (other : k ≠ 4) :
      ¬(a.state = 4 ∧ a.sendQ = true ∧ a.sendlistTableID = 1) :=
    fun asks => other (state.symm.trans asks.1)
  cases case with
  | request state queue table tm written =>
      simp [sendlistTime_request, state, queue, table, written]
  | stay waits => exact idle silent fun asks => waits.2.2.1 asks.1
  | start state queue => exact idle silent (elsewhere state (by decide))
  | search state => exact idle silent (elsewhere state (by decide))
  | choose state queue found => exact idle silent (elsewhere state (by decide))
  | nextTable state queue more => exact idle silent (elsewhere state (by decide))
  | noTable state queue done => exact idle silent (elsewhere state (by decide))
  | skipTable state queue table => exact idle silent fun asks => table asks.2.2
  | ready state queue => exact idle silent (elsewhere state (by decide))
  | close o state cause quits =>
      apply idle
      · rintro ⟨m, member, gives⟩
        obtain ⟨reason, rfl⟩ := quits m member
        cases gives
      · rcases cause with queue | state | state
        · intro asks
          rw [queue] at asks
          cases asks.2.1
        · exact elsewhere state (by decide)
        · exact elsewhere state (by decide)
  | restart state => exact idle silent (elsewhere state (by decide))

/-- The requests that a step sends: one, with `m_maxTime`, in a turn in state 4. -/
theorem AppCase.sendlist_iff {a a' : IRCDDBApp} {e : AppEvent} {o : List IRCMessage}
    (case : AppCase a e a' o) (time : Str) :
    (∃ m ∈ o, sendlistTime m = some time) ↔
      Requesting a e ∧ (Calendar.gmtime a.m_maxTime).map Calendar.format = some time := by
  have call (notEntry : ∀ order, e ≠ .entry order) (none : ¬∃ m ∈ o, sendlistTime m = some time) :
      (∃ m ∈ o, sendlistTime m = some time) ↔
        Requesting a e ∧ (Calendar.gmtime a.m_maxTime).map Calendar.format = some time := by
    apply iff_of_false none
    rintro ⟨⟨⟨order, rfl⟩, -⟩, -⟩
    exact notEntry order rfl
  cases case with
  | entry order _ _ case =>
      have turn : Requesting a (.entry order) ↔
          a.state = 4 ∧ a.sendQ = true ∧ a.sendlistTableID = 1 := and_iff_right ⟨order, rfl⟩
      rw [turn]
      exact case.sendlist time
  | update e msg text =>
      refine call ?_ (by simp)
      rintro order rfl
      cases text
  | answer m tm_isdst o text found => exact call (by simp) (found.no_request time)
  | find usrCall => exact call (by simp) ((findUser_finds a usrCall).no_request time)
  | _ => exact call (by simp) (by simp)

/-- A turn that makes a request can write its time. -/
theorem written_of_requesting {a a' : IRCDDBApp} {e : AppEvent} {o : List IRCMessage}
    (requests : Requesting a e) (h : step a e = .ok (a', o)) :
    ∃ tm, Calendar.gmtime a.m_maxTime = some tm := by
  obtain ⟨⟨order, rfl⟩, state, queue, table⟩ := requests
  cases written : Calendar.gmtime a.m_maxTime with
  | some tm => exact ⟨tm, rfl⟩
  | none =>
      simp [step, entry, entryState, state, queue, table, needsDatabaseUpdate, getLastEntryTime,
        written] at h

/-- Every request carries the content of `m_maxTime`. -/
theorem asksFromNewest_iff {m : Int} {c : CacheManager} {tr : List AppEntry} {s : IRCDDBApp}
    (run : AppRun m c tr s) : AsksFromNewest tr ↔
      ∀ before x after, tr = before ++ x :: after → Requesting x.pre x.event →
        (newest before).getD 950000000 = m := by
  have request (x : AppEntry) (member : x ∈ tr) (time : Str) :
      (∃ m ∈ x.outs, sendlistTime m = some time) ↔
        Requesting x.pre x.event ∧ (Calendar.gmtime m).map Calendar.format = some time := by
    obtain ⟨taken, _, -, reached⟩ := run.entry member
    rw [(step_case taken).sendlist_iff, AppRun.m_maxTime reached]
  constructor
  · intro asks before x after split requests
    have member : x ∈ tr := split ▸ List.mem_append_right before List.mem_cons_self
    obtain ⟨taken, _, -, reached⟩ := run.entry member
    obtain ⟨tm, written⟩ := written_of_requesting requests taken
    rw [AppRun.m_maxTime reached] at written
    obtain ⟨msg, sent, gives⟩ := (request x member (Calendar.format tm)).mpr
      ⟨requests, by rw [written, Option.map_some]⟩
    have asked := asks before x after split msg sent _ gives
    cases known : Calendar.gmtime ((newest before).getD 950000000) with
    | none => simp [known] at asked
    | some tm' =>
        rw [known, Option.map_some, Option.some.injEq] at asked
        exact Calendar.format_gmtime_injective known written asked
  · intro same before x after split msg sent time written
    have member : x ∈ tr := split ▸ List.mem_append_right before List.mem_cons_self
    obtain ⟨requests, text⟩ := (request x member time).mp ⟨msg, sent, written⟩
    rw [same before x after split requests, text]

/-- Before its first request the application has stored nothing and is on its way there. -/
structure Fresh (a : IRCDDBApp) : Prop where
  offline : a.initReady = false
  state : a.state ≤ 4 ∨ a.state = 10
  table : a.state = 3 → a.sendlistTableID = 2
  request : a.state = 4 → a.sendlistTableID = 1

theorem AppCase.fresh {a a' : IRCDDBApp} {e : AppEvent} {o : List IRCMessage} (fresh : Fresh a)
    (case : AppCase a e a' o) : Requesting a e ∨ Fresh a' := by
  obtain ⟨offline, state, table, request⟩ := fresh
  cases case with
  | entry order _ _ case =>
      cases case with
      | request at_four queue one tm written =>
          exact .inl ⟨⟨order, rfl⟩, at_four, queue, one⟩
      | stay waits => exact .inr ⟨offline, state, table, request⟩
      | choose at_two queue found => exact .inr ⟨offline, by simp, by simp [numberOfTables], by simp⟩
      | nextTable at_three queue more =>
          have two := table at_three
          exact .inr ⟨offline, by simp, by simp, by simp [two]⟩
      | noTable at_three queue done =>
          have two := table at_three
          simp only [two] at done
          omega
      | skipTable at_four queue other => exact absurd (request at_four) other
      | ready at_six queue =>
          simp only at at_six
          omega
      | start at_zero queue => exact .inr ⟨offline, by simp, by simp, by simp⟩
      | search at_one => exact .inr ⟨offline, by simp, by simp, by simp⟩
      | close o early cause quits => exact .inr ⟨offline, by simp, by simp, by simp⟩
      | restart at_ten => exact .inr ⟨rfl, by simp, by simp, by simp⟩
  | joined nick name addr =>
      unfold userJoin
      split
      · exact .inr ⟨offline, state, table, request⟩
      · exact .inr ⟨offline, state, table, request⟩
  | serverLeft nick server => exact .inr ⟨rfl, by simp, by simp, by simp⟩
  | update e msg text =>
      rw [doUpdate_offline offline]
      exact .inr ⟨offline, state, table, request⟩
  | listEnd m tm_isdst text five => omega
  | listMore m tm_isdst text five => omega
  | _ => exact .inr ⟨offline, state, table, request⟩

/-- Nothing is stored before the first request. -/
theorem first_request {m : Int} {c : CacheManager} {tr : List AppEntry} {s : IRCDDBApp}
    (run : AppRun m c tr s) :
    (∃ before x after, tr = before ++ x :: after ∧ Requesting x.pre x.event ∧
      newest before = none) ∨ newest tr = none ∧ Fresh s := by
  induction run with
  | nil => exact .inr ⟨rfl, rfl, by simp [new], by simp [new], by simp [new]⟩
  | @snoc tr a e a' o _ last ih =>
      rcases ih with ⟨before, x, after, rfl, requests, none⟩ | ⟨none, fresh⟩
      · exact .inl ⟨before, x, after ++ [⟨a, e, o, a'⟩], by simp, requests, none⟩
      · rcases (step_case last).fresh fresh with requests | fresh'
        · exact .inl ⟨tr, _, [], rfl, requests, none⟩
        · refine .inr ⟨?_, fresh'⟩
          have silent : storedTime ⟨a, e, o, a'⟩ = .none := by simp [storedTime, fresh.offline]
          simpa [newest, storedTimes, silent] using none

/-- The requests of a run ask from the newest stored row exactly when the member that is
never written happens to hold the initial time, and no request comes after a stored row of
another time. -/
theorem sendlist_times_iff {m : Int} {c : CacheManager} {tr : List AppEntry} {s : IRCDDBApp}
    (run : AppRun m c tr s) : AsksFromNewest tr ↔
      ∀ before x after, tr = before ++ x :: after → Requesting x.pre x.event →
        m = 950000000 ∧ ∀ t, newest before = some t → t = 950000000 := by
  rw [asksFromNewest_iff run]
  constructor
  · intro same before x after split requests
    have initial : m = 950000000 := by
      rcases first_request run with ⟨front, y, rest, first, asks, none⟩ | ⟨none, -⟩
      · have here := same front y rest first asks
        rwa [none, Option.getD_none, eq_comm] at here
      · have here := same before x after split requests
        have nothing : newest before = .none := by
          rw [newest, List.max?_eq_none_iff] at none ⊢
          rw [split, storedTimes, List.filterMap_append, List.append_eq_nil_iff] at none
          exact none.1
        rwa [nothing, Option.getD_none, eq_comm] at here
    refine ⟨initial, fun t known => ?_⟩
    have here := same before x after split requests
    rwa [known, Option.getD_some, initial] at here
  · intro condition before x after split requests
    obtain ⟨initial, known⟩ := condition before x after split requests
    cases times : newest before with
    | none => rw [Option.getD_none, initial]
    | some t => rw [Option.getD_some, known t times, initial]

section
open Sample

/-- A first connection of an application whose member holds the initial time. -/
theorem first_request_right : ∃ tr s, AppRun 950000000 .empty tr s ∧ AsksFromNewest tr ∧
    ∃ x ∈ tr, ∃ m ∈ x.outs, sendlistTime m = some (str "2000-02-08 08:53:20") := by
  obtain ⟨tr, s, run, accepted⟩ := Sample.appRun 950000000 .empty (connect ++ row :: complete)
    (fun tr _ => decide (storedTimes tr = [] ∧
      ∃ x ∈ tr, ∃ m ∈ x.outs, sendlistTime m = some (str "2000-02-08 08:53:20"))) (by decide +kernel)
  obtain ⟨nothing, asks⟩ := of_decide_eq_true accepted
  refine ⟨tr, s, run, (sendlist_times_iff run).mpr fun before x after split _ => ⟨rfl, ?_⟩, asks⟩
  intro t known
  rw [split, storedTimes, List.filterMap_append, List.append_eq_nil_iff] at nothing
  rw [newest, storedTimes, nothing.1] at known
  cases known

/-- A row is stored in standby, the server leaves, and the next request asks from the
initial time again. -/
theorem request_goes_back : ∃ tr s, AppRun 950000000 .empty tr s ∧ ¬AsksFromNewest tr := by
  obtain ⟨tr, s, run, accepted⟩ := Sample.appRun 950000000 .empty
    (connect ++ complete ++ [row, .userLeave ircServer] ++ List.replicate 3 (.entry []))
    (fun tr _ => tr.getLast?.any fun (x : AppEntry) => decide (newest tr.dropLast = some 1714557600 ∧
      ∃ m ∈ x.outs, sendlistTime m = some (str "2000-02-08 08:53:20"))) (by decide +kernel)
  obtain ⟨x, last, accepted⟩ := (Option.any_eq_true _ _).mp accepted
  obtain ⟨known, m, sent, written⟩ := of_decide_eq_true accepted
  refine ⟨tr, s, run, fun asks => ?_⟩
  have asked := asks tr.dropLast x [] (List.dropLast_append_getLast? x last).symm m sent _ written
  rw [known] at asked
  exact absurd asked (by decide +kernel)

end

end IRCDDBApp
end SmartGroup
