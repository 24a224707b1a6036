import SmartGroup.Irc.Message
import SmartGroup.Support.Machine

/-! `IRCDDBApp` as a machine. Its steps are the calls from the IRC client's thread
and the turns of the loop in `Entry`, which runs on a thread of its own. Nothing
calls `rptrQTH`, `rptrQRG` and `kickWatchdog`, so that the tables they fill, and
the two timers that empty them, are left out. -/
namespace SmartGroup
open Bytes Machine

/-- How the application can go wrong: the last character of an empty string, and
`strftime` without a time. -/
inductive AppFault where
  | emptyString
  | noTime
  deriving DecidableEq, Repr

/-- A call, or a turn of `Entry`. `entry` has the order in which a search through the
names would meet them, `setSendQ` whether the queue is there, and a message what `parseTime`
finds in `tm_isdst` when its row is parsed. -/
inductive AppEvent where
  | entry (order : List Str)
  | userJoin (nick name addr : Str)
  | userLeave (nick : Str)
  | userListReset
  | msgChannel (m : IRCMessage) (tm_isdst : Int)
  | msgQuery (m : IRCMessage) (tm_isdst : Int)
  | setSendQ (ready : Bool)
  | findUser (usrCall : Str)
  deriving DecidableEq

/-- What the parse of a row finds in the member that nothing sets. -/
def AppEvent.tm_isdst : AppEvent → Int
  | .msgChannel _ tm_isdst => tm_isdst
  | .msgQuery _ tm_isdst => tm_isdst
  | _ => 0

/-- `m_maxTime` and `maxTime` are two members. The first is never written, not even
by the constructor. -/
structure IRCDDBApp where
  state : Nat
  timer : Nat
  initReady : Bool
  sendQ : Bool
  currentServer : Str
  m_maxTime : Int
  maxTime : Int
  sendlistTableID : Int
  cache : CacheManager

def numberOfTables : Nat := 2

/-- `tablePattern`: the digit that the token is. -/
def tablePattern : Str → Option Nat
  | [d] => if isDigit d then some (d.toNat - 48) else none
  | _ => none

/-- `datePattern`. -/
def datePattern : Str → Bool
  | [c, e, y, z, s, m, n, t, d, f] =>
      c == 50 && e == 48 && isDigit y && isDigit z && s == 45 &&
        (m == 49 && (48 ≤ n && n ≤ 50) || m == 48 && (49 ≤ n && n ≤ 57)) && t == 45 &&
        (d == 51 && (f == 48 || f == 49) || (d == 49 || d == 50) && isDigit f ||
          d == 48 && (49 ≤ f && f ≤ 57))
  | _ => false

/-- `timePattern`. -/
def timePattern : Str → Bool
  | [h, i, s, m, n, t, c, d] =>
      (h == 50 && (48 ≤ i && i ≤ 51) || (h == 48 || h == 49) && isDigit i) && s == 58 &&
        (48 ≤ m && m ≤ 53) && isDigit n && t == 58 && (48 ≤ c && c ≤ 53) && isDigit d
  | _ => false

def dbChar (b : UInt8) : Bool := isDigit b || (65 ≤ b && b ≤ 90) || b == 95

/-- `dbPattern`. -/
def dbPattern (s : Str) : Bool := s.length == 8 && s.all dbChar

/-- A row of an update: its table, the time as text, the key and the value. -/
structure Row where
  tableID : Nat
  tstr : Str
  key : Str
  value : Str
  keyForm : dbPattern key
  valueForm : dbPattern value
  deriving DecidableEq

/-- The time as it is parsed. -/
def Row.rtime (row : Row) (tm_isdst : Int) : Int := parseTime tm_isdst row.tstr

/-- The tokens behind the optional table number, when that is a table's. -/
def tableOf : List Str → Option (Nat × List Str)
  | [] => none
  | tk :: tkz =>
      match tablePattern tk with
      | some tableID => if tableID < numberOfTables then some (tableID, tkz) else none
      | none => some (0, tk :: tkz)

/-- The parsing part of `doUpdate`: no row where the function returns early. -/
def rowOf (msg : Str) : Option Row :=
  match tableOf (stringTokenizer msg) with
  | some (tableID, tk :: timeToken :: key :: value :: _) =>
      if form : datePattern tk ∧ timePattern timeToken ∧ dbPattern key ∧ dbPattern value then
        some ⟨tableID, tk ++ 32 :: timeToken, key, value, form.2.2.1, form.2.2.2⟩
      else none
  | _ => none

/-- The repeater or user that a key stands for, and the repeater of a value. -/
def callsignOf (key : Str) : Str := replaceChar key 95 32

/-- The gateway that a value stands for. -/
def gatewayOf (value : Str) : Str := (callsignOf value).set 7 71

namespace IRCDDBApp

/-- The application as it is made; the cache may hold the reflectors already. -/
def new (m_maxTime : Int) (cache : CacheManager) : IRCDDBApp where
  state := 0
  timer := 0
  initReady := false
  sendQ := false
  currentServer := []
  m_maxTime := m_maxTime
  maxTime := 950000000
  sendlistTableID := 0
  cache := cache.clearGate

def userJoin (a : IRCDDBApp) (nick name addr : Str) : IRCDDBApp :=
  if nick.take 2 = str "u-" then a
  else
    let gate := padTo 7 (toUpper name) ++ [71]
    { a with cache := (a.cache.updateName name nick).updateGate gate addr }

def userLeave (a : IRCDDBApp) (nick : Str) : Except AppFault IRCDDBApp :=
  if nick.take 2 = str "s-" then
    .ok { a with currentServer := [], state := 2, timer := 200, initReady := false }
  else
    let name := nick.dropLast
    match name.getLast? with
    | none => .error .emptyString
    | some last =>
        if last = 45 then
          let name := name.dropLast
          let gate := padTo 7 (toUpper name) ++ [71]
          .ok { a with cache := (a.cache.eraseName name).eraseGate gate }
        else .ok a

def userListReset (a : IRCDDBApp) : IRCDDBApp := { a with cache := a.cache.clearGate }

/-- `findUser`: the messages it queues. -/
def findUser (a : IRCDDBApp) (usrCall : Str) : List IRCMessage :=
  if a.currentServer ≠ [] ∧ 6 ≤ a.state ∧ a.sendQ then
    [.privmsg a.currentServer (str "FIND " ++ replaceChar usrCall 32 95)]
  else []

/-- What `doUpdate` does with a row. -/
def storeRow (a : IRCDDBApp) (tm_isdst : Int) (row : Row) : IRCDDBApp :=
  if row.tableID = 1 then
    if a.initReady ∧ row.key.take 6 ≠ row.value.take 6 then
      { a with
        cache := a.cache.updateRptr (callsignOf row.key) (gatewayOf row.value) []
        maxTime := if a.maxTime < row.rtime tm_isdst then row.rtime tm_isdst else a.maxTime }
    else a
  else if row.tableID = 0 ∧ a.initReady then
    { a with
      cache := a.cache.updateUser (callsignOf row.key) (callsignOf row.value) [] [] row.tstr }
  else a

def doUpdate (a : IRCDDBApp) (tm_isdst : Int) (msg : Str) : IRCDDBApp :=
  match rowOf msg with
  | some row => a.storeRow tm_isdst row
  | none => a

/-- `doNotFound`: the key, empty where there is none. Behind a table number the first
character of the key goes, not the number's token. -/
def doNotFound (msg : Str) : Str :=
  match stringTokenizer msg with
  | [] => []
  | tk :: tkz =>
      match tablePattern tk with
      | some tableID =>
          if tableID < numberOfTables then
            match tkz with
            | [] => []
            | key :: _ => if tableID = 0 ∧ dbPattern (key.drop 1) then key.drop 1 else []
          else []
      | none => if dbPattern tk then tk else []

/-- A message of a server: its nick begins with `s-` and it has a text. -/
def serverText (m : IRCMessage) : Option Str :=
  if m.getPrefixNick.take 2 = str "s-" then m.params[1]? else none

def msgChannel (a : IRCDDBApp) (m : IRCMessage) (tm_isdst : Int) : IRCDDBApp :=
  match serverText m with
  | some msg => a.doUpdate tm_isdst msg
  | none => a

def msgQuery (a : IRCDDBApp) (m : IRCMessage) (tm_isdst : Int) : IRCDDBApp × List IRCMessage :=
  match serverText m with
  | none => (a, [])
  | some msg =>
      match stringTokenizer msg with
      | [] => (a, [])
      | cmd :: tkz =>
          if cmd = str "UPDATE" then (a.doUpdate tm_isdst (restOfLine tkz), [])
          else if cmd = str "LIST_END" then (if a.state = 5 then { a with state := 3 } else a, [])
          else if cmd = str "LIST_MORE" then (if a.state = 5 then { a with state := 4 } else a, [])
          else if cmd = str "NOT_FOUND" then
            let callsign := doNotFound (restOfLine tkz)
            (a, if callsign = [] then [] else a.findUser (replaceChar callsign 95 32))
          else (a, [])

def setSendQ (a : IRCDDBApp) (ready : Bool) : IRCDDBApp := { a with sendQ := ready }

/-- `getLastEntryTime`. -/
def getLastEntryTime (a : IRCDDBApp) (tableID : Int) : Except AppFault Str :=
  if tableID = 1 then
    match Calendar.gmtime a.m_maxTime with
    | some tm => .ok (Calendar.format tm)
    | none => .error .noTime
  else .ok (str "DBERROR")

def needsDatabaseUpdate (tableID : Int) : Bool := tableID = 1

def getTableIDString (tableID : Int) (spaceBeforeNumber : Bool) : Str :=
  if tableID = 0 then []
  else if 0 < tableID ∧ tableID < numberOfTables then
    if spaceBeforeNumber then 32 :: Calendar.signed tableID else Calendar.signed tableID ++ [32]
  else str " TABLE_ID_OUT_OF_RANGE "

/-- `QUIT` with its reason. -/
def quit (reason : String) : IRCMessage := (IRCMessage.ofCommand (str "QUIT")).addParam (str reason)

/-- The loop's `switch`, by states, after the timer has been counted down. -/
def entryState (a : IRCDDBApp) (order : List Str) : Except AppFault (IRCDDBApp × List IRCMessage) :=
  match a.state with
  | 0 => .ok (if a.sendQ then { a with state := 1 } else a, [])
  | 1 => .ok ({ a with state := 2, timer := 200 }, [])
  | 2 =>
      if a.sendQ then
        let suser := a.cache.findServerUser order
        if suser ≠ [] then
          .ok ({ a with currentServer := suser, sendlistTableID := numberOfTables, state := 3 }, [])
        else if a.timer = 0 then
          .ok ({ a with state := 10 }, [quit "no op user with 's-' found."])
        else .ok (a, [])
      else .ok ({ a with state := 10 }, [])
  | 3 =>
      if a.sendQ then
        let tableID := a.sendlistTableID - 1
        if tableID < 0 then .ok ({ a with sendlistTableID := tableID, state := 6 }, [])
        else .ok ({ a with sendlistTableID := tableID, state := 4, timer := 900 }, [])
      else .ok ({ a with state := 10 }, [])
  | 4 =>
      if a.sendQ then
        if needsDatabaseUpdate a.sendlistTableID then
          match a.getLastEntryTime a.sendlistTableID with
          | .error f => .error f
          | .ok time =>
              .ok ({ a with state := 5 },
                [.privmsg a.currentServer (str "SENDLIST" ++
                  getTableIDString a.sendlistTableID true ++ 32 :: time)])
        else .ok ({ a with state := 3 }, [])
      else .ok ({ a with state := 10 }, [])
  | 5 =>
      if a.sendQ then
        if a.timer = 0 then .ok ({ a with state := 10 }, [quit "timeout SENDLIST"])
        else .ok (a, [])
      else .ok ({ a with state := 10 }, [])
  | 6 =>
      if a.sendQ then .ok ({ a with initReady := true, state := 7 }, [])
      else .ok ({ a with state := 10 }, [])
  | 7 => .ok (if a.sendQ then a else { a with state := 10 }, [])
  | 10 => .ok ({ a with state := 0, timer := 0, initReady := false }, [])
  | _ => .ok (a, [])

/-- A turn of the loop in `Entry`. -/
def entry (a : IRCDDBApp) (order : List Str) : Except AppFault (IRCDDBApp × List IRCMessage) :=
  entryState { a with timer := a.timer - 1 } order

def step : Machine.Step IRCDDBApp AppEvent IRCMessage AppFault
  | a, .entry order => a.entry order
  | a, .userJoin nick name addr => .ok (a.userJoin nick name addr, [])
  | a, .userLeave nick =>
      match a.userLeave nick with
      | .error f => .error f
      | .ok a' => .ok (a', [])
  | a, .userListReset => .ok (a.userListReset, [])
  | a, .msgChannel m tm_isdst => .ok (a.msgChannel m tm_isdst, [])
  | a, .msgQuery m tm_isdst => .ok (a.msgQuery m tm_isdst)
  | a, .setSendQ ready => .ok (a.setSendQ ready, [])
  | a, .findUser usrCall => .ok (a, a.findUser usrCall)

/-- The runs from the start, for any content of the uninitialised member. -/
abbrev AppRun (m_maxTime : Int) (cache : CacheManager) := Run step (new m_maxTime cache)

abbrev AppEntry := Entry IRCDDBApp AppEvent IRCMessage

end IRCDDBApp

/-! Messages and an application for the runs that show where a property fails. -/
namespace Sample

def ircServer : Str := str "s-grp1s1"

/-- A private message of the server. -/
def fromServer (text : String) : IRCMessage :=
  ⟨str "s-grp1s1!s-grp1s1@grp", str "PRIVMSG", [str "user-1", str text]⟩

/-- The application in standby, with nothing in its cache. -/
def standby : IRCDDBApp :=
  { IRCDDBApp.new 950000000 .empty with
    state := 7, initReady := true, sendQ := true, currentServer := ircServer }

/-- The calls and turns that lead from the start to the first request. -/
def connect : List AppEvent :=
  [.setSendQ true, .userJoin ircServer ircServer (str "10.0.0.1")] ++ List.replicate 5 (.entry [])

/-- A row that the server sends. -/
def row : AppEvent := .msgQuery (fromServer "UPDATE 1 2024-05-01 10:00:00 AB1CDE_B ZZ9ZZZ_G") 0

/-- The end of the list, and the turns up to standby. -/
def complete : List AppEvent :=
  .msgQuery (fromServer "LIST_END") 0 :: List.replicate 4 (.entry [])

/-- The run of the events from the start of the application. -/
theorem appRun (m_maxTime : Int) (cache : CacheManager) (es : List AppEvent)
    (p : List IRCDDBApp.AppEntry → IRCDDBApp → Bool)
    (accepted : accepts IRCDDBApp.step (.new m_maxTime cache) es p = true) :
    ∃ tr a, IRCDDBApp.AppRun m_maxTime cache tr a ∧ p tr a = true :=
  exists_run_of_accepts IRCDDBApp.step (.new m_maxTime cache) es p accepted

end Sample
end SmartGroup
