import SmartGroup.GroupHandler
import SmartGroup.Irc.Query
import SmartGroup.Irc.Sending
import SmartGroup.Irc.Joins

/-! `CIRCDDB::sendHeardWithTXMsg` and `IRCDDBApp::sendHeard`: a call is announced to the network,
in a message of one line whatever the call is made of. -/
namespace SmartGroup
open Bytes Machine

/-- The characters outside `nonValid`. -/
def heardChar (b : UInt8) : Bool := (65 ≤ b && b ≤ 90) || isDigit b || b == 47 || b == 95

/-- The loop that replaces the first character that `nonValid` finds, `fuel` times at most. -/
def replaceNonValid : Nat → Str → Str
  | 0, s => s
  | fuel + 1, s =>
      match s.findIdx? fun b => !heardChar b with
      | none => s
      | some i => replaceNonValid fuel (s.set i 95)

def underScored (s : Str) : Str := replaceNonValid s.length s

/-- The digit that `%X` prints. -/
def hexDigit (n : UInt8) : UInt8 := if n < 10 then 48 + n else 55 + n

/-- `%02X`. -/
def hexByte (b : UInt8) : Str := [hexDigit (b / 16), hexDigit (b % 16)]

/-- `getCurrentTime`, where `strftime` has a time and its text has room in the buffer. -/
def getCurrentTime (now : Int) : Option Str :=
  (Calendar.gmtime now).bind fun tm =>
    if (Calendar.format tm).length < 25 then some (Calendar.format tm) else none

namespace IRCDDBApp

/-- The text of the message. -/
def heardText (time : Str) (heard : Heard) (tx_stats : Str) : Str :=
  let statsMsg := tx_stats.length > 0
  let cmd := str "UPDATE " ++ time
  let cmd := cmd ++ str " " ++ underScored heard.myCall ++ str " " ++ underScored heard.rpt1 ++ str " "
  let cmd := if statsMsg then cmd else cmd ++ str "0 "
  let cmd := cmd ++ underScored heard.rpt2 ++ str " " ++ underScored heard.yourCall ++ str " "
  let cmd := cmd ++ hexByte heard.flags.1 ++ str " " ++ hexByte heard.flags.2.1 ++ str " " ++ hexByte heard.flags.2.2
  let cmd := cmd ++ str " " ++ underScored heard.myCallExt
  if statsMsg then cmd ++ str " # " ++ tx_stats
  else
    let cmd := cmd ++ str " 00 " ++ underScored heard.destination
    if heard.txMessage.length = 20 then cmd ++ str " " ++ heard.txMessage else cmd

def sendHeard (a : IRCDDBApp) (now : Int) (heard : Heard) (tx_stats : Str) :
    Except AppFault (Bool × List IRCMessage) :=
  if a.currentServer ≠ [] ∧ 6 ≤ a.state ∧ a.sendQ then
    match getCurrentTime now with
    | none => .error .noTime
    | some time => .ok (true, [.privmsg a.currentServer (heardText time heard tx_stats)])
  else .ok (false, [])

end IRCDDBApp

namespace CIRCDDB

/-- The text of the transmission, when it has the length of one. -/
def txText (tx_message : Str) : Str :=
  if tx_message.length = 20 then tx_message.map fun ch => if 32 < ch ∧ ch < 127 then ch else 95 else []

def sendHeardWithTXMsg (app : IRCDDBApp) (now : Int) (heard : Heard) : Except AppFault (Bool × List IRCMessage) :=
  if heard.myCall.length ≠ 8 then .ok (false, [])
  else if heard.myCallExt.length ≠ 4 then .ok (false, [])
  else if heard.yourCall.length ≠ 8 then .ok (false, [])
  else if heard.rpt1.length ≠ 8 then .ok (false, [])
  else if heard.rpt2.length ≠ 8 then .ok (false, [])
  else
    let dest := if heard.destination = [] then str "        " else heard.destination
    if dest.length ≠ 8 then .ok (false, [])
    else app.sendHeard now { heard with destination := dest, txMessage := txText heard.txMessage } []

end CIRCDDB

/-! The loop ends when every character has been looked at, and has then done what a single pass does. -/

theorem heardChar_underscore : heardChar 95 = true := rfl

theorem replaceNonValid_eq {s : Str} {fuel : Nat} (enough : s.countP (fun b => !heardChar b) ≤ fuel) :
    replaceNonValid fuel s = s.map fun b => if heardChar b then b else 95 := by
  have same {s : Str} (valid : ∀ b ∈ s, heardChar b = true) :
      (s.map fun b => if heardChar b then b else 95) = s := by
    refine (List.map_congr_left fun b member => ?_).trans (List.map_id s)
    simp [valid b member]
  induction fuel generalizing s with
  | zero =>
      have valid : ∀ b ∈ s, heardChar b = true := by
        simpa using List.countP_eq_zero.mp (Nat.le_zero.mp enough)
      exact (same valid).symm
  | succ fuel ih =>
      rw [replaceNonValid]
      cases found : s.findIdx? fun b => !heardChar b with
      | none => exact (same (by simpa using found)).symm
      | some i =>
          obtain ⟨inside, bad, -⟩ := List.findIdx?_eq_some_iff_getElem.mp found
          have cut := List.take_append_drop i s
          rw [List.drop_eq_getElem_cons inside] at cut
          have placed : s.set i 95 = s.take i ++ 95 :: s.drop (i + 1) := by
            rw [List.set_eq_take_append_cons_drop, if_pos inside]
          have bad : heardChar s[i] = false := by simpa using bad
          have fewer : (s.set i 95).countP (fun b => !heardChar b) ≤ fuel := by
            rw [← cut] at enough
            rw [placed]
            simp only [List.countP_append, List.countP_cons, heardChar_underscore, bad] at enough ⊢
            simp at enough ⊢
            omega
          have whole := congrArg (List.map fun b => if heardChar b then b else 95) cut
          rw [List.map_append, List.map_cons, if_neg (by simp [bad])] at whole
          dsimp only
          rw [ih fewer, placed, List.map_append, List.map_cons, if_pos heardChar_underscore]
          exact whole

theorem underScored_eq (s : Str) : underScored s = s.map fun b => if heardChar b then b else 95 :=
  replaceNonValid_eq List.countP_le_length

@[simp] theorem length_underScored (s : Str) : (underScored s).length = s.length := by
  rw [underScored_eq, List.length_map]

theorem heardChar_of_mem {s : Str} {b : UInt8} (member : b ∈ underScored s) : heardChar b = true := by
  rw [underScored_eq] at member
  obtain ⟨c, -, rfl⟩ := List.mem_map.mp member
  split
  · assumption
  · rfl

/-! The characters of an announcement. -/

/-- What is neither white space nor outside a line. -/
def Visible (b : UInt8) : Prop := WireMessage.InLine b ∧ isSpace b = false

instance (b : UInt8) : Decidable (Visible b) := inferInstanceAs (Decidable (_ ∧ _))

theorem visible_of_range {b : UInt8} (low : 32 < b) (high : b < 127) : Visible b := by
  have low : 32 < b.toNat := low
  have high : b.toNat < 127 := high
  have apart {k : UInt8} (outside : k.toNat ≤ 32) : b ≠ k := by
    rintro rfl
    omega
  refine ⟨⟨⟨?_, ?_⟩, apart (by decide), apart (by decide)⟩, ?_⟩
  · exact Nat.lt_of_le_of_lt (Nat.zero_le 32) low
  · exact Nat.lt_of_lt_of_le high (by decide)
  · simp only [isSpace, Bool.or_eq_false_iff, beq_eq_false_iff_ne, Bool.and_eq_false_iff, decide_eq_false_iff_not]
    refine ⟨apart (by decide), .inr fun small => ?_⟩
    have small : b.toNat ≤ 13 := small
    omega

theorem visible_of_heardChar {b : UInt8} (heard : heardChar b = true) : Visible b := by
  simp only [heardChar, isDigit, Bool.or_eq_true, Bool.and_eq_true, decide_eq_true_eq, beq_iff_eq] at heard
  rcases heard with ((⟨low, high⟩ | ⟨low, high⟩) | rfl) | rfl
  · exact visible_of_range (UInt8.lt_of_lt_of_le (by decide) low) (UInt8.lt_of_le_of_lt high (by decide))
  · exact visible_of_range (UInt8.lt_of_lt_of_le (by decide) low) (UInt8.lt_of_le_of_lt high (by decide))
  · decide
  · decide

theorem visible_hexByte {b c : UInt8} (member : c ∈ hexByte b) : Visible c := by
  have digit {n : UInt8} (small : n.toNat < 16) : Visible (hexDigit n) := by
    have all : ∀ k : Fin 16, Visible (hexDigit (UInt8.ofNat k)) := by decide +kernel
    have same : UInt8.ofNat n.toNat = n := UInt8.ofNat_toNat
    have here := all ⟨n.toNat, small⟩
    rwa [same] at here
  have byte := b.toNat_lt
  simp only [hexByte, List.mem_cons, List.not_mem_nil, or_false] at member
  rcases member with rfl | rfl
  · apply digit
    rw [UInt8.toNat_div]
    exact Nat.div_lt_of_lt_mul byte
  · apply digit
    rw [UInt8.toNat_mod]
    exact Nat.mod_lt _ (by decide)

theorem visible_underScored {s : Str} {b : UInt8} (member : b ∈ underScored s) : Visible b :=
  visible_of_heardChar (heardChar_of_mem member)

theorem visible_txText {s : Str} {b : UInt8} (member : b ∈ CIRCDDB.txText s) : Visible b := by
  unfold CIRCDDB.txText at member
  split at member
  · obtain ⟨c, -, rfl⟩ := List.mem_map.mp member
    split
    · rename_i range
      exact visible_of_range range.1 range.2
    · decide
  · cases member

/-! The time of the announcement. -/

theorem visible_decimal {n : Nat} {b : UInt8} (member : b ∈ Calendar.decimal n) : Visible b := by
  obtain ⟨c, inside, rfl⟩ := List.mem_map.mp member
  have digit := Nat.isDigit_of_mem_toDigits (by decide) (by decide) inside
  have same := Calendar.digit_toNat digit
  simp only [Char.isDigit, Bool.and_eq_true, decide_eq_true_eq, UInt32.le_iff_toNat_le] at digit
  have low : 48 ≤ c.toNat := digit.1
  have high : c.toNat ≤ 57 := digit.2
  apply visible_of_range
  · rw [UInt8.lt_iff_toNat_lt, ← same]
    exact Nat.lt_of_lt_of_le (by decide) low
  · rw [UInt8.lt_iff_toNat_lt, ← same]
    exact Nat.lt_of_le_of_lt high (by decide)

theorem visible_twoDigits {n : Int} {b : UInt8} (member : b ∈ Calendar.twoDigits n) : Visible b := by
  have digit (k : Nat) : Visible (UInt8.ofNat (48 + k % 10)) := by
    have all : ∀ k : Fin 10, Visible (UInt8.ofNat (48 + k)) := by decide +kernel
    exact all ⟨k % 10, Nat.mod_lt _ (by decide)⟩
  have tens (m : Int) : (m % 10).toNat = (m % 10).toNat % 10 := by omega
  simp only [Calendar.twoDigits, List.mem_cons, List.not_mem_nil, or_false] at member
  rcases member with rfl | rfl
  · rw [tens]
    exact digit _
  · rw [tens]
    exact digit _

/-- The date and the time of day. -/
def dateText (tm : Calendar.Tm) : Str :=
  Calendar.signed tm.year ++ 45 :: (Calendar.twoDigits tm.mon ++ 45 :: Calendar.twoDigits tm.mday)

def clockText (tm : Calendar.Tm) : Str :=
  Calendar.twoDigits tm.hour ++ 58 :: (Calendar.twoDigits tm.min ++ 58 :: Calendar.twoDigits tm.sec)

theorem format_eq (tm : Calendar.Tm) : Calendar.format tm = dateText tm ++ 32 :: clockText tm := by
  simp [Calendar.format, dateText, clockText]

theorem getCurrentTime_eq_some {now : Int} {time : Str} (known : getCurrentTime now = some time) :
    time = dateText (Calendar.breakdown now) ++ 32 :: clockText (Calendar.breakdown now) ∧ time.length < 25 := by
  obtain ⟨tm, broken, room⟩ := Option.bind_eq_some_iff.mp known
  split at room
  · cases room
    rw [← Calendar.gmtime_eq_some broken, ← format_eq]
    exact ⟨rfl, by assumption⟩
  · cases room

theorem visible_dateText {tm : Calendar.Tm} : ∀ b ∈ dateText tm, Visible b := by
  intro b member
  simp only [dateText, List.mem_append, List.mem_cons] at member
  rcases member with year | rfl | month | rfl | day
  · unfold Calendar.signed at year
    split at year
    · rcases List.mem_cons.mp year with rfl | digit
      · decide
      · exact visible_decimal digit
    · exact visible_decimal year
  · decide
  · exact visible_twoDigits month
  · decide
  · exact visible_twoDigits day

theorem visible_clockText {tm : Calendar.Tm} : ∀ b ∈ clockText tm, Visible b := by
  intro b member
  simp only [clockText, List.mem_append, List.mem_cons] at member
  rcases member with hour | rfl | minute | rfl | second
  · exact visible_twoDigits hour
  · decide
  · exact visible_twoDigits minute
  · decide
  · exact visible_twoDigits second

theorem isToken_of_visible {s : Str} (nonempty : s ≠ []) (visible : ∀ b ∈ s, Visible b) : IsToken s :=
  ⟨nonempty, fun b member => (visible b member).2⟩

/-! The announcement as a whole. -/

namespace CIRCDDB

/-- The lengths that `sendHeardWithTXMsg` asks for. -/
structure Sized (heard : Heard) : Prop where
  myCall : heard.myCall.length = 8
  myCallExt : heard.myCallExt.length = 4
  yourCall : heard.yourCall.length = 8
  rpt1 : heard.rpt1.length = 8
  rpt2 : heard.rpt2.length = 8
  destination : heard.destination = [] ∨ heard.destination.length = 8

/-- The destination that is announced. -/
def announced (heard : Heard) : Str :=
  if heard.destination = [] then str "        " else heard.destination

/-- The tokens of the announcement. -/
def heardTokens (tm : Calendar.Tm) (heard : Heard) : List Str :=
  [str "UPDATE", dateText tm, clockText tm, underScored heard.myCall, underScored heard.rpt1, str "0",
    underScored heard.rpt2, underScored heard.yourCall, hexByte heard.flags.1, hexByte heard.flags.2.1,
    hexByte heard.flags.2.2, underScored heard.myCallExt, str "00", underScored (announced heard)] ++
    if heard.txMessage.length = 20 then [txText heard.txMessage] else []

theorem length_txText {tx_message : Str} : (txText tx_message).length = 20 ↔ tx_message.length = 20 := by
  unfold txText
  split
  · rename_i whole
    simp [whole]
  · rename_i other
    simp [other]

theorem heardText_eq (time : Calendar.Tm) (heard : Heard) :
    IRCDDBApp.heardText (dateText time ++ 32 :: clockText time)
        { heard with destination := announced heard, txMessage := txText heard.txMessage } [] =
      restOfLine (heardTokens time heard) := by
  have update : str "UPDATE " = str "UPDATE" ++ [32] := by decide +kernel
  have blank : str " " = [32] := by decide +kernel
  have table : str "0 " = str "0" ++ [32] := by decide +kernel
  have zeros : str " 00 " = 32 :: str "00" ++ [32] := by decide +kernel
  simp only [IRCDDBApp.heardText, List.length_nil, gt_iff_lt, Nat.lt_irrefl, if_false, length_txText, heardTokens,
    update, blank, table, zeros]
  split <;> simp [restOfLine]

theorem isToken_heardTokens {tm : Calendar.Tm} {heard : Heard} (sized : Sized heard) :
    ∀ t ∈ heardTokens tm heard, IsToken t := by
  have given {s : Str} (long : s.length ≠ 0) : IsToken (underScored s) := by
    refine isToken_of_visible (fun none => long ?_) fun b => visible_underScored
    rw [← length_underScored, none]
    rfl
  have number (b : UInt8) : IsToken (hexByte b) := isToken_of_visible (by simp [hexByte]) fun c => visible_hexByte
  have destination : (announced heard).length = 8 := by
    unfold announced
    split
    · decide +kernel
    · rename_i other
      exact sized.destination.resolve_left other
  intro t member
  rcases List.mem_append.mp member with front | last
  · simp only [List.mem_cons, List.not_mem_nil, or_false] at front
    rcases front with rfl | rfl | rfl | rfl | rfl | rfl | rfl | rfl | rfl | rfl | rfl | rfl | rfl | rfl
    · exact IRCDDBApp.isToken_update
    · exact isToken_of_visible (by simp [dateText]) visible_dateText
    · exact isToken_of_visible (by simp [clockText]) visible_clockText
    · exact given (by rw [sized.myCall]; decide)
    · exact given (by rw [sized.rpt1]; decide)
    · exact ⟨by decide, by decide +kernel⟩
    · exact given (by rw [sized.rpt2]; decide)
    · exact given (by rw [sized.yourCall]; decide)
    · exact number _
    · exact number _
    · exact number _
    · exact given (by rw [sized.myCallExt]; decide)
    · exact ⟨by decide, by decide +kernel⟩
    · exact given (by rw [destination]; decide)
  · split at last
    · rename_i whole
      rw [List.mem_singleton.mp last]
      refine isToken_of_visible (fun none => ?_) fun b => visible_txText
      have long := length_txText.mpr whole
      rw [none] at long
      cases long
    · cases last

theorem visible_heardTokens {tm : Calendar.Tm} {heard : Heard} {t : Str} {b : UInt8}
    (listed : t ∈ heardTokens tm heard) (inside : b ∈ t) : Visible b := by
  have texts : ∀ t ∈ [str "UPDATE", str "0", str "00"], ∀ b ∈ t, Visible b := by decide +kernel
  rcases List.mem_append.mp listed with front | last
  · simp only [List.mem_cons, List.not_mem_nil, or_false] at front
    rcases front with rfl | rfl | rfl | rfl | rfl | rfl | rfl | rfl | rfl | rfl | rfl | rfl | rfl | rfl
    · exact texts _ (by simp) b inside
    · exact visible_dateText b inside
    · exact visible_clockText b inside
    · exact visible_underScored inside
    · exact visible_underScored inside
    · exact texts _ (by simp) b inside
    · exact visible_underScored inside
    · exact visible_underScored inside
    · exact visible_hexByte inside
    · exact visible_hexByte inside
    · exact visible_hexByte inside
    · exact visible_underScored inside
    · exact texts _ (by simp) b inside
    · exact visible_underScored inside
  · split at last
    · rw [List.mem_singleton.mp last] at inside
      exact visible_txText inside
    · cases last

theorem mem_restOfLine {l : List Str} {b : UInt8} (member : b ∈ restOfLine l) : b = 32 ∨ ∃ t ∈ l, b ∈ t := by
  induction l with
  | nil => cases member
  | cons t l ih =>
      cases l with
      | nil => exact .inr ⟨t, List.mem_cons_self, member⟩
      | cons u l =>
          rcases List.mem_append.mp member with here | later
          · exact .inr ⟨t, List.mem_cons_self, here⟩
          · rcases List.mem_cons.mp later with blank | later
            · exact .inl blank
            · exact (ih later).imp_right fun found => found.imp fun v inside =>
                ⟨List.mem_cons_of_mem t inside.1, inside.2⟩

theorem length_restOfLine {l : List Str} (nonempty : l ≠ []) :
    (restOfLine l).length + 1 = (l.map List.length).sum + l.length := by
  induction l with
  | nil => exact absurd rfl nonempty
  | cons t l ih =>
      cases l with
      | nil => simp [restOfLine]
      | cons u l =>
          have later := ih (List.cons_ne_nil u l)
          simp only [restOfLine, List.length_append, List.length_cons, List.map_cons, List.sum_cons] at later ⊢
          omega

theorem length_heardTokens {tm : Calendar.Tm} {heard : Heard} (sized : Sized heard) :
    (restOfLine (heardTokens tm heard)).length ≤ 93 + (dateText tm).length + (clockText tm).length := by
  have destination : (announced heard).length = 8 := by
    unfold announced
    split
    · decide +kernel
    · rename_i other
      exact sized.destination.resolve_left other
  have update : (str "UPDATE").length = 6 := by decide +kernel
  have table : (str "0").length = 1 := by decide +kernel
  have zeros : (str "00").length = 2 := by decide +kernel
  have bytes (b : UInt8) : (hexByte b).length = 2 := rfl
  have total := length_restOfLine (l := heardTokens tm heard) (by simp [heardTokens])
  have counted : ((heardTokens tm heard).map List.length).sum + (heardTokens tm heard).length ≤
      94 + (dateText tm).length + (clockText tm).length := by
    unfold heardTokens
    split
    · rename_i whole
      simp only [List.cons_append, List.nil_append, List.map_cons, List.map_nil, List.sum_cons, List.sum_nil,
        List.length_cons, List.length_nil, length_underScored, bytes, update, table, zeros, sized.myCall,
        sized.rpt1, sized.rpt2, sized.yourCall, sized.myCallExt, destination, length_txText.mpr whole]
      omega
    · simp only [List.append_nil, List.map_cons, List.map_nil, List.sum_cons, List.sum_nil,
        List.length_cons, List.length_nil, length_underScored, bytes, update, table, zeros, sized.myCall,
        sized.rpt1, sized.rpt2, sized.yourCall, sized.myCallExt, destination]
      omega
  omega

/-- What has been announced. -/
structure Announced (app : IRCDDBApp) (now : Int) (heard : Heard) (text : Str) : Prop where
  sized : Sized heard
  server : app.currentServer ≠ []
  told : text = restOfLine (heardTokens (Calendar.breakdown now) heard)
  short : text.length ≤ 116

/-- A call that is refused sends nothing. -/
theorem silent_of_refused {app : IRCDDBApp} {now : Int} {heard : Heard} {ms : List IRCMessage}
    (refused : sendHeardWithTXMsg app now heard = .ok (false, ms)) : ms = [] := by
  unfold sendHeardWithTXMsg IRCDDBApp.sendHeard at refused
  dsimp only at refused
  repeat' split at refused
  all_goals cases refused
  all_goals rfl

theorem announced_of_sent {app : IRCDDBApp} {now : Int} {heard : Heard} {ms : List IRCMessage}
    (sent : sendHeardWithTXMsg app now heard = .ok (true, ms)) :
    ∃ text, ms = [.privmsg app.currentServer text] ∧ Announced app now heard text := by
  unfold sendHeardWithTXMsg at sent
  split at sent
  · cases sent
  rename_i myCall
  split at sent
  · cases sent
  rename_i myCallExt
  split at sent
  · cases sent
  rename_i yourCall
  split at sent
  · cases sent
  rename_i rpt1
  split at sent
  · cases sent
  rename_i rpt2
  have chosen : (if heard.destination = [] then str "        " else heard.destination) = announced heard := rfl
  simp only [chosen] at sent
  split at sent
  · cases sent
  rename_i destination
  have sized : Sized heard := by
    refine ⟨not_not.mp myCall, not_not.mp myCallExt, not_not.mp yourCall, not_not.mp rpt1, not_not.mp rpt2, ?_⟩
    by_cases empty : heard.destination = []
    · exact .inl empty
    · rw [announced, if_neg empty] at destination
      exact .inr (not_not.mp destination)
  unfold IRCDDBApp.sendHeard at sent
  split at sent
  · rename_i ready
    split at sent
    · cases sent
    · rename_i time known
      cases sent
      obtain ⟨rfl, room⟩ := getCurrentTime_eq_some known
      rw [heardText_eq]
      refine ⟨_, rfl, sized, ready.1, rfl, ?_⟩
      have long : (restOfLine (heardTokens (Calendar.breakdown now) heard)).length ≤ _ := length_heardTokens sized
      simp only [List.length_append, List.length_cons] at room
      omega
  · cases sent

end CIRCDDB

/-! The message on the way to the server. -/

namespace IRCDDBApp

/-- The current server is one that has joined. -/
theorem currentServer_joined {m : Int} {c : CacheManager} {tr : List AppEntry} {a : IRCDDBApp}
    (run : AppRun m c tr a) : a.currentServer = [] ∨
      CacheManager.isServer a.currentServer = true ∧ ∃ x ∈ tr, Names a.currentServer x := by
  induction run with
  | nil => exact .inl rfl
  | @snoc tr s e s' o before last ih =>
      have still (same : s'.currentServer = s.currentServer) : s'.currentServer = [] ∨
          CacheManager.isServer s'.currentServer = true ∧ ∃ x ∈ tr ++ [⟨s, e, o, s'⟩], Names s'.currentServer x := by
        rw [same]
        exact ih.imp_right fun known => known.imp_right fun joined => joined.imp fun x inside =>
          ⟨List.mem_append_left _ inside.1, inside.2⟩
      cases step_case last with
      | entry order _ _ case =>
          cases case with
          | choose state queue found =>
              -- the search returns a name that is filed, and a filed one has joined
              have server : CacheManager.isServer (s.cache.findServerUser order) = true := by
                unfold CacheManager.findServerUser at found ⊢
                cases search : (s.cache.names order).find? CacheManager.isServer with
                | none =>
                    rw [search] at found
                    exact absurd rfl found
                | some other => exact List.find?_some search
              have filed := (CacheManager.exists_findServerUser_iff server).mp ⟨order, rfl⟩
              obtain ⟨first, x, later, split, joins, -⟩ := (filed_since before server).mp filed
              exact .inr ⟨server, x, by simp [split], joins⟩
          | _ => exact still rfl
      | serverLeft nick server => exact .inl rfl
      | joined nick name addr =>
          apply still
          unfold userJoin
          split <;> rfl
      | update e msg text =>
          apply still
          unfold doUpdate storeRow
          split
          · split
            · split <;> rfl
            · split <;> rfl
          · rfl
      | _ => exact still rfl

end IRCDDBApp

namespace CIRCDDB
open IRCDDBApp

theorem inLine_of_announced {app : IRCDDBApp} {now : Int} {heard : Heard} {text : Str}
    (announced : Announced app now heard text) : ∀ b ∈ text, WireMessage.InLine b := by
  intro b member
  rw [announced.told] at member
  rcases mem_restOfLine member with rfl | ⟨t, listed, inside⟩
  · decide
  · exact (visible_heardTokens listed inside).1

theorem wellFormed_announcement {server text : Str} (word : WireMessage.Word server)
    (form : CacheManager.isServer server = true) (inLine : ∀ b ∈ text, WireMessage.InLine b) :
    (IRCMessage.privmsg server text).wire.WellFormed where
  origin := by simp [IRCMessage.privmsg, IRCMessage.wire, WireMessage.Word]
  command := by
    have word : WireMessage.Word (str "PRIVMSG") := by decide +kernel
    exact word
  named := by
    have named : str "PRIVMSG" ≠ [] := by decide +kernel
    exact named
  plain := by
    have plain : (str "PRIVMSG").head? ≠ some 58 := by decide +kernel
    exact plain
  counted := rfl
  few := by simp [IRCMessage.privmsg, IRCMessage.wire]
  earlier := by
    intro p member
    obtain rfl : p = server := by simpa [IRCMessage.privmsg, IRCMessage.wire] using member
    refine ⟨word, ?_⟩
    rintro colon
    have begins : p.take 2 = str "s-" := of_decide_eq_true form
    cases p with
    | nil => cases colon
    | cons b rest =>
        cases colon
        have first := congrArg List.head? begins
        have other : (str "s-").head? = some 115 := by decide +kernel
        rw [other] at first
        simp at first
  last := by
    intro p member b inside
    have listed : p = server ∨ p = text := by simpa [IRCMessage.privmsg, IRCMessage.wire] using member
    rcases listed with rfl | rfl
    · exact (word b inside).1
    · exact inLine b inside

/-- An announcement has room in the buffer of the sender where the server's name has up to 71
characters. -/
theorem fits_announcement {server text : Str} (word : WireMessage.Word server)
    (inLine : ∀ b ∈ text, WireMessage.InLine b) (room : text.length ≤ 116) (short : server.length ≤ 71) :
    (IRCMessage.privmsg server text).Fits := by
  rw [IRCMessage.fits_iff]
  have line : (IRCMessage.privmsg server text).wire.line =
      str "PRIVMSG" ++ 32 :: (server ++ 32 :: 58 :: (text ++ [13, 10])) := by
    simp [IRCMessage.privmsg, IRCMessage.wire, WireMessage.line, WireMessage.originText, WireMessage.paramText]
  have command : (str "PRIVMSG").length = 7 := by decide +kernel
  rw [line]
  constructor
  · simp only [List.length_append, List.length_cons, List.length_nil, command]
    omega
  · intro zero
    have absent : (0 : UInt8) ∉ str "PRIVMSG" := by decide +kernel
    simp only [List.mem_append, List.mem_cons, List.not_mem_nil, or_false] at zero
    rcases zero with named | blank | server | blank | colon | texts | cr | lf
    · exact absent named
    · cases blank
    · exact absurd (word 0 server).1.1.1 (by decide)
    · cases blank
    · cases colon
    · exact absurd (inLine 0 texts).1.1 (by decide)
    · cases cr
    · cases lf

/-- A call that returns has announced nothing, or, whatever bytes the callsigns and the text have,
a single line to the server that has been chosen, of the tokens that stand for them. -/
theorem announcement_safe {m : Int} {c : CacheManager} {tr : List AppEntry} {a : IRCDDBApp}
    (run : AppRun m c tr a) (network : JoinsFromNetwork tr) {now : Int} {heard : Heard} {said : Bool}
    {ms : List IRCMessage} (returned : sendHeardWithTXMsg a now heard = .ok (said, ms)) :
    said = false ∧ ms = [] ∨
      said = true ∧ ∃ server text, ms = [.privmsg server text] ∧ (∃ x ∈ tr, Names server x) ∧
        stringTokenizer text = heardTokens (Calendar.breakdown now) heard ∧
        (IRCMessage.privmsg server text).wire.WellFormed ∧
        (server.length ≤ 71 → (IRCMessage.privmsg server text).Fits) := by
  cases said with
  | false => exact .inl ⟨rfl, silent_of_refused returned⟩
  | true =>
      obtain ⟨text, rfl, announced⟩ := announced_of_sent returned
      obtain ⟨form, x, member, joined⟩ := (currentServer_joined run).resolve_left announced.server
      have word := word_of_names network member joined
      have inLine := inLine_of_announced announced
      refine .inr ⟨rfl, _, text, rfl, ⟨x, member, joined⟩, ?_, wellFormed_announcement word form inLine,
        fits_announcement word inLine announced.short⟩
      rw [announced.told]
      exact stringTokenizer_restOfLine (isToken_heardTokens announced.sized)

section
open Sample

/-- A call with a line break, a zero and a small letter in it. -/
def breakingCall : Heard where
  myCall := [65, 13, 10, 0, 98, 49, 32, 32]
  myCallExt := str "    "
  yourCall := str "CQCQCQ  "
  rpt1 := str "GRP1   B"
  rpt2 := str "GRP1   G"
  flags := (0, 255, 26)
  destination := []
  txMessage := str "text with\r\na newline"

def breakingText : Str :=
  str "UPDATE 2024-05-01 10:00:00 A____1__ GRP1___B 0 GRP1___G CQCQCQ__ 00 FF 1A ____ 00 ________ text_with__a_newline"

/-- The server's join as it comes from the network. -/
def joinLine : Str := str ":s-grp1s1!s-grp1s1@10.0.0.1 JOIN #dstar\r\n"

theorem server_joins : FromNetwork (.userJoin ircServer ircServer (str "10.0.0.1")) := by
  have read : IRCReceiver.entry [joinLine] =
      .ok (.idle [⟨str "s-grp1s1!s-grp1s1@10.0.0.1", str "JOIN", [str "#dstar"], 1⟩]) := by decide +kernel
  exact ⟨_, _, read, _, fun m member => member, client, 0, by decide +kernel⟩

theorem breaking_call_announced : ∃ tr a, AppRun 950000000 .empty tr a ∧
    sendHeardWithTXMsg a 1714557600 breakingCall = .ok (true, [.privmsg ircServer breakingText]) ∧
    (IRCMessage.privmsg ircServer breakingText).wire.WellFormed ∧
    (IRCMessage.privmsg ircServer breakingText).Fits := by
  obtain ⟨tr, a, run, checked⟩ := Sample.appRun 950000000 .empty (connect ++ complete)
    (fun tr a => decide (tr.map (·.event) = connect ++ complete) &&
      decide (sendHeardWithTXMsg a 1714557600 breakingCall = .ok (true, [.privmsg ircServer breakingText])))
    (by decide +kernel)
  simp only [Bool.and_eq_true, decide_eq_true_eq] at checked
  obtain ⟨events, sent⟩ := checked
  have network : JoinsFromNetwork tr := by
    intro x member nick name addr joins
    have listed : x.event ∈ connect ++ complete := events ▸ List.mem_map_of_mem member
    rw [joins] at listed
    have server : nick = ircServer ∧ name = ircServer ∧ addr = str "10.0.0.1" := by
      simpa [connect, complete] using listed
    obtain ⟨rfl, rfl, rfl⟩ := server
    exact server_joins
  obtain ⟨refused, -⟩ | ⟨-, server, text, same, -, -, formed, fits⟩ := announcement_safe run network sent
  · cases refused
  · cases same
    exact ⟨tr, a, run, sent, formed, fits (by decide +kernel)⟩

end

end CIRCDDB

end SmartGroup
