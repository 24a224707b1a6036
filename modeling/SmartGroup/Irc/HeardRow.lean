import SmartGroup.Irc.Heard

/-! What the application of another server makes of an announcement: the first tokens behind the
command are a row of the table of users. -/
namespace SmartGroup
open Bytes Machine

/-- A user is found at the repeater of the last update. -/
theorem CacheManager.updateUser_findUserRptr (c : CacheManager) {user rptr : Str} (time : Str)
    (named : user ≠ []) (known : rptr ≠ []) : (c.updateUser user rptr [] [] time).findUserRptr user = rptr := by
  simp only [updateUser, findUserRptr, if_neg named, if_neg known, true_or, if_true]
  split <;> simp

/-- The callsign that the others read. -/
def heardCall (s : Str) : Str := s.map fun b => if (65 ≤ b && b ≤ 90) || isDigit b then b else 32

theorem callsignOf_underScored {s : Str} (plain : 47 ∉ s) : callsignOf (underScored s) = heardCall s := by
  rw [callsignOf, replaceChar, underScored_eq, List.map_map, heardCall]
  apply List.map_congr_left
  intro b member
  have apart : b ≠ 47 := fun slash => plain (slash ▸ member)
  simp only [Function.comp_apply, heardChar, beq_eq_false_iff_ne.mpr apart, Bool.or_false]
  by_cases letter : ((65 ≤ b && b ≤ 90) || isDigit b) = true
  · have other : b ≠ 95 := by
      rintro rfl
      exact absurd letter (by decide)
    simp only [letter, Bool.true_or, if_true, if_neg other]
  · have letter := Bool.eq_false_of_not_eq_true letter
    simp only [letter, Bool.false_or, Bool.false_eq_true, if_false]
    split <;> rename_i under
    · simp [beq_iff_eq.mp under]
    · rfl

/-- A slash is announced, but is not read. -/
theorem dbPattern_underScored {s : Str} (eight : s.length = 8) : dbPattern (underScored s) = true ↔ 47 ∉ s := by
  have char (b : UInt8) : dbChar (if heardChar b then b else 95) = true ↔ b ≠ 47 := by
    constructor
    · rintro known rfl
      exact absurd known (by decide)
    · intro apart
      split
      · rename_i heard
        simpa [heardChar, dbChar, apart, or_comm] using heard
      · rfl
  rw [dbPattern, length_underScored, eight, underScored_eq, List.all_map]
  simp only [beq_self_eq_true, Bool.true_and, List.all_eq_true, Function.comp_apply, char]
  exact ⟨fun all member => all 47 member rfl, fun absent b member slash => absent (slash ▸ member)⟩

theorem heardCall_eq_self {s : Str} (plain : ∀ b ∈ s, b = 32 ∨ (65 ≤ b && b ≤ 90) = true ∨ isDigit b = true) :
    heardCall s = s := by
  refine (List.map_congr_left fun b member => ?_).trans (List.map_id s)
  rcases plain b member with rfl | letter | digit
  · rfl
  · simp [letter]
  · simp [digit]

/-! The date and the time of day have the form that is asked for in this century. -/

theorem signed_century {year : Int} (low : 2000 ≤ year) (high : year ≤ 2099) :
    ∃ y z, Calendar.signed year = [50, 48, y, z] ∧ isDigit y = true ∧ isDigit z = true := by
  have all : ∀ k : Fin 100, Calendar.signed (2000 + (k : Nat)) =
      [50, 48, UInt8.ofNat (48 + k / 10), UInt8.ofNat (48 + k % 10)] ∧
      isDigit (UInt8.ofNat (48 + k / 10)) = true ∧ isDigit (UInt8.ofNat (48 + k % 10)) = true := by
    decide +kernel
  have here := all ⟨(year - 2000).toNat, by omega⟩
  have same : 2000 + ((year - 2000).toNat : Int) = year := by omega
  rw [same] at here
  exact ⟨_, _, here⟩

theorem datePattern_dateText {tm : Calendar.Tm} (century : 2000 ≤ tm.year ∧ tm.year ≤ 2099)
    (month : 1 ≤ tm.mon ∧ tm.mon ≤ 12) (day : 1 ≤ tm.mday ∧ tm.mday ≤ 31) : datePattern (dateText tm) = true := by
  obtain ⟨y, z, year, tens, ones⟩ := signed_century century.1 century.2
  have months : ∀ k : Fin 12, ∃ m n, Calendar.twoDigits (1 + (k : Nat)) = [m, n] ∧
      (m == 49 && (48 ≤ n && n ≤ 50) || m == 48 && (49 ≤ n && n ≤ 57)) = true := by
    intro k
    refine ⟨_, _, rfl, ?_⟩
    revert k
    decide +kernel
  have days : ∀ k : Fin 31, ∃ d f, Calendar.twoDigits (1 + (k : Nat)) = [d, f] ∧
      (d == 51 && (f == 48 || f == 49) || (d == 49 || d == 50) && isDigit f ||
        d == 48 && (49 ≤ f && f ≤ 57)) = true := by
    intro k
    refine ⟨_, _, rfl, ?_⟩
    revert k
    decide +kernel
  have mon : 1 + ((tm.mon - 1).toNat : Int) = tm.mon := by omega
  have mday : 1 + ((tm.mday - 1).toNat : Int) = tm.mday := by omega
  obtain ⟨m, n, monthText, monthForm⟩ := months ⟨(tm.mon - 1).toNat, by omega⟩
  obtain ⟨d, f, dayText, dayForm⟩ := days ⟨(tm.mday - 1).toNat, by omega⟩
  rw [mon] at monthText
  rw [mday] at dayText
  rw [dateText, year, monthText, dayText]
  simp only [List.cons_append, List.nil_append, datePattern, tens, ones, monthForm, dayForm]
  rfl

theorem timePattern_clockText {tm : Calendar.Tm} (hour : 0 ≤ tm.hour ∧ tm.hour ≤ 23)
    (min : 0 ≤ tm.min ∧ tm.min ≤ 59) (sec : 0 ≤ tm.sec ∧ tm.sec ≤ 59) : timePattern (clockText tm) = true := by
  have hours : ∀ k : Fin 24, ∃ h i, Calendar.twoDigits (k : Nat) = [h, i] ∧
      (h == 50 && (48 ≤ i && i ≤ 51) || (h == 48 || h == 49) && isDigit i) = true := by
    intro k
    refine ⟨_, _, rfl, ?_⟩
    revert k
    decide +kernel
  have sixty : ∀ k : Fin 60, ∃ m n, Calendar.twoDigits (k : Nat) = [m, n] ∧
      (48 ≤ m && m ≤ 53) = true ∧ isDigit n = true := by
    intro k
    refine ⟨_, _, rfl, ?_⟩
    revert k
    decide +kernel
  have hh : (tm.hour.toNat : Int) = tm.hour := by omega
  have mm : (tm.min.toNat : Int) = tm.min := by omega
  have ss : (tm.sec.toNat : Int) = tm.sec := by omega
  obtain ⟨h, i, hourText, hourForm⟩ := hours ⟨tm.hour.toNat, by omega⟩
  obtain ⟨m, n, minText, minTens, minOnes⟩ := sixty ⟨tm.min.toNat, by omega⟩
  obtain ⟨c, d, secText, secTens, secOnes⟩ := sixty ⟨tm.sec.toNat, by omega⟩
  rw [hh] at hourText
  rw [mm] at minText
  rw [ss] at secText
  rw [clockText, hourText, minText, secText]
  simp only [List.cons_append, List.nil_append, timePattern, hourForm, minTens, minOnes, secTens, secOnes]
  rfl

theorem breakdown_forms (now : Int)
    (century : 2000 ≤ (Calendar.breakdown now).year ∧ (Calendar.breakdown now).year ≤ 2099) :
    datePattern (dateText (Calendar.breakdown now)) = true ∧
      timePattern (clockText (Calendar.breakdown now)) = true := by
  have rest := Calendar.dayOfYear_bounds ((now / 86400 + 719468) % 146097)
  obtain ⟨months, days⟩ := Calendar.dateOf_bounds
    (y := 400 * ((now / 86400 + 719468) / 146097) + Calendar.yearOfEra ((now / 86400 + 719468) % 146097))
    rest.1 rest.2
  refine ⟨datePattern_dateText century months days, timePattern_clockText ?_ ?_ ?_⟩
  all_goals simp only [Calendar.breakdown]; omega

namespace CIRCDDB
open IRCDDBApp

/-- The row that the first tokens of an announcement are. -/
theorem rowOf_announcement {now : Int} {heard : Heard} (sized : Sized heard)
    (century : 2000 ≤ (Calendar.breakdown now).year ∧ (Calendar.breakdown now).year ≤ 2099) :
    (rowOf (restOfLine (heardTokens (Calendar.breakdown now) heard).tail)).map
        (fun row => (row.tableID, row.tstr, callsignOf row.key, callsignOf row.value)) =
      if 47 ∈ heard.myCall ∨ 47 ∈ heard.rpt1 then none
      else some (0, Calendar.format (Calendar.breakdown now), heardCall heard.myCall, heardCall heard.rpt1) := by
  obtain ⟨date, time⟩ := breakdown_forms now century
  have tokens : stringTokenizer (restOfLine (heardTokens (Calendar.breakdown now) heard).tail) =
      (heardTokens (Calendar.breakdown now) heard).tail := stringTokenizer_restOfLine
    fun t member => isToken_heardTokens sized t (List.mem_of_mem_tail member)
  -- the date is no table's number
  have table : tablePattern (dateText (Calendar.breakdown now)) = none := by
    obtain ⟨y, z, year, -, -⟩ := signed_century century.1 century.2
    rw [dateText, year]
    rfl
  have behind : tableOf (heardTokens (Calendar.breakdown now) heard).tail =
      some (0, (heardTokens (Calendar.breakdown now) heard).tail) := by
    simp only [heardTokens, List.cons_append, List.tail_cons, tableOf, table]
  unfold rowOf
  rw [tokens, behind]
  simp only [heardTokens, List.cons_append, List.tail_cons, date, time, dbPattern_underScored sized.myCall,
    dbPattern_underScored sized.rpt1, true_and]
  by_cases slash : 47 ∈ heard.myCall ∨ 47 ∈ heard.rpt1
  · rw [dif_neg (by tauto), if_pos slash]
    rfl
  · have plain := not_or.mp slash
    rw [dif_pos plain, if_neg slash]
    simp only [Option.map_some, callsignOf_underScored plain.1, callsignOf_underScored plain.2, ← format_eq]

/-- What is announced is read back: another application that is ready and gets the text from a
server notes that the user was heard at the repeater at that time, with blanks for all characters
that are neither letters nor digits, or nothing at all when there is a slash in either. -/
theorem announcement_read_back {app : IRCDDBApp} {now : Int} {heard : Heard} {ms : List IRCMessage}
    (sent : sendHeardWithTXMsg app now heard = .ok (true, ms))
    (century : 2000 ≤ (Calendar.breakdown now).year ∧ (Calendar.breakdown now).year ≤ 2099)
    {server text : Str} (said : .privmsg server text ∈ ms) {other : IRCDDBApp} (ready : other.initReady = true)
    {m : IRCMessage} (relayed : m.getPrefixNick.take 2 = str "s-") (told : m.params[1]? = some text)
    (tm_isdst : Int) : other.msgQuery m tm_isdst =
        (if 47 ∈ heard.myCall ∨ 47 ∈ heard.rpt1 then other
          else { other with
            cache := other.cache.updateUser (heardCall heard.myCall) (heardCall heard.rpt1) [] []
              (Calendar.format (Calendar.breakdown now)) }, []) ∧
      ((∀ b ∈ heard.myCall ++ heard.rpt1, b = 32 ∨ (65 ≤ b && b ≤ 90) = true ∨ isDigit b = true) →
        (other.msgQuery m tm_isdst).1.cache.findUserRepeater heard.myCall = heard.rpt1) := by
  obtain ⟨_, rfl, announced⟩ := announced_of_sent sent
  cases List.mem_singleton.mp said
  have text : serverText m = some text := (if_pos relayed).trans told
  rw [announced.told] at text
  have tokens : stringTokenizer (restOfLine (heardTokens (Calendar.breakdown now) heard)) =
      heardTokens (Calendar.breakdown now) heard :=
    stringTokenizer_restOfLine (isToken_heardTokens announced.sized)
  have given : other.msgQuery m tm_isdst =
      (other.doUpdate tm_isdst (restOfLine (heardTokens (Calendar.breakdown now) heard).tail), []) := by
    unfold msgQuery
    rw [text]
    dsimp only
    rw [tokens]
    simp [heardTokens]
  have stored : other.doUpdate tm_isdst (restOfLine (heardTokens (Calendar.breakdown now) heard).tail) =
      if 47 ∈ heard.myCall ∨ 47 ∈ heard.rpt1 then other
      else { other with
        cache := other.cache.updateUser (heardCall heard.myCall) (heardCall heard.rpt1) [] []
          (Calendar.format (Calendar.breakdown now)) } := by
    have row := rowOf_announcement announced.sized century
    unfold doUpdate
    cases known : rowOf (restOfLine (heardTokens (Calendar.breakdown now) heard).tail) with
    | none =>
        rw [known] at row
        split at row
        · rename_i slash
          rw [if_pos slash]
        · cases row
    | some r =>
        rw [known] at row
        split at row
        · cases row
        · rename_i plain
          simp only [Option.map_some, Option.some.injEq, Prod.mk.injEq] at row
          obtain ⟨users, time, user, rptr⟩ := row
          simp [storeRow, users, ready, time, user, rptr, plain]
  rw [given, stored]
  refine ⟨by split <;> rfl, fun plain => ?_⟩
  have blank : ¬(47 ∈ heard.myCall ∨ 47 ∈ heard.rpt1) := by
    intro slash
    have known := plain 47 (List.mem_append.mpr slash)
    exact absurd known (by decide)
  have nonempty {s : Str} (eight : s.length = 8) : s ≠ [] := by
    rintro rfl
    cases eight
  rw [if_neg blank, heardCall_eq_self fun b member => plain b (List.mem_append_left _ member),
    heardCall_eq_self fun b member => plain b (List.mem_append_right _ member)]
  exact CacheManager.updateUser_findUserRptr _ _ (nonempty announced.sized.myCall) (nonempty announced.sized.rpt1)

section
open Sample

/-- The announcement that a group makes each hour. -/
def hourly : Heard where
  myCall := str "GRP1   B"
  myCallExt := str "    "
  yourCall := str "CQCQCQ  "
  rpt1 := str "XRF757 B"
  rpt2 := str "XRF757 G"
  flags := (0, 0, 0)
  destination := []
  txMessage := str "Smart Group Server  "

theorem hourly_read_back :
    ((standby.msgQuery (fromServer ("UPDATE 2024-05-01 10:00:00 GRP1___B XRF757_B 0 XRF757_G CQCQCQ__ " ++
      "00 00 00 ____ 00 ________ Smart_Group_Server__")) 1).1.cache.findUserRepeater (str "GRP1   B")) =
      str "XRF757 B" := by
  have sent : sendHeardWithTXMsg standby 1714557600 hourly = .ok (true, [.privmsg ircServer
      (str ("UPDATE 2024-05-01 10:00:00 GRP1___B XRF757_B 0 XRF757_G CQCQCQ__ " ++
        "00 00 00 ____ 00 ________ Smart_Group_Server__"))]) := by decide +kernel
  exact (announcement_read_back sent (by decide +kernel) (List.mem_singleton.mpr rfl) rfl (by decide +kernel)
    rfl 1).2 (by decide +kernel)

end

end CIRCDDB
end SmartGroup
