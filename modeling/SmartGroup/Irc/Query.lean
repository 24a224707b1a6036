import SmartGroup.Irc.Requests

/-! A row comes as the text of a message to the channel, or behind `UPDATE` in a private
one, whose tokens are put together again with single blanks before they are parsed. The
parse of its time reads a member that nothing sets. -/
namespace SmartGroup
open Bytes

theorem stringTokenizer_again (s : Str) :
    stringTokenizer (restOfLine (stringTokenizer s)) = stringTokenizer s :=
  stringTokenizer_restOfLine fun _ member => isToken_of_mem member

/-- A word and a blank in front of a text give one token more. -/
theorem stringTokenizer_word {word : Str} (token : IsToken word) (s : Str) :
    stringTokenizer (word ++ 32 :: s) = word :: stringTokenizer s := by
  obtain ⟨nonempty, plain⟩ := token
  have blank : isSpace 32 = true := rfl
  rw [stringTokenizer, tokensFrom_append plain]
  simp [tokensFrom, stringTokenizer, nonempty, blank]

namespace IRCDDBApp

theorem rowOf_again (s : Str) : rowOf (restOfLine (stringTokenizer s)) = rowOf s := by
  unfold rowOf
  rw [stringTokenizer_again]

theorem doUpdate_again (a : IRCDDBApp) (tm_isdst : Int) (s : Str) :
    a.doUpdate tm_isdst (restOfLine (stringTokenizer s)) = a.doUpdate tm_isdst s := by
  unfold doUpdate
  rw [rowOf_again]

theorem isToken_update : IsToken (str "UPDATE") := ⟨by decide, by decide +kernel⟩

section
variable {query channel : IRCMessage} {s : Str}

/-- A server's private message with a row is an update with the text behind the command. -/
theorem msgQuery_update (a : IRCDDBApp) (asks : query.getPrefixNick.take 2 = str "s-")
    (asked : query.params[1]? = some (str "UPDATE" ++ 32 :: s)) (tm_isdst : Int) :
    a.msgQuery query tm_isdst = (a.doUpdate tm_isdst s, []) := by
  have asked : serverText query = some (str "UPDATE" ++ 32 :: s) := (if_pos asks).trans asked
  simp only [msgQuery, asked, stringTokenizer_word isToken_update, if_true, doUpdate_again]

/-- Its message to the channel is an update with the whole text. -/
theorem msgChannel_update (a : IRCDDBApp) (tells : channel.getPrefixNick.take 2 = str "s-")
    (told : channel.params[1]? = some s) (tm_isdst : Int) :
    a.msgChannel channel tm_isdst = a.doUpdate tm_isdst s := by
  have told : serverText channel = some s := (if_pos tells).trans told
  simp only [msgChannel, told]

end

/-- What the member holds does not matter for the cache. -/
theorem doUpdate_cache (a : IRCDDBApp) (q c : Int) (s : Str) :
    (a.doUpdate q s).cache = (a.doUpdate c s).cache := by
  unfold doUpdate storeRow
  repeat' split
  all_goals rfl

/-- A clock that has been put forward shows the time an hour early. -/
theorem rtime_eq (row : Row) (tm_isdst : Int) :
    row.rtime tm_isdst = row.rtime 0 - if 0 < tm_isdst then 3600 else 0 := by
  simp [Row.rtime, parseTime, mktime]

/-- Two parses leave the same newest time exactly when both clocks stand alike or the row is not
newer than the newest one. -/
theorem max_rtime_iff (t : Int) (row : Row) (q c : Int) :
    max t (row.rtime q) = max t (row.rtime c) ↔ (0 < q ↔ 0 < c) ∨ row.rtime 0 ≤ t := by
  rw [rtime_eq row q, rtime_eq row c]
  split <;> split <;> omega

/-- A server's private message with a row does to the cache and to `maxTime` what its message to
the channel does exactly when the two parses of the time find the clock alike in `tm_isdst`, or
there is no row that is newer than all before. -/
theorem query_as_channel_iff (a : IRCDDBApp) (query channel : IRCMessage) (s : Str)
    (asks : query.getPrefixNick.take 2 = str "s-")
    (asked : query.params[1]? = some (str "UPDATE" ++ 32 :: s))
    (tells : channel.getPrefixNick.take 2 = str "s-") (told : channel.params[1]? = some s) (q c : Int) :
    ((a.msgQuery query q).1.cache = (a.msgChannel channel c).cache ∧
        (a.msgQuery query q).1.maxTime = (a.msgChannel channel c).maxTime) ↔
      (0 < q ↔ 0 < c) ∨ ∀ row, rowOf s = some row → a.StoresRepeater row → row.rtime 0 ≤ a.maxTime := by
  rw [msgQuery_update a asks asked, msgChannel_update a tells told, and_iff_right (a.doUpdate_cache q c s)]
  unfold doUpdate
  cases rowOf s with
  | none => simp
  | some row =>
      simp only [storeRow_maxTime, Option.some.injEq, forall_eq']
      by_cases newer : a.StoresRepeater row
      · rw [if_pos newer, if_pos newer, max_rtime_iff]
        simp [newer]
      · rw [if_neg newer, if_neg newer]
        simp [newer]

section
open Sample

/-- The text of a row with blanks of all kinds, in the two messages. -/
def spacedQuery : IRCMessage := fromServer "UPDATE \t1 2024-05-01   10:00:00 AB1CDE_B\nZZ9ZZZ_G "

def spacedChannel : IRCMessage :=
  ⟨str "s-grp1s1!s-grp1s1@grp", str "PRIVMSG",
    [str "#dstar", str "\t1 2024-05-01   10:00:00 AB1CDE_B\nZZ9ZZZ_G "]⟩

/-- The row is stored on both ways, an hour early. -/
theorem spaced_row_as_channel :
    (standby.msgQuery spacedQuery 1).1.maxTime = 1714554000 ∧
      (standby.msgQuery spacedQuery 1).1.cache = (standby.msgChannel spacedChannel 32).cache ∧
      (standby.msgQuery spacedQuery 1).1.maxTime = (standby.msgChannel spacedChannel 32).maxTime :=
  ⟨by decide +kernel, (query_as_channel_iff standby spacedQuery spacedChannel _ (by decide) rfl (by decide) rfl
    1 32).mpr (.inl (by decide))⟩

/-- The same row, parsed with a positive content of the member on one way only. -/
theorem row_an_hour_apart :
    (∃ s, spacedQuery.params[1]? = some (str "UPDATE" ++ 32 :: s) ∧ spacedChannel.params[1]? = some s) ∧
      spacedQuery.getPrefixNick.take 2 = str "s-" ∧ spacedChannel.getPrefixNick.take 2 = str "s-" ∧
      (standby.msgQuery spacedQuery 1).1.maxTime = 1714554000 ∧
      (standby.msgChannel spacedChannel 0).maxTime = 1714557600 :=
  ⟨⟨_, rfl, rfl⟩, by decide +kernel⟩

end

end IRCDDBApp
end SmartGroup
