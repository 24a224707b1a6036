import SmartGroup.Irc.Login
import SmartGroup.Irc.Receiver
import SmartGroup.Irc.Servers

/-! The names that join. They come from messages of the network, in which a blank ends
everything but the last parameter, so that no name has one. -/
namespace SmartGroup
open Bytes Machine WireMessage

/-- What the receiver's message is made of: only the last parameter may have blanks. -/
structure WireMessage.Worded (m : WireMessage) : Prop where
  origin : Word m.origin
  earlier : ∀ p ∈ m.params.dropLast, Word p

theorem WireMessage.worded_new : WireMessage.new.Worded := ⟨by simp [new, Word], by simp [new]⟩

theorem word_snoc {s : Str} (word : Word s) {b : UInt8} (fits : InLine b) (other : b ≠ 32) : Word (s ++ [b]) := by
  intro c member
  rcases List.mem_append.mp member with earlier | last
  · exact word c earlier
  · rw [List.mem_singleton.mp last]
    exact ⟨fits, other⟩

/-- A byte goes to the end of the last parameter. -/
theorem WireMessage.Counted.pushed {m m' : WireMessage} (counted : m.Counted) {b : UInt8}
    (pushed : m.pushParam b = .ok m') :
    ∃ rest p, m.params = rest ++ [p] ∧ m' = { m with params := rest ++ [p ++ [b]] } := by
  rcases List.eq_nil_or_concat m.params with empty | ⟨rest, p, split⟩
  · rw [WireMessage.pushParam, if_pos (by rw [counted.1, empty]; rfl)] at pushed
    cases pushed
  · rw [List.concat_eq_append] at split
    have count : m.numParams = rest.length + 1 := by
      rw [counted.1, split]
      simp
    have found : m.param (m.numParams - 1) = .ok p := by simp [WireMessage.param, split, count]
    rw [WireMessage.pushParam, if_neg (by omega), found, ok_bind, count, Nat.add_sub_cancel, split] at pushed
    cases pushed
    exact ⟨rest, p, split, by simp [count]⟩

namespace IRCReceiver

/-- What the receiver keeps true of the words in its message, besides what it keeps of counters. -/
structure Wording (r : IRCReceiver) : Prop where
  sound : Sound r
  worded : r.m.Worded
  plain : r.state ≤ 3 → ∀ p ∈ r.m.params, Word p
  queued : ∀ m ∈ r.recvQ, m.Worded

variable {r r' : IRCReceiver}

theorem wording_start : Wording start where
  sound := sound_start
  worded := worded_new
  plain _ p member := by cases member
  queued m member := by cases member

/-- Before the parameters. -/
theorem Wording.before (wording : Wording r) (early : r.state ≤ 2) {origin command : Str} (word : Word origin)
    {state : Nat} (still : state ≤ 2) :
    Wording ⟨{ r.m with origin := origin, command := command }, state, r.recvQ⟩ where
  sound := wording.sound.before early origin command still
  worded := ⟨word, wording.worded.earlier⟩
  plain _ := wording.plain (by omega)
  queued := wording.queued

/-- A parameter ends where the next one begins. -/
theorem Wording.open (wording : Wording r) (early : r.state ≤ 3) {numParams state : Nat}
    (sound : Sound ⟨{ r.m with numParams := numParams, params := r.m.params ++ [[]] }, state, r.recvQ⟩) :
    Wording ⟨{ r.m with numParams := numParams, params := r.m.params ++ [[]] }, state, r.recvQ⟩ where
  sound := sound
  worded := by
    refine ⟨wording.worded.origin, fun p member => wording.plain early p ?_⟩
    simpa using member
  plain _ p member := by
    rcases List.mem_append.mp member with earlier | last
    · exact wording.plain early p earlier
    · rw [List.mem_singleton.mp last]
      simp [Word]
  queued := wording.queued

/-- A parameter takes a byte, which is no blank where it is not the last. -/
theorem Wording.push (wording : Wording r) {b : UInt8} {m : WireMessage} (pushed : r.m.pushParam b = .ok m)
    (sound : Sound { r with m := m }) (fits : InLine b) (other : r.state ≤ 3 → b ≠ 32) :
    Wording { r with m := m } := by
  obtain ⟨rest, p, split, rfl⟩ := wording.sound.counted.pushed pushed
  have earlier : ∀ q ∈ rest, Word q := by
    intro q member
    exact wording.worded.earlier q (by simpa [split] using member)
  refine ⟨sound, ⟨wording.worded.origin, by simpa using earlier⟩, ?_, wording.queued⟩
  intro early q member
  rcases List.mem_append.mp member with before | last
  · exact earlier q before
  · rw [List.mem_singleton.mp last]
    exact word_snoc (wording.plain early p (by simp [split])) fits (other early)

/-- A byte in a parameter that is not the last. -/
theorem Wording.param (wording : Wording r) {b : UInt8} (fits : InLine b) (state : r.state = 3)
    (parsed : r.parse b = .ok r') (sound : Sound r') : Wording r' := by
  have early : r.state ≤ 3 := by omega
  simp only [IRCReceiver.parse, state] at parsed
  split at parsed
  · cases parsed
    exact wording.open early sound
  · rename_i other
    obtain ⟨empty, tested⟩ := wording.sound.counted.paramEmpty (wording.sound.within (.inl state)).1
    obtain ⟨m, pushed, sound_pushed⟩ := wording.sound.push (.inl state) b
    have taken : Wording { r with m := m } := wording.push pushed sound_pushed fits fun _ => other
    rw [state] at taken
    rw [tested, pushed] at parsed
    by_cases colon : b = 58
    · rw [if_pos colon] at parsed
      cases empty with
      | true =>
          obtain rfl := Except.ok.inj parsed
          exact ⟨sound, wording.worded, by simp, wording.queued⟩
      | false =>
          obtain rfl := Except.ok.inj parsed
          exact taken
    · rw [if_neg colon] at parsed
      obtain rfl := Except.ok.inj parsed
      exact taken

theorem Wording.parse (wording : Wording r) {b : UInt8} (fits : InLine b) (parsed : r.parse b = .ok r') :
    Wording r' := by
  obtain ⟨_, known, sound⟩ := wording.sound.parse b
  obtain rfl := Except.ok.inj (known.symm.trans parsed)
  by_cases inParam : r.state = 3
  · exact wording.param fits inParam parsed sound
  unfold IRCReceiver.parse at parsed
  split at parsed
  · rename_i idle
    have early : r.state ≤ 2 := by omega
    split at parsed
    · cases parsed
      exact wording.before early wording.worded.origin (by decide)
    · split at parsed
      · cases parsed
        exact wording
      · cases parsed
        exact wording.before early wording.worded.origin (by decide)
  · rename_i inOrigin
    have early : r.state ≤ 2 := by omega
    split at parsed
    · cases parsed
      exact wording.before early wording.worded.origin (by decide)
    · rename_i other
      cases parsed
      exact wording.before early (word_snoc wording.worded.origin fits other) early
  · rename_i inCommand
    have early : r.state ≤ 2 := by omega
    split at parsed
    · cases parsed
      exact wording.open (by omega) sound
    · cases parsed
      exact wording.before early wording.worded.origin early
  · rename_i here
    exact absurd here inParam
  · rename_i inLast
    obtain ⟨m, pushed, sound_pushed⟩ := wording.sound.push (.inr inLast) b
    rw [pushed] at parsed
    cases parsed
    exact wording.push pushed sound_pushed fits fun early => by omega
  · cases parsed
    exact wording

/-- The end of a line. -/
theorem Wording.finish (wording : Wording r) : Wording (idle (r.recvQ ++ [r.m])) where
  sound := wording.sound.finish
  worded := worded_new
  plain _ p member := by cases member
  queued m member := by
    rcases List.mem_append.mp member with earlier | newest
    · exact wording.queued m earlier
    · rw [List.mem_singleton.mp newest]
      exact wording.worded

theorem Wording.accept (wording : Wording r) (b : UInt8) : ∃ r', r.accept b = .ok r' ∧ Wording r' := by
  obtain ⟨r', taken, -⟩ := wording.sound.accept b
  refine ⟨r', taken, ?_⟩
  unfold IRCReceiver.accept at taken
  split at taken
  · rename_i char
    split at taken
    · cases taken
      exact wording.finish
    · rename_i newline
      split at taken
      · cases taken
        exact wording
      · rename_i carriage
        exact wording.parse ⟨char, newline, carriage⟩ taken
  · cases taken
    exact wording

/-- Whatever is read, only the last parameter of a message on the queue may have blanks. -/
theorem entry_worded {reads : List Str} (read : entry reads = .ok r) : ∀ m ∈ r.recvQ, m.Worded := by
  rw [entry_reads] at read
  obtain ⟨_, reached, wording⟩ :=
    Scan.reaches_invariant (fun r b wording => Wording.accept wording b) reads.flatten wording_start
  obtain rfl := Except.ok.inj (reached.symm.trans read)
  exact wording.queued

end IRCReceiver

/-! The names in the calls that the protocol makes. -/

theorem WireMessage.Worded.getPrefixName {m : WireMessage} (worded : m.Worded) : Word m.message.getPrefixName := by
  have inside {s : Str} (part : ∀ b ∈ s, b ∈ m.origin) : Word s := fun b member => worded.origin b (part b member)
  unfold IRCMessage.getPrefixName
  split
  · rename_i nick name host parsed
    unfold IRCMessage.parsePrefix at parsed
    dsimp only at parsed
    split at parsed
    · simp only [Option.some.injEq, Prod.mk.injEq] at parsed
      obtain ⟨-, rfl, -⟩ := parsed
      apply inside
      intro b member
      split at member
      · exact List.mem_of_mem_drop member
      · exact List.mem_of_mem_drop (List.mem_of_mem_take member)
    · cases parsed
  · exact inside fun b member => member

namespace IRCProtocol

variable {p : IRCProtocol} {nick name addr : Str}

theorem word_of_tell {m : WireMessage} (worded : m.Worded) (told : .userJoin nick name addr ∈ p.tell m.message) :
    Word name := by
  unfold tell at told
  split at told
  · split at told <;> simp at told
  split at told
  · repeat' split at told
    all_goals simp at told
  split at told
  · simp at told
  split at told
  · repeat' split at told
    all_goals simp at told
  split at told
  · -- the name in the list of the users is one of seven parameters, and not the last
    split at told
    · rename_i params
      split at told
      · simp only [List.mem_singleton, AppCall.userJoin.injEq] at told
        have params : m.params = _ := params
        apply worded.earlier
        rw [params, told.2.1]
        simp
      · cases told
    · cases told
  split at told
  · repeat' split at told
    all_goals simp at told
  · cases told

theorem word_of_receive {m : WireMessage} (worded : m.Worded)
    (joins : .app (.userJoin nick name addr) ∈ (p.receive m.message).2) : Word name := by
  unfold receive at joins
  split at joins
  · unfold welcome at joins
    repeat' split at joins
    all_goals simp at joins
  split at joins
  · simp at joins
  split at joins
  · rw [joined_acts] at joins
    split at joins
    · simp only [List.mem_singleton, ProtocolAct.app.injEq, AppCall.userJoin.injEq] at joins
      rw [joins.2.1]
      exact worded.getPrefixName
    · cases joins
  split at joins
  · cases joins
  split at joins
  · cases joins
  obtain ⟨call, told, same⟩ := List.mem_map.mp joins
  cases same
  exact word_of_tell worded told

theorem word_of_receiveAll {received : List WireMessage} (worded : ∀ m ∈ received, m.Worded)
    (joins : .app (.userJoin nick name addr) ∈ (p.receiveAll (received.map message)).2.2) : Word name := by
  induction received generalizing p with
  | nil => cases joins
  | cons m ms ih =>
      rw [List.map_cons, receiveAll] at joins
      split at joins
      · simp at joins
      · simp only [List.cons_append, List.mem_cons, reduceCtorEq, false_or, List.mem_append] at joins
        rcases joins with now | later
        · exact word_of_receive (worded m List.mem_cons_self) now
        · exact ih (fun m member => worded m (List.mem_cons_of_mem _ member)) later

/-- A name that the protocol hands to the application has no blank. -/
theorem word_of_processQueues {received : List WireMessage} {rand : Nat} (worded : ∀ m ∈ received, m.Worded)
    (joins : .app (.userJoin nick name addr) ∈ (p.processQueues (received.map message) rand).2.2) :
    Word name := by
  unfold processQueues at joins
  dsimp only at joins
  split at joins
  · rcases List.mem_append.mp joins with got | advanced
    · exact word_of_receiveAll worded got
    · unfold advance at advanced
      repeat' split at advanced
      all_goals simp at advanced
  · exact word_of_receiveAll worded joins

end IRCProtocol

namespace IRCDDBApp

/-- A call that `processQueues` makes of messages that the receiver has read. -/
def FromNetwork (call : AppCall) : Prop :=
  ∃ reads r, IRCReceiver.entry reads = .ok r ∧ ∃ received : List WireMessage, (∀ m ∈ received, m ∈ r.recvQ) ∧
    ∃ (p : IRCProtocol) (rand : Nat), .app call ∈ (p.processQueues (received.map message) rand).2.2

/-- Whoever joins in the run does so by messages of the network. -/
def JoinsFromNetwork (tr : List AppEntry) : Prop :=
  ∀ x ∈ tr, ∀ nick name addr, x.event = .userJoin nick name addr → FromNetwork (.userJoin nick name addr)

/-- The names that are filed have no blank. -/
theorem word_of_names {tr : List AppEntry} (network : JoinsFromNetwork tr) {x : AppEntry} (member : x ∈ tr)
    {name : Str} (names : Names name x) : Word name := by
  unfold Names at names
  cases event : x.event with
  | userJoin nick other addr =>
      rw [event, filed] at names
      split at names
      · cases names
      · cases names
        obtain ⟨reads, r, read, received, queued, p, rand, called⟩ := network x member nick _ addr event
        exact IRCProtocol.word_of_processQueues
          (fun m listed => IRCReceiver.entry_worded read m (queued m listed)) called
  | _ =>
      rw [event] at names
      cases names

end IRCDDBApp
end SmartGroup
