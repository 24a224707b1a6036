import SmartGroup.Irc.Message
import SmartGroup.Support.Scan

/-! Messages as lines of bytes: `IRCMessage::composeMessage` and the receiver. -/
namespace SmartGroup
open Bytes Scan

/-- A message with the counter that the receiver keeps of its parameters. -/
structure WireMessage where
  origin : Str
  command : Str
  params : List Str
  numParams : Nat
  deriving DecidableEq, Repr

/-- A message as the client builds it. -/
def IRCMessage.wire (m : IRCMessage) : WireMessage := ⟨m.origin, m.command, m.params, m.numParams⟩

namespace WireMessage

def new : WireMessage := ⟨[], [], [], 0⟩

/-- The message without the counter. -/
def message (m : WireMessage) : IRCMessage := ⟨m.origin, m.command, m.params⟩

/-- `params[i]`. -/
def param (m : WireMessage) (i : Nat) : Try Str :=
  match m.params[i]? with
  | some p => .ok p
  | none => .error .overread

/-- One turn of the loop over the parameters. -/
def appendParam (m : WireMessage) (o : Str) (i : Nat) : Try Str := do
  let p ← m.param i
  .ok (if i = m.numParams - 1 then o ++ (str " :" ++ p) else o ++ (str " " ++ p))

def composeMessage (m : WireMessage) : Try Str := do
  let o := if m.origin ≠ [] then str ":" ++ m.origin ++ str " " else []
  let o ← (List.range m.numParams).foldlM m.appendParam (o ++ m.command)
  .ok (o ++ [13, 10])

/-- `params[numParams - 1].push_back(b)`. -/
def pushParam (m : WireMessage) (b : UInt8) : Try WireMessage := do
  if m.numParams = 0 then .error .overread
  else
    let p ← m.param (m.numParams - 1)
    .ok { m with params := m.params.set (m.numParams - 1) (p ++ [b]) }

/-- `params[numParams - 1].length() == 0`. -/
def paramEmpty (m : WireMessage) : Try Bool := do
  if m.numParams = 0 then .error .overread
  else
    let p ← m.param (m.numParams - 1)
    .ok (p == [])

end WireMessage

/-- The variables of `Entry` and what it has put on the queue. -/
structure IRCReceiver where
  m : WireMessage
  state : Nat
  recvQ : List WireMessage
  deriving DecidableEq, Repr

namespace IRCReceiver

def start : IRCReceiver := ⟨.new, 0, []⟩

/-- The `switch` over the state. -/
def parse (r : IRCReceiver) (b : UInt8) : Try IRCReceiver :=
  match r.state with
  | 0 =>
      if b = 58 then .ok { r with state := 1 }
      else if b = 32 then .ok r
      else .ok { r with m := { r.m with command := r.m.command ++ [b] }, state := 2 }
  | 1 =>
      if b = 32 then .ok { r with state := 2 }
      else .ok { r with m := { r.m with origin := r.m.origin ++ [b] } }
  | 2 =>
      if b = 32 then
        .ok { r with m := { r.m with numParams := 1, params := r.m.params ++ [[]] }, state := 3 }
      else .ok { r with m := { r.m with command := r.m.command ++ [b] } }
  | 3 =>
      if b = 32 then
        .ok { r with
          m := { r.m with numParams := r.m.numParams + 1, params := r.m.params ++ [[]] }
          state := if 15 ≤ r.m.numParams + 1 then 5 else 3 }
      else do
        let trailing ← if b = 58 then r.m.paramEmpty else .ok false
        if trailing then .ok { r with state := 4 }
        else
          let m ← r.m.pushParam b
          .ok { r with m := m }
  | 4 => do
      let m ← r.m.pushParam b
      .ok { r with m := m }
  | _ => .ok r

/-- One byte of a read; `char` is signed, so that bytes from 128 on are skipped. -/
def accept (r : IRCReceiver) (b : UInt8) : Try IRCReceiver :=
  if 0 < b ∧ b < 128 then
    if b = 10 then .ok { m := .new, state := 0, recvQ := r.recvQ ++ [r.m] }
    else if b = 13 then .ok r
    else r.parse b
  else .ok r

/-- `Entry`, with the bytes of each read. -/
def entry (reads : List Str) : Try IRCReceiver :=
  reads.foldlM (fun r buf => buf.foldlM accept r) start

end IRCReceiver

/-! What `composeMessage` writes, and which messages it is good for. -/

namespace WireMessage

/-- The parameters as they stand in a line; the last one has a colon. -/
def paramText : List Str → Str
  | [] => []
  | [p] => 32 :: 58 :: p
  | p :: q :: ps => 32 :: p ++ paramText (q :: ps)

def originText (origin : Str) : Str := if origin ≠ [] then 58 :: origin ++ [32] else []

def line (m : WireMessage) : Str := originText m.origin ++ m.command ++ paramText m.params ++ [13, 10]

/-- A character that may stand in a line. -/
def InLine (b : UInt8) : Prop := (0 < b ∧ b < 128) ∧ b ≠ 10 ∧ b ≠ 13

instance (b : UInt8) : Decidable (InLine b) := inferInstanceAs (Decidable (_ ∧ _))

/-- Characters of a line without blanks. -/
def Word (s : Str) : Prop := ∀ b ∈ s, InLine b ∧ b ≠ 32

instance (s : Str) : Decidable (Word s) := List.decidableBAll _ s

structure WellFormed (m : WireMessage) : Prop where
  origin : Word m.origin
  command : Word m.command
  named : m.command ≠ []
  plain : m.command.head? ≠ some 58
  counted : m.numParams = m.params.length
  few : m.params.length ≤ 14
  earlier : ∀ p ∈ m.params.dropLast, Word p ∧ p.head? ≠ some 58
  last : ∀ p ∈ m.params, ∀ b ∈ p, InLine b

variable {m : WireMessage}

theorem appendParam_ok (counted : m.numParams = m.params.length) {done rest : List Str} {p : Str}
    (split : m.params = done ++ p :: rest) (o : Str) :
    m.appendParam o done.length =
      .ok (if rest = [] then o ++ 32 :: 58 :: p else o ++ 32 :: p) := by
  have found : m.param done.length = .ok p := by simp [param, split]
  have last : done.length = m.numParams - 1 ↔ rest = [] := by
    rw [counted, split, List.length_append, List.length_cons, ← List.length_eq_zero_iff]
    omega
  rw [appendParam, found, ok_bind]
  simp only [last]
  rfl

/-- The loop over the parameters from one of them on. -/
theorem appendParam_loop (counted : m.numParams = m.params.length) {rest : List Str} :
    ∀ done : List Str, m.params = done ++ rest → ∀ o : Str,
      (List.range' done.length rest.length).foldlM m.appendParam o = .ok (o ++ paramText rest) := by
  induction rest with
  | nil =>
      intro done _ o
      simp [paramText, pure, Except.pure]
  | cons p rest ih =>
      intro done split o
      have onward : m.params = (done ++ [p]) ++ rest := by simp [split]
      have next : (done ++ [p]).length = done.length + 1 := by simp
      rw [List.length_cons, List.range'_succ, List.foldlM_cons, appendParam_ok counted split,
        ok_bind, ← next, ih _ onward]
      cases rest with
      | nil => simp [paramText]
      | cons q ps => simp [paramText]

theorem composeMessage_line (counted : m.numParams = m.params.length) :
    m.composeMessage = .ok m.line := by
  have loop := appendParam_loop counted [] rfl (originText m.origin ++ m.command)
  rw [List.length_nil, ← counted] at loop
  rw [composeMessage, List.range_eq_range']
  have front : (if m.origin ≠ [] then str ":" ++ m.origin ++ str " " else []) = originText m.origin := rfl
  simp only [front, loop, ok_bind]
  rfl

theorem pushParam_snoc (origin command : Str) (params : List Str) (done : Str) (b : UInt8) :
    pushParam ⟨origin, command, params ++ [done], (params ++ [done]).length⟩ b =
      .ok ⟨origin, command, params ++ [done ++ [b]], (params ++ [done ++ [b]]).length⟩ := by
  simp [pushParam, param, ok_bind]

theorem paramEmpty_snoc (origin command : Str) (params : List Str) (done : Str) :
    paramEmpty ⟨origin, command, params ++ [done], (params ++ [done]).length⟩ = .ok (done == []) := by
  simp [paramEmpty, param, ok_bind]

theorem composeMessage_lines {ms : List WireMessage}
    (counted : ∀ m ∈ ms, m.numParams = m.params.length) :
    ms.mapM composeMessage = .ok (ms.map line) := by
  induction ms with
  | nil => rfl
  | cons m ms ih =>
      rw [List.mapM_cons, composeMessage_line (counted m List.mem_cons_self), ok_bind,
        ih fun m member => counted m (List.mem_cons_of_mem _ member), ok_bind]
      rfl

/-- The counter is the number of the parameters, and these are at most fifteen. -/
def Counted (m : WireMessage) : Prop := m.numParams = m.params.length ∧ m.params.length ≤ 15

theorem Counted.param (counted : m.Counted) (some_param : 1 ≤ m.params.length) :
    ∃ p, m.param (m.numParams - 1) = .ok p := by
  have inside : m.numParams - 1 < m.params.length := by
    rw [counted.1]
    omega
  exact ⟨m.params[m.numParams - 1], by simp [WireMessage.param, inside]⟩

theorem Counted.pushParam (counted : m.Counted) (some_param : 1 ≤ m.params.length) (b : UInt8) :
    ∃ m', m.pushParam b = .ok m' ∧ m'.Counted ∧ m'.params.length = m.params.length := by
  obtain ⟨p, found⟩ := counted.param some_param
  have some_counted : m.numParams ≠ 0 := by
    rw [counted.1]
    omega
  refine ⟨{ m with params := m.params.set (m.numParams - 1) (p ++ [b]) }, ?_, ?_, ?_⟩
  · rw [WireMessage.pushParam, if_neg some_counted, found, ok_bind]
  · simpa [Counted] using counted
  · simp

theorem Counted.paramEmpty (counted : m.Counted) (some_param : 1 ≤ m.params.length) :
    ∃ empty, m.paramEmpty = .ok empty := by
  obtain ⟨p, found⟩ := counted.param some_param
  have some_counted : m.numParams ≠ 0 := by
    rw [counted.1]
    omega
  exact ⟨p == [], by rw [WireMessage.paramEmpty, if_neg some_counted, found, ok_bind]⟩

end WireMessage

/-! What the receiver makes of a line, part by part. -/

namespace IRCReceiver

open WireMessage

/-- The receiver in the origin of a message. -/
def inOrigin (recvQ : List WireMessage) (origin : Str) : IRCReceiver :=
  ⟨⟨origin, [], [], 0⟩, 1, recvQ⟩

/-- The receiver in the command, or before it when there is no origin. -/
def inCommand (recvQ : List WireMessage) (origin command : Str) : IRCReceiver :=
  ⟨⟨origin, command, [], 0⟩, if origin = [] ∧ command = [] then 0 else 2, recvQ⟩

/-- The receiver behind the command or in a parameter that is not the last. -/
def inParam (recvQ : List WireMessage) (origin command : Str) (params : List Str) : IRCReceiver :=
  ⟨⟨origin, command, params, params.length⟩, if params = [] then 2 else 3, recvQ⟩

/-- The receiver behind the colon of the last parameter. -/
def inLast (recvQ : List WireMessage) (origin command : Str) (params : List Str) : IRCReceiver :=
  ⟨⟨origin, command, params, params.length⟩, 4, recvQ⟩

/-- The receiver between two lines. -/
def idle (recvQ : List WireMessage) : IRCReceiver := ⟨.new, 0, recvQ⟩

variable {recvQ : List WireMessage} {origin command p : Str} {params : List Str} {b : UInt8}

theorem accept_inLine (fits : InLine b) (r : IRCReceiver) : r.accept b = r.parse b := by
  rw [accept, if_pos fits.1, if_neg fits.2.1, if_neg fits.2.2]

theorem accept_origin (fits : InLine b) (word : b ≠ 32) :
    (inOrigin recvQ origin).accept b = .ok (inOrigin recvQ (origin ++ [b])) := by
  rw [accept_inLine fits]
  simp [parse, inOrigin, word]

theorem accept_command (fits : InLine b) (word : b ≠ 32)
    (plain : origin = [] → command = [] → b ≠ 58) :
    (inCommand recvQ origin command).accept b = .ok (inCommand recvQ origin (command ++ [b])) := by
  rw [accept_inLine fits]
  by_cases first : origin = [] ∧ command = []
  · simp [parse, inCommand, first, word, plain first.1 first.2]
  · simp [parse, inCommand, first, word]

theorem accept_param {done : Str} (fits : InLine b) (word : b ≠ 32) (plain : done = [] → b ≠ 58) :
    (inParam recvQ origin command (params ++ [done])).accept b =
      .ok (inParam recvQ origin command (params ++ [done ++ [b]])) := by
  have parsing (q : Str) : (if params ++ [q] = [] then 2 else 3) = 3 := if_neg (by simp)
  rw [accept_inLine fits]
  simp only [parse, inParam, parsing, if_neg word, paramEmpty_snoc, pushParam_snoc, ok_bind]
  by_cases colon : b = 58
  · have some_done : ¬(done == []) = true := by simpa using fun empty => plain empty colon
    rw [if_pos colon, if_neg some_done]
  · rw [if_neg colon]
    rfl

theorem accept_last {done : Str} (fits : InLine b) :
    (inLast recvQ origin command (params ++ [done])).accept b =
      .ok (inLast recvQ origin command (params ++ [done ++ [b]])) := by
  rw [accept_inLine fits]
  simp only [parse, inLast, pushParam_snoc, ok_bind]

/-- The blank before a parameter. -/
theorem accept_blank (few : params.length + 1 < 15) :
    (inParam recvQ origin command params).accept 32 =
      .ok (inParam recvQ origin command (params ++ [[]])) := by
  have room : ¬15 ≤ params.length + 1 := by omega
  rw [accept_inLine (by decide)]
  by_cases first : params = []
  · simp [parse, inParam, first]
  · simp [parse, inParam, first, room]

theorem accept_colon :
    (inParam recvQ origin command (params ++ [[]])).accept 58 =
      .ok (inLast recvQ origin command (params ++ [[]])) := by
  have parsing : (if params ++ [[]] = [] then 2 else 3) = 3 := if_neg (by simp)
  rw [accept_inLine (by decide)]
  simp only [parse, inParam, parsing, paramEmpty_snoc, ok_bind]
  rfl

theorem accept_end (r : IRCReceiver) : Reaches accept r [13, 10] (idle (r.recvQ ++ [r.m])) := rfl

variable (recvQ origin command params)

/-- The origin of a message, up to the command. -/
theorem reaches_origin {origin : Str} (word : Word origin) :
    Reaches accept (idle recvQ) (originText origin) (inCommand recvQ origin []) := by
  unfold originText
  by_cases none : origin = []
  · subst none
    exact .nil
  · rw [if_pos none]
    have colon : (idle recvQ).accept 58 = .ok (inOrigin recvQ []) := rfl
    have text : Reaches accept (inOrigin recvQ []) origin (inOrigin recvQ origin) := by
      apply Reaches.collect (inOrigin recvQ)
      intro done b left split
      obtain ⟨fits, word⟩ := word b (by simp [split])
      exact accept_origin fits word
    have blank : (inOrigin recvQ origin).accept 32 = .ok (inCommand recvQ origin []) := by
      rw [accept_inLine (by decide)]
      simp [parse, inOrigin, inCommand, none]
    exact .cons colon (text.append (.cons blank .nil))

theorem reaches_command {command : Str} (word : Word command) (plain : command.head? ≠ some 58) :
    Reaches accept (inCommand recvQ origin []) command (inCommand recvQ origin command) := by
  apply Reaches.collect (inCommand recvQ origin)
  intro done b left split
  obtain ⟨fits, word⟩ := word b (by simp [split])
  apply accept_command fits word
  intro _ first
  simpa [split, first] using plain

/-- A parameter that is not the last, after its blank. -/
theorem reaches_param (word : Word p) (plain : p.head? ≠ some 58) :
    Reaches accept (inParam recvQ origin command (params ++ [[]])) p
      (inParam recvQ origin command (params ++ [p])) := by
  apply Reaches.collect fun done => inParam recvQ origin command (params ++ [done])
  intro done b left split
  obtain ⟨fits, word⟩ := word b (by simp [split])
  apply accept_param fits word
  intro first
  simpa [split, first] using plain

/-- The last parameter, after its colon. -/
theorem reaches_last (text : ∀ b ∈ p, InLine b) :
    Reaches accept (inLast recvQ origin command (params ++ [[]])) p
      (inLast recvQ origin command (params ++ [p])) := by
  apply Reaches.collect fun done => inLast recvQ origin command (params ++ [done])
  intro done b left split
  exact accept_last (text b (by simp [split]))

/-- The parameters from one of them on, then the end of the line. -/
theorem reaches_params {rest : List Str} :
    ∀ params : List Str, params.length + rest.length ≤ 14 →
      (∀ p ∈ rest.dropLast, Word p ∧ p.head? ≠ some 58) → (∀ p ∈ rest, ∀ b ∈ p, InLine b) →
      Reaches accept (inParam recvQ origin command params) (paramText rest ++ [13, 10])
        (idle (recvQ ++ [⟨origin, command, params ++ rest, (params ++ rest).length⟩])) := by
  induction rest with
  | nil =>
      intro params _ _ _
      rw [List.append_nil]
      exact accept_end (inParam recvQ origin command params)
  | cons p rest ih =>
      intro params few earlier last
      rw [List.length_cons] at few
      have blank : (inParam recvQ origin command params).accept 32 =
          .ok (inParam recvQ origin command (params ++ [[]])) := accept_blank (by omega)
      cases rest with
      | nil =>
          have text := reaches_last recvQ origin command params (last p List.mem_cons_self)
          have ending := accept_end (inLast recvQ origin command (params ++ [p]))
          exact .cons blank (.cons accept_colon (text.append ending))
      | cons q ps =>
          obtain ⟨word, plain⟩ := earlier p List.mem_cons_self
          have text := reaches_param recvQ origin command params word plain
          have room : (params ++ [p]).length + (q :: ps).length ≤ 14 := by
            rw [List.length_append, List.length_singleton]
            omega
          have onward := ih (params ++ [p]) room
            (fun p member => earlier p (List.mem_cons_of_mem _ member))
            (fun p member => last p (List.mem_cons_of_mem _ member))
          rw [List.append_assoc, List.singleton_append] at onward
          rw [paramText, List.append_assoc]
          exact .cons blank (text.append onward)

/-- The receiver makes the message of its line. -/
theorem reaches_line {m : WireMessage} (formed : m.WellFormed) :
    Reaches accept (idle recvQ) m.line (idle (recvQ ++ [m])) := by
  have front := reaches_origin recvQ formed.origin
  have named := reaches_command recvQ m.origin formed.command formed.plain
  have rest := reaches_params recvQ m.origin m.command []
    (by simpa using formed.few) formed.earlier formed.last
  have onward : inCommand recvQ m.origin m.command = inParam recvQ m.origin m.command [] := by
    simp [inCommand, inParam, formed.named]
  have whole : (⟨m.origin, m.command, [] ++ m.params, ([] ++ m.params).length⟩ : WireMessage) = m := by
    rw [List.nil_append, ← formed.counted]
  rw [whole] at rest
  rw [onward] at named
  rw [line, List.append_assoc, List.append_assoc]
  exact front.append (named.append rest)

theorem reaches_lines {ms : List WireMessage} (formed : ∀ m ∈ ms, m.WellFormed) :
    Reaches accept (idle recvQ) (ms.map line).flatten (idle (recvQ ++ ms)) := by
  induction ms generalizing recvQ with
  | nil =>
      rw [List.append_nil]
      exact .nil
  | cons m ms ih =>
      have first := reaches_line recvQ (formed m List.mem_cons_self)
      have others := ih (recvQ ++ [m]) fun m member => formed m (List.mem_cons_of_mem _ member)
      rw [List.append_assoc, List.singleton_append] at others
      exact first.append others

/-! The receiver on bytes of any kind. -/

/-- What the receiver keeps true of its message and of those on the queue. -/
structure Sound (r : IRCReceiver) : Prop where
  counted : r.m.Counted
  without : r.state ≤ 2 → r.m.params = []
  within : r.state = 3 ∨ r.state = 4 → 1 ≤ r.m.params.length ∧ r.m.params.length ≤ 14
  queued : ∀ m ∈ r.recvQ, m.Counted

variable {r : IRCReceiver}

theorem sound_start : Sound start where
  counted := ⟨rfl, by decide⟩
  without _ := rfl
  within parsing := by simp [start] at parsing
  queued m member := by simp [start] at member

/-- Before the parameters only the origin, the command and the state change. -/
theorem Sound.before (sound : Sound r) (early : r.state ≤ 2) (origin command : Str) {state : Nat}
    (still : state ≤ 2) : Sound ⟨{ r.m with origin := origin, command := command }, state, r.recvQ⟩ where
  counted := sound.counted
  without _ := sound.without early
  within parsing := by
    simp only at parsing
    omega
  queued := sound.queued

/-- A new parameter; the fifteenth ends the parsing. -/
theorem Sound.open (sound : Sound r) (room : r.m.params.length ≤ 14) {numParams state : Nat}
    (one_more : numParams = r.m.params.length + 1) (behind : 2 < state)
    (full : 15 ≤ numParams → state = 5) :
    Sound ⟨{ r.m with numParams := numParams, params := r.m.params ++ [[]] }, state, r.recvQ⟩ where
  counted := by
    simp only [Counted, List.length_append, List.length_singleton]
    omega
  without early := by
    simp only at early
    omega
  within parsing := by
    simp only [List.length_append, List.length_singleton] at parsing ⊢
    omega
  queued := sound.queued

/-- A parameter takes a byte, and the state stays. -/
theorem Sound.push (sound : Sound r) (parsing : r.state = 3 ∨ r.state = 4) (b : UInt8) :
    ∃ m, r.m.pushParam b = .ok m ∧ Sound { r with m := m } := by
  obtain ⟨some_param, few⟩ := sound.within parsing
  obtain ⟨m, pushed, counted, same⟩ := sound.counted.pushParam some_param b
  refine ⟨m, pushed, counted, ?_, ?_, sound.queued⟩
  · intro early
    simp only at early
    omega
  · intro _
    rw [same]
    exact ⟨some_param, few⟩

theorem Sound.parse (sound : Sound r) (b : UInt8) : ∃ r', r.parse b = .ok r' ∧ Sound r' := by
  unfold IRCReceiver.parse
  split
  · rename_i idle
    have early : r.state ≤ 2 := by omega
    split
    · exact ⟨_, rfl, sound.before early r.m.origin r.m.command (by decide)⟩
    · split
      · exact ⟨r, rfl, sound⟩
      · exact ⟨_, rfl, sound.before early r.m.origin (r.m.command ++ [b]) (by decide)⟩
  · rename_i inOrigin
    have early : r.state ≤ 2 := by omega
    split
    · exact ⟨_, rfl, sound.before early r.m.origin r.m.command (by decide)⟩
    · exact ⟨_, rfl, sound.before early (r.m.origin ++ [b]) r.m.command early⟩
  · rename_i inCommand
    have early : r.state ≤ 2 := by omega
    have none : r.m.params = [] := sound.without early
    split
    · exact ⟨_, rfl, sound.open (by simp [none]) (by simp [none]) (by decide) (by decide)⟩
    · exact ⟨_, rfl, sound.before early r.m.origin (r.m.command ++ [b]) early⟩
  · rename_i inParam
    obtain ⟨some_param, few⟩ := sound.within (.inl inParam)
    obtain ⟨m, pushed, sound_pushed⟩ := sound.push (.inl inParam) b
    split
    · have counted : r.m.numParams = r.m.params.length := sound.counted.1
      refine ⟨_, rfl, sound.open few (by rw [counted]) ?_ fun full => if_pos full⟩
      split <;> decide
    · obtain ⟨empty, tested⟩ := sound.counted.paramEmpty some_param
      have trailing : Sound { r with state := 4 } := {
        sound with
        without := fun early => by simp at early
        within := fun _ => ⟨some_param, few⟩ }
      rw [tested, pushed]
      by_cases colon : b = 58
      · rw [if_pos colon]
        cases empty with
        | true => exact ⟨_, rfl, trailing⟩
        | false => exact ⟨_, rfl, sound_pushed⟩
      · rw [if_neg colon]
        exact ⟨_, rfl, sound_pushed⟩
  · rename_i inLast
    obtain ⟨m, pushed, sound_pushed⟩ := sound.push (.inr inLast) b
    rw [pushed]
    exact ⟨_, rfl, sound_pushed⟩
  · exact ⟨r, rfl, sound⟩

/-- The end of a line. -/
theorem Sound.finish (sound : Sound r) : Sound (idle (r.recvQ ++ [r.m])) where
  counted := sound_start.counted
  without _ := rfl
  within parsing := by simp [idle] at parsing
  queued m member := by
    rcases List.mem_append.mp member with earlier | newest
    · exact sound.queued m earlier
    · rw [List.mem_singleton.mp newest]
      exact sound.counted

theorem Sound.accept (sound : Sound r) (b : UInt8) : ∃ r', r.accept b = .ok r' ∧ Sound r' := by
  unfold IRCReceiver.accept
  split
  · split
    · exact ⟨_, rfl, sound.finish⟩
    · split
      · exact ⟨r, rfl, sound⟩
      · exact sound.parse b
  · exact ⟨r, rfl, sound⟩

theorem entry_reads (reads : List Str) : entry reads = reads.flatten.foldlM IRCReceiver.accept start :=
  foldlM_chunks reads start

/-- The receiver goes through whatever it reads. -/
theorem entry_sound (reads : List Str) : ∃ r, entry reads = .ok r ∧ Sound r := by
  rw [entry_reads]
  exact reaches_invariant (fun r b sound => Sound.accept sound b) reads.flatten sound_start

/-- Messages written to the wire come out of the receiver as they were, in order, however
the bytes are cut into reads; and whatever is read, no parameter is indexed that is not
there, and the messages on the queue count their parameters, which are at most fifteen. -/
theorem wire_format :
    (∀ ms : List WireMessage, (∀ m ∈ ms, m.WellFormed) →
      ∃ lines, ms.mapM WireMessage.composeMessage = .ok lines ∧
        ∀ reads : List Str, reads.flatten = lines.flatten →
          ∃ r, entry reads = .ok r ∧ r.recvQ = ms) ∧
      ∀ reads : List Str, ∃ r, entry reads = .ok r ∧
        ∀ m ∈ r.recvQ, m.numParams = m.params.length ∧ m.params.length ≤ 15 := by
  constructor
  · intro ms formed
    refine ⟨ms.map line, composeMessage_lines fun m member => (formed m member).counted, ?_⟩
    intro reads whole
    refine ⟨idle ms, ?_, rfl⟩
    rw [entry_reads, whole]
    exact reaches_lines [] formed
  · intro reads
    obtain ⟨r, run, sound⟩ := entry_sound reads
    exact ⟨r, run, sound.queued⟩

/-- A message of the server and one without an origin, with an empty parameter and with a
last one that has blanks and a colon. -/
def Sample.wireMessages : List WireMessage :=
  [⟨str "grp1s1.ircDDB", str "PRIVMSG", [str "#dstar", str "a: b"], 2⟩,
    ⟨[], str "JOIN", [[], str "#dstar"], 2⟩,
    ⟨[], str "QUIT", [], 0⟩]

theorem Sample.wireMessages_formed : ∀ m ∈ Sample.wireMessages, m.WellFormed := by
  simp only [Sample.wireMessages, List.forall_mem_cons]
  refine ⟨?_, ?_, ?_, by simp⟩ <;> constructor <;> decide +kernel

theorem wire_format_received :
    ∃ r, entry [str ":grp1s1.ircDDB PRI", [], str "VMSG #dstar :a: b\r", str "\nJOIN  :#dst",
      str "ar\r\nQUIT\r\n"] = .ok r ∧ r.recvQ = Sample.wireMessages := by
  obtain ⟨lines, composed, received⟩ := wire_format.1 Sample.wireMessages Sample.wireMessages_formed
  apply received
  have known : Sample.wireMessages.mapM WireMessage.composeMessage =
    .ok (Sample.wireMessages.map line) := by decide +kernel
  obtain rfl := Except.ok.inj (known.symm.trans composed)
  decide +kernel

end IRCReceiver
end SmartGroup
