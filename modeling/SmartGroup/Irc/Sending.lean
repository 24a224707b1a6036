import Mathlib.Data.List.TakeWhile
import SmartGroup.Irc.Client

/-! What the client writes. A message is composed into a buffer of 200 bytes; the ones that
fit are written as they are, in the order in which they were put on the queue. -/
namespace SmartGroup
open Bytes Machine

/-- The text that the client sends for the message. -/
def IRCMessage.compose (m : IRCMessage) : Try Str := m.wire.composeMessage

/-- The composed text has room in the buffer, with its terminator, and no other zero. -/
def IRCMessage.Fits (m : IRCMessage) : Prop := ∃ text, m.compose = .ok text ∧ text.length ≤ 199 ∧ 0 ∉ text

theorem IRCMessage.fits_iff {m : IRCMessage} : m.Fits ↔ m.wire.line.length ≤ 199 ∧ 0 ∉ m.wire.line := by
  have composed : m.compose = .ok m.wire.line := WireMessage.composeMessage_line rfl
  constructor
  · rintro ⟨text, known, short, plain⟩
    obtain rfl : m.wire.line = text := Except.ok.inj (composed.symm.trans known)
    exact ⟨short, plain⟩
  · exact fun fits => ⟨_, composed, fits⟩

instance (m : IRCMessage) : Decidable m.Fits := decidable_of_iff _ IRCMessage.fits_iff.symm

theorem IRCMessage.Fits.copied {m : IRCMessage} (fits : m.Fits) :
    ∃ text, m.compose = .ok text ∧ safeStringCopy text 200 = text ∧ text.getLast? = some 10 := by
  obtain ⟨text, composed, short, plain⟩ := fits
  have line : text = m.wire.line := by
    have known := WireMessage.composeMessage_line (m := m.wire) rfl
    exact Except.ok.inj (composed.symm.trans known)
  refine ⟨text, composed, ?_, ?_⟩
  · have whole : text.takeWhile (· ≠ 0) = text := by
      rw [List.takeWhile_eq_self_iff]
      intro b member
      exact decide_eq_true fun zero => plain (zero ▸ member)
    rw [safeStringCopy, whole, List.take_of_length_le short]
  · rw [line, WireMessage.line]
    simp

namespace IRCClient

/-- The messages put on the send queue since the connection was opened, and the texts written. -/
def record : List IRCMessage × List Str → ClientOutput → List IRCMessage × List Str
  | _, .opened => ([], [])
  | (messages, texts), .put m => (messages ++ [m], texts)
  | (messages, texts), .wrote bytes => (messages, texts ++ [bytes])
  | account, _ => account

def account (outs : List ClientOutput) : List IRCMessage × List Str := outs.foldl record ([], [])

theorem account_append (outs o : List ClientOutput) : account (outs ++ o) = o.foldl record (account outs) :=
  List.foldl_append

/-- The other outputs leave the account as it is. -/
theorem foldl_record {o : List ClientOutput} (other : ∀ x ∈ o, ∀ a, record a x = a)
    (a : List IRCMessage × List Str) : o.foldl record a = a := by
  induction o with
  | nil => rfl
  | cons x o ih =>
      rw [List.foldl_cons, other x List.mem_cons_self a]
      exact ih fun y member => other y (List.mem_cons_of_mem x member)

theorem put_of_mem_account {outs : List ClientOutput} {m : IRCMessage} (member : m ∈ (account outs).1) :
    .put m ∈ outs := by
  induction outs using List.reverseRecOn with
  | nil => cases member
  | append_singleton outs x ih =>
      rw [account_append] at member
      cases x with
      | put m' =>
          rcases List.mem_append.mp member with earlier | newest
          · exact List.mem_append_left _ (ih earlier)
          · rw [List.mem_singleton.mp newest]
            exact List.mem_append_right _ List.mem_cons_self
      | opened => cases member
      | wrote _ | drained | app _ | gaveUp _ | closed => exact List.mem_append_left _ (ih member)

/-- Of the messages put, the first ones have been written and the others are on the queue. -/
def Accounted (a : List IRCMessage × List Str) (queues : Option ClientQueues) : Prop :=
  ∃ sent left, a.1 = sent ++ left ∧ sent.mapM IRCMessage.compose = .ok a.2 ∧ ∀ q ∈ queues, q.sending = left

/-- What holds of the client after a run. -/
structure SendInv (outs : List ClientOutput) (c : IRCClient) : Prop where
  accounted : Accounted (account outs) c.queues
  queued : c.state = 5 → c.queues.isSome
  busy : c.phase = .top ∨ c.state = 5
  running : c.terminateThread = false

/-- What a step does, as the account tells it. -/
structure Sends (outs : List ClientOutput) (o : List ClientOutput) (c' : IRCClient) : Prop where
  inv : SendInv (outs ++ o) c'
  gaveUp : ∀ why, .gaveUp why ∈ o → why = .eof ∨ why = .protocol
  drained : .drained ∈ o → (account outs).1.mapM IRCMessage.compose = .ok (account outs).2

section
variable {outs : List ClientOutput} {c : IRCClient}

/-- A step that puts and writes nothing. -/
theorem SendInv.quiet (inv : SendInv outs c) {c' : IRCClient} {o : List ClientOutput}
    (other : ∀ x ∈ o, (∀ a, record a x = a) ∧ x ≠ .drained)
    (reason : ∀ why, .gaveUp why ∈ o → why = .eof ∨ why = .protocol)
    (sending : ∀ q' ∈ c'.queues, ∃ q ∈ c.queues, q'.sending = q.sending)
    (queued : c'.state = 5 → c'.queues.isSome) (busy : c'.phase = .top ∨ c'.state = 5)
    (running : c'.terminateThread = false) : Sends outs o c' := by
  have same : account (outs ++ o) = account outs := by
    rw [account_append]
    exact foldl_record (fun x member => (other x member).1) _
  obtain ⟨sent, left, split, written, rest⟩ := inv.accounted
  refine ⟨⟨⟨sent, left, same ▸ split, same ▸ written, fun q' member => ?_⟩, queued, busy, running⟩, reason,
    fun member => absurd rfl (other _ member).2⟩
  obtain ⟨q, there, kept⟩ := sending q' member
  rw [kept, rest q there]

/-- A message is put at the end of the queue. -/
theorem SendInv.put (inv : SendInv outs c) {q : ClientQueues} (there : c.queues = some q) (m : IRCMessage)
    {c' : IRCClient} (queues : c'.queues = some { q with sending := q.sending ++ [m] })
    (busy : c'.phase = .top ∨ c'.state = 5) (running : c'.terminateThread = false) :
    Sends outs [.put m] c' := by
  obtain ⟨sent, left, split, written, rest⟩ := inv.accounted
  have recorded : account (outs ++ [.put m]) = ((account outs).1 ++ [m], (account outs).2) :=
    account_append outs [.put m]
  refine ⟨⟨⟨sent, left ++ [m], ?_, ?_, ?_⟩, fun _ => queues ▸ rfl, busy, running⟩, by simp, by simp⟩
  · rw [recorded, split, List.append_assoc]
  · rw [recorded]
    exact written
  · intro q' member
    rw [queues] at member
    cases member
    exact congrArg (· ++ [m]) (rest q there)

theorem mapM_snoc {α β : Type} {f : α → Try β} {l : List α} {l' : List β} {a : α} {b : β}
    (earlier : l.mapM f = .ok l') (last : f a = .ok b) : (l ++ [a]).mapM f = .ok (l' ++ [b]) := by
  rw [List.mapM_append, earlier, ok_bind, List.mapM_cons, last]
  rfl

/-- A quiet step with no output. -/
theorem SendInv.silent (inv : SendInv outs c) {c' : IRCClient}
    (sending : ∀ q' ∈ c'.queues, ∃ q ∈ c.queues, q'.sending = q.sending)
    (queued : c'.state = 5 → c'.queues.isSome) (busy : c'.phase = .top ∨ c'.state = 5)
    (running : c'.terminateThread = false) : Sends outs [] c' :=
  inv.quiet (List.forall_mem_nil _) (fun _ member => absurd member List.not_mem_nil) sending queued busy running

/-- A step that does nothing. -/
theorem SendInv.idle (inv : SendInv outs c) : Sends outs [] c :=
  inv.silent (fun q' member => ⟨q', member, rfl⟩) inv.queued inv.busy inv.running

/-- The connection is given up for a reason of its own. -/
theorem SendInv.giveUp (inv : SendInv outs c) {why : GivenUp} (reason : why = .eof ∨ why = .protocol) :
    Sends outs [.gaveUp why] c.giveUp := by
  refine inv.quiet ?_ ?_ (fun q' member => ⟨q', member, rfl⟩) (by simp [IRCClient.giveUp]) (.inl rfl) inv.running
  · intro x member
    rw [List.mem_singleton.mp member]
    exact ⟨fun _ => rfl, by simp⟩
  · intro why' member
    cases List.mem_singleton.mp member
    exact reason

theorem SendInv.pass (inv : SendInv outs c) (top : c.phase = .top) (opened : Bool) (rand : Nat) :
    ∃ c' o, c.pass opened rand = .ok (c', o) ∧ Sends outs o c' := by
  obtain ⟨state, timer, terminateThread, ended, phase, proto, queues⟩ := c
  obtain rfl : phase = .top := top
  obtain rfl : terminateThread = false := inv.running
  have still : ∀ q' ∈ queues, ∃ q ∈ queues, q'.sending = q.sending := fun q' member => ⟨q', member, rfl⟩
  unfold IRCClient.pass
  simp only [Bool.false_eq_true, if_false]
  split
  · -- the connection is opened
    split
    · cases opened with
      | false => exact ⟨_, _, rfl, inv.silent still inv.queued (.inl rfl) rfl⟩
      | true => exact ⟨_, _, rfl, inv.silent still (by simp) (.inl rfl) rfl⟩
    · exact ⟨_, _, rfl, inv.silent still inv.queued (.inl rfl) rfl⟩
  · -- new queues
    refine ⟨_, _, rfl, ⟨⟨[], [], ?_, ?_, ?_⟩, fun _ => rfl, .inr rfl, rfl⟩, by simp, by simp⟩
    · rw [account_append]
      rfl
    · rw [account_append]
      rfl
    · intro q member
      cases member
      rfl
  · cases queues with
    | none => cases inv.queued rfl
    | some q =>
        dsimp only
        split
        · have given := inv.giveUp (.inl rfl)
          exact ⟨_, _, rfl, given⟩
        · refine ⟨_, _, rfl, inv.quiet ?_ ?_ ?_ (fun _ => rfl) (.inr rfl) rfl⟩
          · intro x member
            obtain ⟨call, -, rfl⟩ := List.mem_map.mp member
            exact ⟨fun _ => rfl, by simp⟩
          · intro why member
            obtain ⟨call, -, same⟩ := List.mem_map.mp member
            cases same
          · intro q' member
            cases member
            exact ⟨q, rfl, rfl⟩
  · -- the queues are deleted
    refine ⟨_, _, rfl, inv.quiet ?_ (by simp) (by simp) (by simp) (.inl rfl) rfl⟩
    intro x member
    rw [List.mem_singleton.mp member]
    exact ⟨fun _ => rfl, by simp⟩
  · exact ⟨_, _, rfl, inv.silent still inv.queued (.inl rfl) rfl⟩

theorem SendInv.putNext (inv : SendInv outs c) : ∃ c' o, c.putNext = .ok (c', o) ∧ Sends outs o c' := by
  have still : ∀ q' ∈ c.queues, ∃ q ∈ c.queues, q'.sending = q.sending := fun q' member => ⟨q', member, rfl⟩
  unfold IRCClient.putNext
  split
  · rename_i m messages res phase
    have state : c.state = 5 := inv.busy.resolve_left (by simp [phase])
    obtain ⟨q, there⟩ := Option.isSome_iff_exists.mp (inv.queued state)
    rw [there]
    exact ⟨_, _, rfl, inv.put there m rfl (.inr state) inv.running⟩
  · rename_i res phase
    have state : c.state = 5 := inv.busy.resolve_left (by simp [phase])
    cases res with
    | true => exact ⟨_, _, rfl, inv.silent still inv.queued (.inr state) inv.running⟩
    | false => exact ⟨_, _, rfl, inv.giveUp (.inr rfl)⟩
  · exact ⟨_, _, rfl, inv.idle⟩

/-- Messages that fit are written whole. -/
theorem SendInv.sendNext (inv : SendInv outs c) (fits : ∀ m ∈ (account outs).1, m.Fits) :
    ∃ c' o, c.sendNext false = .ok (c', o) ∧ Sends outs o c' := by
  unfold IRCClient.sendNext
  split
  · rename_i phase
    have state : c.state = 5 := inv.busy.resolve_left (by simp [phase])
    obtain ⟨⟨received, eof, sending⟩, there⟩ := Option.isSome_iff_exists.mp (inv.queued state)
    obtain ⟨sent, left, split, written, rest⟩ := inv.accounted
    obtain rfl : sending = left := rest _ there
    rw [there]
    cases sending with
    | nil =>
        rw [List.append_nil] at split
        refine ⟨_, _, rfl, ⟨⟨sent, [], ?_, ?_, fun _ member => rest _ (there.trans member)⟩, fun _ => rfl,
          .inl rfl, inv.running⟩, by simp, fun _ => ?_⟩
        · rw [account_append, List.append_nil]
          exact split
        · rw [account_append]
          exact written
        · rw [split]
          exact written
    | cons m left =>
        obtain ⟨text, composed, copied, newline⟩ := (fits m (by rw [split]; simp)).copied
        have known : m.wire.composeMessage = .ok text := composed
        simp only [known, copied, newline, if_true, Bool.false_eq_true, if_false]
        have recorded : account (outs ++ [.wrote text]) = ((account outs).1, (account outs).2 ++ [text]) :=
          account_append outs [.wrote text]
        refine ⟨_, _, rfl, ⟨⟨sent ++ [m], left, ?_, ?_, ?_⟩, fun _ => rfl, .inr state, inv.running⟩, by simp,
          by simp⟩
        · rw [recorded, split, List.append_assoc]
          rfl
        · rw [recorded]
          exact mapM_snoc written composed
        · intro q' member
          cases member
          rfl
  · exact ⟨_, _, rfl, inv.idle⟩

/-- The thread goes on, and no write is short. -/
def Kept (_ : IRCClient) (e : ClientEvent) : Prop := e ≠ .stopWork ∧ e ≠ .sendNext true

instance (c : IRCClient) (e : ClientEvent) : Decidable (Kept c e) := inferInstanceAs (Decidable (_ ∧ _))

theorem SendInv.step (inv : SendInv outs c) {e : ClientEvent} (kept : Kept c e)
    (fits : ∀ m ∈ (account outs).1, m.Fits) :
    ∃ c' o, IRCClient.step c e = .ok (c', o) ∧ Sends outs o c' := by
  -- the receiver's changes leave the send queue as it is
  have mapped (f : ClientQueues → ClientQueues) (same : ∀ q, (f q).sending = q.sending) :
      Sends outs [] { c with queues := c.queues.map f } := by
    refine inv.silent ?_ (fun state => by simpa using inv.queued state) inv.busy inv.running
    intro q' member
    obtain ⟨q, there, rfl⟩ := Option.map_eq_some_iff.mp member
    exact ⟨q, there, same q⟩
  cases e with
  | pass opened rand =>
      simp only [IRCClient.step]
      split
      · rename_i top
        split
        · exact ⟨_, _, rfl, inv.idle⟩
        · exact inv.pass top opened rand
      · exact ⟨_, _, rfl, inv.idle⟩
  | putNext => exact inv.putNext
  | sendNext short =>
      cases short with
      | false => exact inv.sendNext fits
      | true => exact absurd rfl kept.2
  | received m => exact ⟨_, _, rfl, mapped _ fun _ => rfl⟩
  | signalEOF => exact ⟨_, _, rfl, mapped _ fun _ => rfl⟩
  | queued m =>
      simp only [IRCClient.step]
      cases there : c.queues with
      | none => exact ⟨_, _, rfl, inv.idle⟩
      | some q => exact ⟨_, _, rfl, inv.put there m rfl inv.busy inv.running⟩
  | stopWork => exact absurd rfl kept.1

end

/-- While nothing is short or stopped and the messages fit: the texts written are those of the
first messages put since the connection was opened, the others are on the queue while there is
one, and at the end of each round all have been written. The connection is given up for no
message, and no step fails. -/
theorem messages_sent {proto : IRCProtocol} {tr : List ClientEntry} {c : IRCClient}
    (run : Run step (init proto) tr c) (kept : Under Kept tr)
    (fits : ∀ m, .put m ∈ tr.flatMap (·.outs) → m.Fits) :
    Accounted (account (tr.flatMap (·.outs))) c.queues ∧
    Throughout (fun before x => (∀ why, .gaveUp why ∈ x.outs → why = .eof ∨ why = .protocol) ∧
      (.drained ∈ x.outs → (account (before.flatMap (·.outs))).1.mapM IRCMessage.compose =
        .ok (account (before.flatMap (·.outs))).2)) tr ∧
    ∀ e, Kept c e → ∃ c' o, step c e = .ok (c', o) := by
  have both : SendInv (tr.flatMap (·.outs)) c ∧
      Throughout (fun before x => (∀ why, .gaveUp why ∈ x.outs → why = .eof ∨ why = .protocol) ∧
        (.drained ∈ x.outs → (account (before.flatMap (·.outs))).1.mapM IRCMessage.compose =
          .ok (account (before.flatMap (·.outs))).2)) tr := by
    induction run with
    | nil =>
        refine ⟨⟨⟨[], [], rfl, rfl, fun q member => ?_⟩, fun state => ?_, .inl rfl, rfl⟩, throughout_nil _⟩
        · cases member
        · cases state
    | @snoc tr s e s' o before last ih =>
        rw [under_snoc] at kept
        rw [List.flatMap_append] at fits ⊢
        obtain ⟨inv, sofar⟩ := ih kept.1 fun m member => fits m (List.mem_append_left _ member)
        obtain ⟨c', o', taken, sends⟩ := inv.step kept.2 fun m member =>
          fits m (List.mem_append_left _ (put_of_mem_account member))
        rw [last, Except.ok.injEq, Prod.mk.injEq] at taken
        obtain ⟨rfl, rfl⟩ := taken
        have newest : [(⟨s, e, o, s'⟩ : ClientEntry)].flatMap (·.outs) = o := by simp
        rw [newest]
        exact ⟨sends.inv, (throughout_snoc _ _ _).mpr ⟨sofar, sends.gaveUp, sends.drained⟩⟩
  refine ⟨both.1.accounted, both.2, fun e going => ?_⟩
  obtain ⟨c', o, taken, -⟩ := both.1.step going fun m member => fits m (put_of_mem_account member)
  exact ⟨c', o, taken⟩

/-! A reply that is put on the queue, and what becomes of it. -/

def pingedClient : IRCClient := init (.init (str "ab1cde") (str "secret") (str "#dstar") [] 0)

/-- The message that is put on the queue. -/
def putMessage : ClientOutput → Option IRCMessage
  | .put m => some m
  | _ => none

/-- The connection is opened and the messages come, which puts others on the queue. -/
def pinged (messages : List IRCMessage) (puts : Nat) : List ClientEvent :=
  .pass true 0 :: .pass true 0 :: messages.map .received ++ .pass true 0 :: List.replicate puts .putNext

/-- The server's `PING`, with a text of `n` characters. -/
def pingOf (n : Nat) : IRCMessage := ⟨str "irc", str "PING", [List.replicate n 120]⟩

/-- A reply of twenty characters is sent with the first messages of the login. -/
theorem reply_sent : ∃ tr c, Run step pingedClient tr c ∧
    (account (tr.flatMap (·.outs))).2.head? = some (str "PONG :xxxxxxxxxxxxxxxxxxxx" ++ [13, 10]) ∧
    Accounted (account (tr.flatMap (·.outs))) c.queues := by
  obtain ⟨tr, c, run, checked⟩ := exists_run_of_accepts step pingedClient
    (pinged [pingOf 20] 4 ++ List.replicate 4 (.sendNext false))
    (fun tr _ => decide (Under Kept tr) &&
      (decide ((account (tr.flatMap (·.outs))).2.head? = some (str "PONG :xxxxxxxxxxxxxxxxxxxx" ++ [13, 10])) &&
        ((tr.flatMap (·.outs)).filterMap putMessage).all fun m => decide m.Fits))
    (by decide +kernel)
  simp only [Bool.and_eq_true, decide_eq_true_eq, List.all_eq_true] at checked
  obtain ⟨kept, written, fits⟩ := checked
  exact ⟨tr, c, run, written,
    (messages_sent run kept fun m member => fits m (List.mem_filterMap.mpr ⟨_, member, rfl⟩)).1⟩

/-- The reply to a `PING` that comes with a `KICK` is dropped with the connection, and a
reply too long for the buffer drops the connection itself. -/
theorem reply_lost :
    (∃ tr c, Run step pingedClient tr c ∧ Under Kept tr ∧
      account (tr.flatMap (·.outs)) = ([IRCProtocol.pong (pingOf 1)], []) ∧ c.queues.isNone) ∧
    ∃ tr c, Run step pingedClient tr c ∧ Under Kept tr ∧ .gaveUp .noNewline ∈ tr.flatMap (·.outs) := by
  constructor
  · obtain ⟨tr, c, run, checked⟩ := exists_run_of_accepts step pingedClient
      (pinged [pingOf 1, ⟨str "irc", str "KICK", [str "#dstar", str "ab1cde-1"]⟩] 2 ++ [.pass true 0])
      (fun tr c => decide (Under Kept tr) &&
        (decide (account (tr.flatMap (·.outs)) = ([IRCProtocol.pong (pingOf 1)], [])) && c.queues.isNone))
      (by decide +kernel)
    simp only [Bool.and_eq_true, decide_eq_true_eq] at checked
    exact ⟨tr, c, run, checked.1, checked.2.1, checked.2.2⟩
  · obtain ⟨tr, c, run, checked⟩ := exists_run_of_accepts step pingedClient
      (pinged [pingOf 200] 4 ++ [.sendNext false])
      (fun tr _ => decide (Under Kept tr) && decide (ClientOutput.gaveUp .noNewline ∈ tr.flatMap (·.outs)))
      (by decide +kernel)
    simp only [Bool.and_eq_true, decide_eq_true_eq] at checked
    exact ⟨tr, c, run, checked.1, checked.2⟩

end IRCClient
end SmartGroup
