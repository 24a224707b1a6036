import SmartGroup.Remote.Server

/-! Whether each connection that is accepted is released before the next one. -/
namespace SmartGroup
open Bytes

/-! What a history of events should be. -/

/-- What is held of a connection. -/
structure Held where
  fd : Option Int
  ssl : Option Nat
  deriving DecidableEq, Repr

namespace Held

def nothing : Held := ⟨none, none⟩

/-- A connection is accepted, and the server destroyed, when nothing is held; what is
freed and closed is held. -/
def next (h : Held) : RemoteEvent → Option Held
  | .accepted fd => if h = nothing then some ⟨some fd, none⟩ else none
  | .sslNew ssl => if h.ssl = none then some { h with ssl := some ssl } else none
  | .sslFree ssl => if h.ssl = some ssl then some { h with ssl := none } else none
  | .close fd => if h.fd = some fd then some { h with fd := none } else none
  | .destroyed => if h = nothing then some h else none
  | .wrote _ => some h
  | .request _ => some h
  | .closedSocket _ => some h
  | .freedContext => some h

/-- What is held behind the events, if each of them may happen. -/
def after (h : Held) (events : List RemoteEvent) : Option Held := events.foldlM next h

@[simp] theorem after_nil (h : Held) : h.after [] = some h := rfl

@[simp] theorem after_cons (h : Held) (e : RemoteEvent) (events : List RemoteEvent) :
    h.after (e :: events) = (h.next e).bind (·.after events) := List.foldlM_cons

theorem after_append (h : Held) (events more : List RemoteEvent) :
    h.after (events ++ more) = (h.after events).bind (·.after more) := List.foldlM_append

end Held

/-- Each connection is closed, and its SSL object freed, exactly once before the next one is
accepted and before the server is destroyed, and nothing else is closed. -/
def Released (history : List RemoteEvent) : Prop := (Held.nothing.after history).isSome

instance (history : List RemoteEvent) : Decidable (Released history) := inferInstanceAs (Decidable (_ = true))

namespace RemoteHandler

/-- The events of a run. -/
def history (tr : List (Machine.Entry RemoteHandler Turn RemoteEvent)) : List RemoteEvent := tr.flatMap (·.outs)

/-- A connection is accepted when the SSL object of the one before has been freed; the handler is
deleted before the first connection has been closed, or while one is open. -/
def Meets (h : RemoteHandler) : Turn → Prop
  | .process a => a.ready → 0 ≤ a.fd → h.server.ssl = none
  | .delete => h.server.ssl ≠ none ↔ 0 ≤ h.server.client

instance (h : RemoteHandler) : (t : Turn) → Decidable (h.Meets t)
  | .process a => inferInstanceAs (Decidable (a.ready → 0 ≤ a.fd → h.server.ssl = none))
  | .delete => inferInstanceAs (Decidable (h.server.ssl ≠ none ↔ 0 ≤ h.server.client))

end RemoteHandler

namespace TLSServer

/-- What is held, as the members tell it. -/
structure Follows (s : TLSServer) (h : Held) : Prop where
  ssl : h.ssl = s.ssl
  released : s.ssl = none → h = .nothing
  client : s.ssl ≠ none → 0 ≤ s.client → h.fd = some s.client
  fd : s.ssl ≠ none → h.fd ≠ none

theorem follows_nothing {s : TLSServer} (unset : s.ssl = none) : s.Follows .nothing :=
  ⟨unset.symm, fun _ => rfl, fun set => absurd unset set, fun set => absurd unset set⟩

theorem closeClient_held {s : TLSServer} (accepted : 0 ≤ s.client) :
    Held.after ⟨some s.client, s.ssl⟩ s.closeClient.2 = some .nothing := by
  cases ssl : s.ssl with
  | none => simp [closeClient, ssl, accepted, Held.next, Held.nothing]
  | some ssl => simp [closeClient, *, Held.next, Held.nothing]

/-- The exits of `GetCommand`: nothing is accepted; the connection is given up; or a command
has been read. -/
inductive Got (s : TLSServer) (a : Attempt) : Option Str × TLSServer × List RemoteEvent → Prop
  | idle (client : Int) (none : ¬(a.ready ∧ 0 ≤ a.fd)) (kept : client = s.client ∨ client < 0) :
      Got s a (.none, { s with client }, [])
  | failed (ssl : Option Nat) (said : List RemoteEvent) (ready : a.ready) (accepted : 0 ≤ a.fd)
      (holds : Held.after ⟨some a.fd, none⟩ said = some ⟨some a.fd, ssl⟩) :
      Got s a (none, ({ s with client := a.fd, ssl } : TLSServer).closeClient.1,
        .accepted a.fd :: (said ++ ({ s with client := a.fd, ssl } : TLSServer).closeClient.2))
  | taken (ssl : Nat) (ready : a.ready) (accepted : 0 ≤ a.fd) (right : s.password = a.password) :
      Got s a (some a.command, { s with client := a.fd, ssl := some ssl },
        [.accepted a.fd, .sslNew ssl, .wrote (str "pass")])

theorem getCommand_got (s : TLSServer) (a : Attempt) : Got s a (s.getCommand a) := by
  unfold getCommand
  split
  · rename_i idle
    exact .idle s.client (fun both => idle both.1) (.inl rfl)
  · rename_i ready
    have ready : a.ready := not_not.mp ready
    dsimp only
    split
    · rename_i refused
      exact .idle a.fd (fun both => absurd refused (Int.not_lt.mpr both.2)) (.inr refused)
    · rename_i accepted
      have accepted : 0 ≤ a.fd := Int.not_lt.mp accepted
      cases a.ssl with
      | none => exact .failed none [] ready accepted rfl
      | some ssl =>
          dsimp only
          split
          · exact .failed (some ssl) [.sslNew ssl] ready accepted rfl
          · split
            · exact .failed (some ssl) [.sslNew ssl, .wrote (str "fail")] ready accepted rfl
            · rename_i same
              exact .taken ssl ready accepted (not_not.mp same)

theorem follows_idle {s : TLSServer} {h : Held} {client : Int} (follows : s.Follows h)
    (kept : client = s.client ∨ client < 0) : ({ s with client } : TLSServer).Follows h where
  ssl := follows.ssl
  released := follows.released
  client := by
    intro set accepted
    rcases kept with rfl | negative
    · exact follows.client set accepted
    · exact absurd negative (Int.not_lt.mpr accepted)
  fd := follows.fd

end TLSServer

namespace RemoteHandler
open TLSServer

theorem answer_held (h : Held) (c : RemoteCommand) : h.after (.request c :: c.answer) = some h := by cases c <;> rfl

/-- A call of `process` when a connection that is accepted finds nothing held. -/
theorem process_held {s : TLSServer} {a : Attempt} {h : Held} (follows : s.Follows h)
    (free : a.ready → 0 ≤ a.fd → s.ssl = none) :
    ∃ h', h.after (process s a).2.2 = some h' ∧ (process s a).2.1.Follows h' := by
  have got := getCommand_got s a
  unfold process
  revert got
  generalize s.getCommand a = r
  intro got
  cases got with
  | idle client none kept => exact ⟨h, rfl, follows_idle follows kept⟩
  | failed ssl said ready accepted holds =>
      obtain rfl := follows.released (free ready accepted)
      refine ⟨.nothing, ?_, follows_nothing rfl⟩
      rw [Held.after_cons, Held.next, if_pos rfl, Option.bind_some, Held.after_append, holds, Option.bind_some]
      exact closeClient_held (s := { s with client := a.fd, ssl }) accepted
  | taken ssl ready accepted right =>
      obtain rfl := follows.released (free ready accepted)
      let opened : TLSServer := { s with client := a.fd, ssl := some ssl }
      have holds : Held.nothing.after ([.accepted a.fd, .sslNew ssl, .wrote (str "pass")] ++
          .request (interpret a.known a.command) :: (interpret a.known a.command).answer) = some ⟨some a.fd, some ssl⟩ := by
        rw [Held.after_append]
        exact answer_held ⟨some a.fd, some ssl⟩ _
      dsimp only
      split
      · exact ⟨_, holds, rfl, by simp, fun _ _ => rfl, fun _ => by simp⟩
      · refine ⟨.nothing, ?_, follows_nothing rfl⟩
        rw [Held.after_append, holds, Option.bind_some]
        exact closeClient_held (s := opened) accepted

/-- A connection that is accepted while another one is held. -/
theorem process_not_held {s : TLSServer} {a : Attempt} {h : Held} (follows : s.Follows h) (ready : a.ready)
    (accepted : 0 ≤ a.fd) (set : s.ssl ≠ none) : h.after (process s a).2.2 = none := by
  have held : h ≠ .nothing := by
    rintro rfl
    exact follows.fd set rfl
  have got := getCommand_got s a
  unfold process
  revert got
  generalize s.getCommand a = r
  intro got
  cases got with
  | idle client none kept => exact absurd ⟨ready, accepted⟩ none
  | failed ssl said => rw [Held.after_cons, Held.next, if_neg held, Option.bind_none]
  | taken ssl =>
      dsimp only
      split <;> simp only [List.cons_append, Held.after_cons, Held.next, if_neg held, Option.bind_none]

/-- The destructor releases what is held when a connection is open, or none has been closed. -/
theorem destroy_held {s : TLSServer} {h : Held} (follows : s.Follows h) :
    (h.after s.destroy).isSome ↔ (s.ssl ≠ none ↔ 0 ≤ s.client) := by
  have sockets (h : Held) : h.after ((if 0 ≤ s.sock then [.closedSocket s.sock] else []) ++
      ((if s.hasContext then [.freedContext] else []) ++ [.destroyed])) = h.next .destroyed := by
    split <;> split <;> simp [Held.next]
  have whole : h.after s.destroy = (h.after s.closeClient.2).bind (·.next .destroyed) := by
    rw [TLSServer.destroy, List.append_assoc, List.append_assoc, Held.after_append]
    simp only [sockets]
  rw [whole]
  by_cases set : s.ssl = none
  · obtain rfl := follows.released set
    by_cases closed : 0 ≤ s.client <;> simp [closeClient, set, closed, Held.next, Held.nothing]
  · obtain ⟨ssl, owned⟩ := Option.ne_none_iff_exists'.mp set
    have ssl_held : h.ssl = some ssl := follows.ssl.trans owned
    by_cases accepted : 0 ≤ s.client
    · have both : h = ⟨some s.client, s.ssl⟩ := by
        rw [← follows.ssl, ← follows.client set accepted]
      rw [both, closeClient_held accepted]
      simp [Held.next, set, accepted]
    · have lost : h.fd ≠ none := follows.fd set
      simp [closeClient, owned, accepted, Held.next, ssl_held, Held.nothing, lost]

/-! Runs. -/

/-- What is held after the run, unless the handler has been deleted. -/
def Tracks (tr : List (Machine.Entry RemoteHandler Turn RemoteEvent)) (h : RemoteHandler) : Prop :=
  ∃ held, Held.nothing.after (history tr) = some held ∧ (h.deleted = false → h.server.Follows held)

theorem tracks_step {tr : List (Machine.Entry RemoteHandler Turn RemoteEvent)} {h h' : RemoteHandler} {t : Turn}
    {o : List RemoteEvent} (tracks : Tracks tr h) (done : step h t = .ok (h', o)) :
    (Released (history (tr ++ [⟨h, t, o, h'⟩])) ↔ h.Meets t) ∧ (h.Meets t → Tracks (tr ++ [⟨h, t, o, h'⟩]) h') := by
  obtain ⟨held, sofar, follows⟩ := tracks
  have longer : Held.nothing.after (history (tr ++ [⟨h, t, o, h'⟩])) = held.after o := by
    rw [history, List.flatMap_append, List.flatMap_singleton, Held.after_append, ← history, sofar, Option.bind_some]
  rw [Released, Tracks, longer]
  cases t with
  | process a =>
      obtain ⟨⟨-, live⟩, rfl, rfl⟩ := step_process done
      by_cases free : a.ready → 0 ≤ a.fd → h.server.ssl = none
      · obtain ⟨held', after, follows'⟩ := process_held (follows live) free
        rw [after]
        exact ⟨iff_of_true rfl free, fun _ => ⟨held', rfl, fun _ => follows'⟩⟩
      · have lost : held.after (process h.server a).2.2 = none := by
          simp only [Classical.not_imp] at free
          exact process_not_held (follows live) free.1 free.2.1 free.2.2
        rw [lost]
        exact ⟨iff_of_false Bool.false_ne_true free, fun met => absurd met free⟩
  | delete =>
      obtain ⟨live, rfl, rfl⟩ := step_delete done
      have meets := destroy_held (follows live)
      refine ⟨meets, fun met => ?_⟩
      obtain ⟨held', after⟩ := Option.isSome_iff_exists.mp (meets.mpr met)
      exact ⟨held', after, by simp⟩

/-- Releasing is told step by step: what has gone wrong stays wrong. -/
theorem released_snoc {tr : List (Machine.Entry RemoteHandler Turn RemoteEvent)}
    {x : Machine.Entry RemoteHandler Turn RemoteEvent} (released : Released (history (tr ++ [x]))) :
    Released (history tr) := by
  rw [Released, history, List.flatMap_append, Held.after_append] at released
  rw [Released, history]
  cases after : Held.nothing.after (tr.flatMap (·.outs)) with
  | none =>
      rw [after] at released
      cases released
  | some held => rfl

/-- Every connection of a run is released exactly when each turn finds the server as it
needs it. -/
theorem connections_released_iff {sock : Int} {hasContext : Bool} {password : Str}
    {tr : List (Machine.Entry RemoteHandler Turn RemoteEvent)} {h : RemoteHandler}
    (run : Machine.Run step (new (.new sock hasContext password)) tr h) :
    Released (history tr) ↔ Machine.Under Meets tr := by
  have both : (Released (history tr) ↔ Machine.Under Meets tr) ∧ (Machine.Under Meets tr → Tracks tr h) := by
    induction run with
    | nil => exact ⟨iff_of_true rfl (Machine.under_nil Meets), fun _ => ⟨.nothing, rfl, fun _ => follows_nothing rfl⟩⟩
    | @snoc tr h t h' o before last ih =>
        rw [Machine.under_snoc]
        constructor
        · constructor
          · intro released
            have sofar := ih.1.mp (released_snoc released)
            exact ⟨sofar, (tracks_step (ih.2 sofar) last).1.mp released⟩
          · rintro ⟨sofar, met⟩
            exact (tracks_step (ih.2 sofar) last).1.mpr met
        · rintro ⟨sofar, met⟩
          exact (tracks_step (ih.2 sofar) last).2 met
  exact both.1

/-- A client that says the password and one word. -/
def oneWord (fd : Int) (password : Str) : Turn :=
  .process ⟨true, fd, some 1, 1, 1, password, [120], fun _ => false⟩

/-- A client that is answered, and the end of the thread while the last one is open. -/
theorem released_answered : ∃ tr h, Machine.Run step (new (.new 3 true [112])) tr h ∧ Released (history tr) := by
  obtain ⟨tr, h, run, met⟩ := Machine.exists_run_of_accepts step (new (.new 3 true [112]))
    [.process ⟨true, 4, some 1, 1, 1, [112], [120, 32, 120], fun _ => false⟩, oneWord 5 [112], .delete]
    (fun tr _ => decide (Machine.Under Meets tr)) (by decide +kernel)
  exact ⟨tr, h, run, (connections_released_iff run).mpr (of_decide_eq_true met)⟩

/-- A command of one word leaves the connection open, and the next one is accepted; and
after a wrong password the destructor closes descriptor 0. -/
theorem connections_not_released :
    (∃ tr h, Machine.exec step (new (.new 3 true [112])) [oneWord 4 [112], oneWord 5 [112]] = .ok (tr, h) ∧
      ¬Released (history tr)) ∧
    ∃ tr h, Machine.exec step (new (.new 3 true [112])) [oneWord 4 [], .delete] = .ok (tr, h) ∧
      .close 0 ∈ history tr ∧ ¬Released (history tr) := by
  constructor
  · obtain ⟨tr, h, ran, holds⟩ := Machine.exists_exec_of_accepts step (new (.new 3 true [112]))
      [oneWord 4 [112], oneWord 5 [112]] (fun tr _ => decide (¬Released (history tr))) (by decide +kernel)
    exact ⟨tr, h, ran, of_decide_eq_true holds⟩
  · obtain ⟨tr, h, ran, holds⟩ := Machine.exists_exec_of_accepts step (new (.new 3 true [112]))
      [oneWord 4 [], .delete] (fun tr _ => decide (.close 0 ∈ history tr ∧ ¬Released (history tr))) (by decide +kernel)
    exact ⟨tr, h, ran, of_decide_eq_true holds⟩

end RemoteHandler
end SmartGroup
