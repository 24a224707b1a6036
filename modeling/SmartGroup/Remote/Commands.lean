import SmartGroup.Link.Frame
import SmartGroup.Remote.Server

/-! The remote control and the groups: which commands reach them, and what they reach. -/
namespace SmartGroup
open Bytes Sweep Machine World

variable {n : Nat}

namespace World

/-- `CGroupHandler::findGroup(const std::string &)`. -/
def findGroup (w : World n) (callsign : Str) : Option (Fin n) :=
  (List.finRange n).find? fun i => (w.groups i).groupCallsign = callsign

/-- The event that a command is for the group that it names; a command for a group that is not there, and every
other command, is none. -/
def ordered (w : World n) (env : Env) (port : Option Nat) : RemoteCommand → Option (LinkEvent n)
  | .link group reflector => (w.findGroup group).map fun i => .remoteLink i env reflector port
  | .unlink group => (w.findGroup group).map fun i => .remoteUnlink i env
  | .drop group user => (w.findGroup group).map fun i => .group i (.logoffUser user)
  | _ => none

end World

/-- What the network gives in a turn of the remote control: the calls of `GetCommand`, and for a link the caches
and the port of the socket that can be opened. -/
structure RemoteTurn where
  attempt : Attempt
  env : Env
  port : Option Nat

structure RemoteServer (n : Nat) where
  world : World n
  handler : RemoteHandler

namespace RemoteServer

/-- The groups are looked up in the server's own list. -/
def attempt (s : RemoteServer n) (t : RemoteTurn) : Attempt :=
  { t.attempt with known := fun callsign => (s.world.findGroup callsign).isSome }

/-- The command of the turn, when the client has given one. -/
def command (s : RemoteServer n) (t : RemoteTurn) : Option RemoteCommand :=
  ((s.handler.server.getCommand (s.attempt t)).1).map (interpret (s.attempt t).known)

inductive Stopped where
  | ended
  | fault (f : Fault)

/-- A turn of `CRemoteHandler::process` with the group functions that it calls. -/
def step : Machine.Step (RemoteServer n) RemoteTurn RemoteEvent Stopped := fun s t =>
  match s.handler.step (.process (s.attempt t)) with
  | .error _ => .error .ended
  | .ok (handler, events) =>
      match (s.command t).bind (s.world.ordered t.env t.port) with
      | none => .ok (⟨s.world, handler⟩, events)
      | some e =>
          match s.world.step e with
          | .error f => .error (.fault f)
          | .ok (world, _) => .ok (⟨world, handler⟩, events)

/-- The client has gone through the handshake and has given the password. -/
def Authentic (password : Str) (t : RemoteTurn) : Prop :=
  t.attempt.ready = true ∧ 0 ≤ t.attempt.fd ∧ t.attempt.ssl.isSome ∧ t.attempt.setFd ≠ 0 ∧
    0 < t.attempt.handshake ∧ t.attempt.password = password

/-- The words of a command that does something to a group. -/
def Orders (text group : Str) : Prop :=
  ∃ verb word rest, stringTokenizer text = verb :: word :: rest ∧ group = wordCallsign word ∧
    (verb = str "link" ∧ rest ≠ [] ∨ verb = str "unlink" ∨ verb = str "drop" ∧ rest ≠ [])

abbrev TurnEntry (n : Nat) := Entry (RemoteServer n) RemoteTurn RemoteEvent

section
variable {s s' : RemoteServer n} {t : RemoteTurn} {o : List RemoteEvent}

theorem authentic_of_getCommand {server : TLSServer} {a : Attempt} {text : Str}
    (given : (server.getCommand a).1 = some text) :
    text = a.command ∧ a.ready = true ∧ 0 ≤ a.fd ∧ a.ssl.isSome ∧ a.setFd ≠ 0 ∧ 0 < a.handshake ∧
      a.password = server.password := by
  unfold TLSServer.getCommand at given
  split at given
  · cases given
  · rename_i ready
    dsimp only at given
    split at given
    · cases given
    · rename_i accepted
      split at given
      · cases given
      · rename_i ssl opened
        split at given
        · cases given
        · rename_i shaken
          split at given
          · cases given
          · rename_i known
            obtain ⟨first, second⟩ := not_or.mp shaken
            refine ⟨(Option.some.inj given).symm, not_not.mp ready, Int.not_lt.mp accepted, ?_, first,
              Int.not_le.mp second, (not_not.mp known).symm⟩
            rw [opened]
            rfl

/-- A command that has an event is an order for the group that the event is for. -/
theorem orders_of_ordered {w : World n} {env : Env} {port : Option Nat} {known : Str → Bool} {text : Str}
    {e : LinkEvent n} (event : w.ordered env port (interpret known text) = some e) :
    ∃ i group, e.isFor i ∧ Orders text group ∧ w.findGroup group = some i := by
  have named {group : Str} {f : Fin n → LinkEvent n} (event : (w.findGroup group).map f = some e)
      (own : ∀ i, (f i).isFor i) (orders : Orders text group) :
      ∃ i group, e.isFor i ∧ Orders text group ∧ w.findGroup group = some i := by
    obtain ⟨i, found, rfl⟩ := Option.map_eq_some_iff.mp event
    exact ⟨i, group, own i, orders, found⟩
  unfold interpret at event
  split at event
  · cases event
  · rename_i verb arguments words
    split at event
    · cases event
    · split at event
      · cases event
      · rename_i word rest
        dsimp only at event
        split at event
        · split at event <;> cases event
        · split at event
          · split at event
            · rename_i third more
              have three : third :: more ≠ [] := List.cons_ne_nil third more
              split at event
              · rename_i link
                exact named event (fun _ => rfl) ⟨verb, word, _, words, rfl, .inl ⟨link, three⟩⟩
              · split at event
                · rename_i unlink
                  exact named event (fun _ => rfl) ⟨verb, word, _, words, rfl, .inr (.inl unlink)⟩
                · split at event
                  · rename_i drop
                    exact named event (fun _ => rfl) ⟨verb, word, _, words, rfl, .inr (.inr ⟨drop, three⟩)⟩
                  · cases event
            · split at event
              · rename_i unlink
                exact named event (fun _ => rfl) ⟨verb, word, _, words, rfl, .inr (.inl unlink)⟩
              · cases event
          · cases event

theorem getCommand_password (server : TLSServer) (a : Attempt) :
    (server.getCommand a).2.1.password = server.password := by
  unfold TLSServer.getCommand
  split
  · rfl
  · dsimp only
    split
    · rfl
    · split
      · rfl
      · split
        · rfl
        · split <;> rfl

theorem process_password (server : TLSServer) (a : Attempt) :
    (RemoteHandler.process server a).2.1.password = server.password := by
  have kept := getCommand_password server a
  unfold RemoteHandler.process TLSServer.closeClient
  split
  · rename_i got
    rwa [got] at kept
  · rename_i got
    rw [got] at kept
    dsimp only
    split <;> exact kept

/-- What a turn does to a group that it has no order for: nothing. -/
theorem step_untouched (taken : step s t = .ok (s', o)) (j : Fin n)
    (spared : Authentic s.handler.server.password t → ∀ group, Orders t.attempt.command group →
      s.world.findGroup group ≠ some j) :
    Untouched j s.world s'.world ∧ s'.handler.server.password = s.handler.server.password := by
  unfold step at taken
  split at taken
  · cases taken
  · rename_i handler events turn
    obtain ⟨-, -, rfl⟩ := RemoteHandler.step_process turn
    have password := process_password s.handler.server (s.attempt t)
    split at taken
    · cases taken
      exact ⟨.refl j _, password⟩
    · rename_i e event
      split at taken
      · cases taken
      · rename_i world outs moved
        cases taken
        refine ⟨?_, password⟩
        obtain ⟨c, given, event⟩ := Option.bind_eq_some_iff.mp event
        obtain ⟨text, got, rfl⟩ := Option.map_eq_some_iff.mp given
        obtain ⟨rfl, authentic⟩ := authentic_of_getCommand got
        obtain ⟨i, group, own, orders, found⟩ := orders_of_ordered event
        have apart : j ≠ i := by
          intro same
          exact spared authentic group orders (same ▸ found)
        exact untouched_step apart own moved

/-- The remote control reaches the groups that it names. In every run of connections, whatever the clients send
and however the handshakes go, a group with its links is as it was, unless one of the clients has given the
password and a command to link, to unlink or to drop whose second word is the callsign of the group. -/
theorem remote_reaches_named {tr : List (TurnEntry n)} (run : Run step s tr s') (j : Fin n)
    (spared : ∀ x ∈ tr, Authentic s.handler.server.password x.event → ∀ group,
      Orders x.event.attempt.command group → x.pre.world.findGroup group ≠ some j) :
    Untouched j s.world s'.world := by
  have kept : Untouched j s.world s'.world ∧ s'.handler.server.password = s.handler.server.password := by
    induction run with
    | nil => exact ⟨.refl j _, rfl⟩
    | @snoc tr u t u' o before last ih =>
        obtain ⟨sofar, password⟩ := ih fun x member => spared x (List.mem_append_left _ member)
        have here := spared ⟨u, t, o, u'⟩ (by simp)
        rw [← password] at here
        obtain ⟨now, same⟩ := step_untouched last j here
        exact ⟨sofar.trans now, same.trans password⟩
  exact kept.1

end
section
open Sample

def password : Str := str "secret"

def remoteServer : RemoteServer 2 := ⟨bothGroups, .new (.new 5 true password)⟩

/-- A connection whose client gives the password and the command. -/
def connection (given command : Str) : RemoteTurn where
  attempt := ⟨true, 7, some 0, 1, 1, given, command, fun _ => false⟩
  env := linkEnv
  port := some 40001

/-- Somebody guesses the password; then the first group is linked, and nothing happens to the second. -/
theorem remote_reaches_first : ∃ (tr : List (TurnEntry 2)) (s : RemoteServer 2), Run step remoteServer tr s ∧
    tr.length = 2 ∧ (s.world.groups 0).linkType = .dcs ∧ s.world.dcs.entries.length = 1 ∧
    Untouched 1 remoteServer.world s.world := by
  obtain ⟨tr, s, run, accepted⟩ := exists_run_of_accepts step remoteServer
    [connection (str "guess") (str "link SMART1 DCS001_B"), connection password (str "link SMART1 DCS001_B")]
    (fun tr s => decide (tr.length = 2 ∧ (s.world.groups 0).linkType = .dcs ∧ s.world.dcs.entries.length = 1 ∧
      ∀ x ∈ tr, (x : TurnEntry 2).event.attempt.command = str "link SMART1 DCS001_B" ∧
        x.pre.world.findGroup smart = some 0)) (by decide +kernel)
  obtain ⟨two, linked, one, each⟩ := of_decide_eq_true accepted
  refine ⟨tr, s, run, two, linked, one, remote_reaches_named run 1 ?_⟩
  intro x member _ group orders
  obtain ⟨text, first⟩ := each x member
  obtain ⟨verb, word, rest, words, rfl, -⟩ := orders
  have cut : stringTokenizer (str "link SMART1 DCS001_B") = [str "link", str "SMART1", str "DCS001_B"] := by
    decide +kernel
  rw [text, cut] at words
  obtain ⟨-, rfl, -⟩ : str "link" = verb ∧ str "SMART1" = word ∧ _ := by simpa using words
  have callsign : wordCallsign (str "SMART1") = smart := by decide +kernel
  rw [callsign, first]
  decide

end

end RemoteServer
end SmartGroup
