import SmartGroup.Utils
import SmartGroup.Support.Machine

/-! `CTLSServer` and the command interpreter of `CRemoteHandler`: one connection at a time is
accepted, asked for the password and read for one command. -/
namespace SmartGroup
open Bytes

/-- What a command asks for. -/
inductive RemoteCommand where
  | nothing
  | halt
  | short
  | list (group : Option Str)
  | notFound (group : Str)
  | link (group reflector : Str)
  | unlink (group : Str)
  | drop (group user : Str)
  | bad
  deriving DecidableEq, Repr

/-- What the two classes do that can be seen outside. -/
inductive RemoteEvent where
  | accepted (fd : Int)
  | sslNew (ssl : Nat)
  | sslFree (ssl : Nat)
  | close (fd : Int)
  | wrote (text : Str)
  | request (command : RemoteCommand)
  | closedSocket (sock : Int)
  | freedContext
  | destroyed
  deriving DecidableEq, Repr

/-- What the calls that `GetCommand` makes give back, and whether a callsign is that of a
group. The texts are those that stand in the two buffers, up to the null byte. -/
structure Attempt where
  ready : Bool
  fd : Int
  ssl : Option Nat
  setFd : Int
  handshake : Int
  password : Str
  command : Str
  known : Str → Bool

structure TLSServer where
  sock : Int
  hasContext : Bool
  ssl : Option Nat
  client : Int
  password : Str
  deriving DecidableEq, Repr

namespace TLSServer

/-- The server when its socket has been opened, or could not be. -/
def new (sock : Int) (hasContext : Bool) (password : Str) : TLSServer := ⟨sock, hasContext, none, -1, password⟩

open RemoteEvent

/-- The descriptor is set to 0, which is one. -/
def closeClient (s : TLSServer) : TLSServer × List RemoteEvent :=
  ({ s with ssl := none, client := 0 },
    (match s.ssl with
      | some ssl => [sslFree ssl]
      | none => []) ++ if 0 ≤ s.client then [close s.client] else [])

/-- `GetCommand` gives back no command where the code returns true. -/
def getCommand (s : TLSServer) (a : Attempt) : Option Str × TLSServer × List RemoteEvent :=
  if ¬a.ready then (none, s, [])
  else
    let s := { s with client := a.fd }
    if s.client < 0 then (none, s, [])
    else
      let s := { s with ssl := a.ssl }
      match s.ssl with
      | none =>
          let (s, closed) := s.closeClient
          (none, s, accepted a.fd :: closed)
      | some ssl =>
          if a.setFd = 0 ∨ a.handshake ≤ 0 then
            let (s, closed) := s.closeClient
            (none, s, accepted a.fd :: sslNew ssl :: closed)
          else if s.password ≠ a.password then
            let (s, closed) := s.closeClient
            (none, s, accepted a.fd :: sslNew ssl :: wrote (str "fail") :: closed)
          else (some a.command, s, [accepted a.fd, sslNew ssl, wrote (str "pass")])

/-- The destructor. -/
def destroy (s : TLSServer) : List RemoteEvent :=
  s.closeClient.2 ++ (if 0 ≤ s.sock then [closedSocket s.sock] else []) ++
    (if s.hasContext then [freedContext] else []) ++ [destroyed]

end TLSServer

/-! The interpreter. -/

/-- A word as a callsign. -/
def wordCallsign (text : Str) : Str := padTo 8 (replaceChar text 95 32)

/-- The words of the command. -/
def interpret (known : Str → Bool) (command : Str) : RemoteCommand :=
  match stringTokenizer command with
  | [] => .nothing
  | verb :: arguments =>
      if verb = str "halt" then .halt
      else
        match arguments with
        | [] => .short
        | group :: rest =>
            let group := wordCallsign group
            if verb = str "list" then .list (if known group then some group else none)
            else if known group then
              match rest with
              | third :: _ =>
                  if verb = str "link" then .link group (wordCallsign third)
                  else if verb = str "unlink" then .unlink group
                  else if verb = str "drop" then .drop group (wordCallsign third)
                  else .bad
              | [] => if verb = str "unlink" then .unlink group else .bad
            else .notFound group

namespace RemoteCommand

/-- The interpreter returns before the end of the function. -/
def LeavesOpen : RemoteCommand → Prop
  | nothing | halt | short => True
  | _ => False

instance (c : RemoteCommand) : Decidable c.LeavesOpen := by
  cases c <;> unfold LeavesOpen <;> infer_instance

/-- The answer that the interpreter itself gives. -/
def answer : RemoteCommand → List RemoteEvent
  | notFound group => [.wrote (str "Smart Group [" ++ group ++ str "] not found")]
  | _ => []

end RemoteCommand

/-- `CRemoteHandler` and what becomes of it: `halt` ends the thread's loop, and the handler
is deleted behind the loop. -/
structure RemoteHandler where
  server : TLSServer
  killed : Bool
  deleted : Bool
  deriving DecidableEq, Repr

namespace RemoteHandler

def new (server : TLSServer) : RemoteHandler := ⟨server, false, false⟩

/-- `process`, with what it gives back. -/
def process (s : TLSServer) (a : Attempt) : Bool × TLSServer × List RemoteEvent :=
  match s.getCommand a with
  | (none, s, events) => (false, s, events)
  | (some text, s, events) =>
      let command := interpret a.known text
      let events := events ++ .request command :: command.answer
      if command.LeavesOpen then (decide (command = .halt), s, events)
      else
        let (s, closed) := s.closeClient
        (false, s, events ++ closed)

/-- A turn of the thread's loop, or the end of the thread. -/
inductive Turn where
  | process (a : Attempt)
  | delete

inductive Ended where
  | ended
  deriving DecidableEq, Repr

def step (h : RemoteHandler) : Turn → Except Ended (RemoteHandler × List RemoteEvent)
  | .process a =>
      if h.killed || h.deleted then .error .ended
      else
        let (killed, server, events) := process h.server a
        .ok (⟨server, killed, false⟩, events)
  | .delete => if h.deleted then .error .ended else .ok (⟨h.server, h.killed, true⟩, h.server.destroy)

theorem step_process {h h' : RemoteHandler} {a : Attempt} {o : List RemoteEvent} (done : step h (.process a) = .ok (h', o)) :
    (h.killed = false ∧ h.deleted = false) ∧ o = (process h.server a).2.2 ∧
      h' = ⟨(process h.server a).2.1, (process h.server a).1, false⟩ := by
  rw [step] at done
  split at done
  · cases done
  · rename_i going
    obtain ⟨rfl, rfl⟩ := Prod.mk.inj (Except.ok.inj done)
    exact ⟨by simpa using going, rfl, rfl⟩

theorem step_delete {h h' : RemoteHandler} {o : List RemoteEvent} (done : step h .delete = .ok (h', o)) :
    h.deleted = false ∧ o = h.server.destroy ∧ h' = ⟨h.server, h.killed, true⟩ := by
  rw [step] at done
  split at done
  · cases done
  · rename_i live
    obtain ⟨rfl, rfl⟩ := Prod.mk.inj (Except.ok.inj done)
    exact ⟨by simpa using live, rfl, rfl⟩

end RemoteHandler
end SmartGroup
