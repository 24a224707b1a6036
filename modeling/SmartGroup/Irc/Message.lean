import SmartGroup.CacheManager
import SmartGroup.Utils

/-! `IRCMessage`. -/
namespace SmartGroup
open Bytes

/-- A message; `numParams` is the number of its parameters. -/
structure IRCMessage where
  origin : Str
  command : Str
  params : List Str
  deriving DecidableEq, Repr

namespace IRCMessage

def new : IRCMessage := ⟨[], [], []⟩

/-- `IRCMessage(toNick, msg)`. -/
def privmsg (toNick msg : Str) : IRCMessage := ⟨[], str "PRIVMSG", [toNick, msg]⟩

/-- `IRCMessage(cmd)`. -/
def ofCommand (cmd : Str) : IRCMessage := ⟨[], cmd, []⟩

def addParam (m : IRCMessage) (p : Str) : IRCMessage := { m with params := m.params ++ [p] }

def numParams (m : IRCMessage) : Nat := m.params.length

/-- `parsePrefix`: nick, name and host of the prefix, here `origin`, when it has the marks
between them. Where they stand the wrong way round the name is all behind the first. -/
def parsePrefix (m : IRCMessage) : Option (Str × Str × Str) :=
  let p1 := m.origin.idxOf 33
  let p2 := m.origin.idxOf 64
  if p1 < m.origin.length ∧ p2 < m.origin.length then
    let behind := m.origin.drop (p1 + 1)
    some (m.origin.take p1, if p2 < p1 then behind else behind.take (p2 - p1 - 1),
      m.origin.drop (p2 + 1))
  else none

def getPrefixNick (m : IRCMessage) : Str :=
  match m.parsePrefix with
  | some (nick, _, _) => nick
  | none => m.origin

def getPrefixName (m : IRCMessage) : Str :=
  match m.parsePrefix with
  | some (_, name, _) => name
  | none => m.origin

def getPrefixHost (m : IRCMessage) : Str :=
  match m.parsePrefix with
  | some (_, _, host) => host
  | none => m.origin

end IRCMessage
end SmartGroup
