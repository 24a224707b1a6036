import SmartGroup.LinkPacket
import SmartGroup.Protocol.G2
import SmartGroup.Protocol.Wire

/-! `CDExtraProtocolHandler`: the datagrams that a DExtra reflector sends and their decoding. -/
namespace SmartGroup
open Bytes

inductive DExtraType where
  | none
  | header
  | ambe
  | poll
  | connect
  deriving DecidableEq, Repr

def dextraBufferLength : Nat := 1000

structure DExtraProtocolHandler where
  family : Family
  type : DExtraType
  buffer : Buffer dextraBufferLength
  length : Nat
  yourAddress : Str
  yourPort : Nat
  myPort : Nat

namespace DExtraProtocolHandler

/-- The handler as it is opened; the buffer is not initialised by the source. -/
def init (family : Family) (myPort : Nat) : DExtraProtocolHandler :=
  ⟨family, .none, .zero dextraBufferLength, 0, [], 0, myPort⟩

/-- The type of the packet in a memory; the marks are read for the two lengths only. -/
def classify (mem : List UInt8) (length : Nat) : Try DExtraType := do
  let magic ← copy mem 0 4
  if magic ≠ str "DSVT" then
    return if length = 9 then .poll else if length = 11 ∨ length = 14 then .connect else .none
  else if length = 56 then
    let mark ← byte mem 4
    let flag ← byte mem 14
    return if mark = 0x10 ∧ flag = 0x80 then .header else .none
  else if length = 27 then
    let mark ← byte mem 4
    return if mark = 0x20 then .ambe else .none
  else return .none

/-- `readPackets`; the flag says whether `read` goes on with the next datagram. -/
def readPackets (h : DExtraProtocolHandler) (received : Option Datagram) :
    Try (Bool × DExtraProtocolHandler) :=
  match received with
  | none => .ok (false, { h with type := .none })
  | some d =>
      if d.bytes = [] then .ok (false, { h with type := .none })
      else do
        let buffer := h.buffer.receive d.bytes
        let length := min d.bytes.length dextraBufferLength
        let type ← classify buffer.bytes length
        return (type = .none,
          { h with type, buffer, length, yourAddress := d.address, yourPort := d.port })

/-- The checksum is not checked. -/
def newHeader (h : DExtraProtocolHandler) : Try (Option HeaderData) :=
  if h.type ≠ .header then return none
  else do
    let (res, header) ← HeaderData.blank.setDExtraData h.buffer.bytes h.length false h.yourAddress
      h.yourPort h.myPort
    return if res then some header else none

def newAMBE (h : DExtraProtocolHandler) : Try (Option AMBEData) :=
  if h.type ≠ .ambe then return none
  else do
    let data ← AMBEData.blank.setDExtraData h.buffer.bytes h.length h.yourAddress h.yourPort h.myPort
    return some data

def newPoll (h : DExtraProtocolHandler) : Try (Option PollData) :=
  if h.type ≠ .poll then return none
  else do
    let poll ← PollData.blank.setDExtraData h.buffer.bytes h.length h.yourAddress h.yourPort h.myPort
    return some poll

def newConnect (h : DExtraProtocolHandler) : Try (Option ConnectData) :=
  if h.type ≠ .connect then return none
  else ConnectData.blank.setDExtraData h.buffer.bytes h.length h.yourAddress h.yourPort h.myPort

/-- The type that `classify` finds in a memory that is long enough. -/
def typeOf (mem : List UInt8) (length : Nat) : DExtraType :=
  if mem.take 4 ≠ str "DSVT" then
    if length = 9 then .poll else if length = 11 ∨ length = 14 then .connect else .none
  else if length = 56 then if mem[4]? = some 0x10 ∧ mem[14]? = some 0x80 then .header else .none
  else if length = 27 then if mem[4]? = some 0x20 then .ambe else .none
  else .none

theorem classify_eq {mem : List UInt8} (long : 15 ≤ mem.length) (length : Nat) :
    classify mem length = .ok (typeOf mem length) := by
  have fifth : 4 < mem.length := by omega
  have last : 14 < mem.length := by omega
  simp only [classify, typeOf, copy_ok (show 0 + 4 ≤ mem.length by omega), byte_ok fifth, byte_ok last,
    ok_bind, List.drop_zero, List.getElem?_eq_getElem fifth, List.getElem?_eq_getElem last,
    Option.some.injEq, pure, Except.pure, apply_ite (Except.ok (ε := Failure))]

/-- Each type has its lengths. -/
theorem length_of_typeOf {mem : List UInt8} {n : Nat} {type : DExtraType} (found : typeOf mem n = type) :
    (type = .header → n = 56) ∧ (type = .ambe → n = 27) ∧ (type = .poll → n = 9) ∧
      (type = .connect → n = 11 ∨ n = 14) := by
  subst found
  unfold typeOf
  split
  · by_cases poll : n = 9
    · simp [poll]
    · by_cases connect : n = 11 ∨ n = 14 <;> simp [poll, connect]
  · by_cases header : n = 56
    · simp only [header, if_true]
      split <;> simp
    · by_cases ambe : n = 27
      · subst ambe
        simp only [Nat.reduceEqDiff, if_false, if_true]
        split <;> simp
      · simp [header, ambe]

/-- What `readPackets` leaves in the handler. -/
theorem readPackets_some (h : DExtraProtocolHandler) {d : Datagram} (some_byte : d.bytes ≠ []) :
    ∃ h', h.readPackets (some d) = .ok (decide (h'.type = .none), h') ∧
      h'.type = typeOf (h.buffer.receive d.bytes).bytes (min d.bytes.length dextraBufferLength) ∧
      h'.buffer = h.buffer.receive d.bytes ∧ h'.length = min d.bytes.length dextraBufferLength ∧
      h'.yourAddress = d.address ∧ h'.yourPort = d.port ∧ h'.myPort = h.myPort := by
  have long : 15 ≤ (h.buffer.receive d.bytes).bytes.length := by
    rw [(h.buffer.receive d.bytes).full]
    decide
  simp only [readPackets, if_neg some_byte, classify_eq long, ok_bind]
  exact ⟨{ h with type := _, buffer := _, length := _, yourAddress := _, yourPort := _ },
    rfl, rfl, rfl, rfl, rfl, rfl, rfl⟩

end DExtraProtocolHandler
end SmartGroup
