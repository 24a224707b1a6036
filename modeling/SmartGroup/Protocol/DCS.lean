import SmartGroup.LinkPacket
import SmartGroup.Protocol.G2

/-! `CDCSProtocolHandler`: the datagrams that a DCS reflector sends and their decoding. -/
namespace SmartGroup
open Bytes

inductive DCSType where
  | none
  | data
  | poll
  | connect
  deriving DecidableEq, Repr

def dcsBufferLength : Nat := 2000

structure DCSProtocolHandler where
  family : Family
  type : DCSType
  buffer : Buffer dcsBufferLength
  length : Nat
  yourAddress : Str
  yourPort : Nat
  myPort : Nat

namespace DCSProtocolHandler

/-- The handler as it is opened; the buffer is not initialised by the source. -/
def init (family : Family) (myPort : Nat) : DCSProtocolHandler :=
  ⟨family, .none, .zero dcsBufferLength, 0, [], 0, myPort⟩

/-- The class by the first four bytes and the length. -/
def classOf (magic : Str) (length : Nat) : DCSType :=
  if magic = str "0001" then if length = 100 then .data else .none
  else if magic = str "EEEE" then .none
  else if length = 17 ∨ length = 22 then .poll
  else if length = 14 ∨ length = 19 ∨ length = 519 then .connect
  else .none

/-- `readPackets`; the flag says whether `read` goes on with the next datagram. -/
def readPackets (h : DCSProtocolHandler) (received : Option Datagram) :
    Try (Bool × DCSProtocolHandler) :=
  match received with
  | none => .ok (false, { h with type := .none })
  | some d =>
      if d.bytes = [] then .ok (false, { h with type := .none })
      else do
        let buffer := h.buffer.receive d.bytes
        let length := min d.bytes.length dcsBufferLength
        let magic ← copy buffer.bytes 0 4
        let type := classOf magic length
        return (type = .none,
          { h with type, buffer, length, yourAddress := d.address, yourPort := d.port })

def readData (h : DCSProtocolHandler) : Try (Option AMBEData) :=
  if h.type ≠ .data then return none
  else do
    let data ← AMBEData.blank.setDCSData h.buffer.bytes h.length h.yourAddress h.yourPort h.myPort
    return some data

def readPoll (h : DCSProtocolHandler) : Try (Option PollData) :=
  if h.type ≠ .poll then return none
  else do
    let poll ← PollData.blank.setDCSData h.buffer.bytes h.length h.yourAddress h.yourPort h.myPort
    return some poll

def readConnect (h : DCSProtocolHandler) : Try (Option ConnectData) :=
  if h.type ≠ .connect then return none
  else ConnectData.blank.setDCSData h.buffer.bytes h.length h.yourAddress h.yourPort h.myPort

end DCSProtocolHandler

/-! The decoders. -/

theorem AMBEData.completes_setDCSData (a : AMBEData) {mem : List UInt8} (long : 61 ≤ mem.length)
    (length : Nat) (address : Str) (port myPort : Nat) :
    Completes (a.setDCSData mem length address port myPort) ↔ 100 ≤ length := by
  unfold setDCSData HeaderData.setDCSData
  simp (disch := first | omega |
    (simp only [longCallsignLength, shortCallsignLength, dvFrameLength]; omega)) only
    [byte_ok, copy_ok]
  by_cases met : 100 ≤ length <;>
    simp [require, met, bind, Except.bind, pure, Except.pure]

theorem ConnectData.completes_callsign (mem : List UInt8) (start last : Nat)
    (inside : start + longCallsignLength ≤ mem.length) (band : last < mem.length) :
    Completes (callsign mem start last) := by
  simp only [callsign, copy_ok inside, byte_ok band]
  exact ⟨_, rfl⟩

theorem ConnectData.completes_answer {mem : List UInt8} (long : 13 ≤ mem.length) :
    Completes (answer mem) := by
  simp (disch := simp only [longCallsignLength]; omega) only [answer, byte_ok]
  exact ⟨_, rfl⟩

theorem ConnectData.completes_setDCSData (c : ConnectData) {mem : List UInt8}
    (long : 19 ≤ mem.length) {length : Nat} (address : Str) {port : Nat} (myPort : Nat)
    (enough : 11 ≤ length) (known : 0 < port) :
    Completes (c.setDCSData mem length address port myPort) := by
  obtain ⟨repeater, readRepeater⟩ := completes_callsign mem 0 longCallsignLength
    (by simp only [longCallsignLength]; omega) (by simp only [longCallsignLength]; omega)
  obtain ⟨reflector, readReflector⟩ := completes_callsign mem (longCallsignLength + 3)
    (longCallsignLength + 1) (by simp only [longCallsignLength]; omega)
    (by simp only [longCallsignLength]; omega)
  have enough_read : 13 ≤ mem.length := by omega
  obtain ⟨type, readType⟩ := completes_answer enough_read
  simp only [setDCSData, require, enough, known, decide_true, if_true, readRepeater, readReflector,
    readType, bind, Except.bind, pure, Except.pure]
  split
  · exact completes_ok _
  · split
    · exact completes_ok _
    · split <;> exact completes_ok _

/-- The text of a poll must reach as far as its last string operation. -/
def PollData.textLength (length : Nat) : Nat := if length = 17 then 9 else 17

theorem PollData.completes_setDCSData (p : PollData) (mem : List UInt8) {length : Nat}
    (address : Str) {port : Nat} (myPort : Nat) (known : 0 < port)
    (poll : length = 17 ∨ length = 22) :
    Completes (p.setDCSData mem length address port myPort) ↔
      0 ∈ mem ∧ textLength length ≤ (mem.takeWhile (· ≠ 0)).length := by
  by_cases terminated : 0 ∈ mem
  · have start (text : Str) : substr text 0 longCallsignLength = .ok (text.take longCallsignLength) := by
      simp [substr]
    simp only [setDCSData, require, known, decide_true, if_true, cstring, terminated, true_and,
      ok_bind, start]
    rcases poll with rfl | rfl
    · simp only [if_true]
      rw [completes_then fun _ => iff_of_true (completes_pure _) trivial, and_true,
        completes_substr]
      rfl
    · simp only [Nat.reduceEqDiff, if_false, if_true]
      rw [completes_then fun _ => completes_then fun _ => iff_of_true (completes_pure _) trivial,
        and_true, completes_substr, completes_charAt]
      simp only [textLength, Nat.reduceEqDiff, if_false]
      omega
  · simp [setDCSData, require, known, cstring, terminated, bind, Except.bind]

/-- The text reaches as far as no zero byte stands in the front of the memory. -/
theorem le_length_takeWhile_iff (mem : List UInt8) {n : Nat} (inside : n ≤ mem.length) :
    n ≤ (mem.takeWhile (· ≠ 0)).length ↔ 0 ∉ mem.take n := by
  induction mem generalizing n with
  | nil => simp_all
  | cons b mem ih =>
      cases n with
      | zero => simp
      | succ n =>
          rw [List.length_cons, Nat.succ_le_succ_iff] at inside
          by_cases zero : b = 0
          · simp [zero]
          · have other : (0 : UInt8) ≠ b := Ne.symm zero
            simpa [zero, other] using ih inside

/-! A poll is a text up to a zero byte; the datagram is sent with its length, so the
text may end early or run on into what the buffer held before. -/

namespace Datagram

/-- The datagram is classified as a poll. -/
def IsPoll (d : Datagram) : Prop :=
  (d.bytes.length = 17 ∨ d.bytes.length = 22) ∧ d.bytes.take 4 ≠ str "0001" ∧
    d.bytes.take 4 ≠ str "EEEE"

instance (d : Datagram) : Decidable d.IsPoll := inferInstanceAs (Decidable (_ ∧ _ ∧ _))

end Datagram

namespace DCSProtocolHandler

/-- No zero byte stands where the poll decoder still needs text, and one stands
somewhere behind, in the datagram or in what the buffer holds behind it. -/
def PollText (h : DCSProtocolHandler) (d : Datagram) : Prop :=
  0 ∉ d.bytes.take (PollData.textLength d.bytes.length) ∧
    (0 ∈ d.bytes ∨ 0 ∈ h.buffer.bytes.drop d.bytes.length)

instance (h : DCSProtocolHandler) (d : Datagram) : Decidable (h.PollText d) :=
  inferInstanceAs (Decidable (_ ∧ _))

/-- The datagram is classified and decoded to the end. -/
def Decodes (h : DCSProtocolHandler) (d : Datagram) : Prop :=
  ∃ again h', h.readPackets (some d) = .ok (again, h') ∧
    Completes h'.readData ∧ Completes h'.readPoll ∧ Completes h'.readConnect

/-- What `readPackets` leaves in the handler. -/
theorem readPackets_some (h : DCSProtocolHandler) {d : Datagram} (some_byte : d.bytes ≠ []) :
    ∃ h', h.readPackets (some d) = .ok (decide (h'.type = .none), h') ∧
      h'.type = classOf (h'.buffer.bytes.take 4) (min d.bytes.length dcsBufferLength) ∧
      h'.buffer = h.buffer.receive d.bytes ∧ h'.length = min d.bytes.length dcsBufferLength ∧
      h'.yourAddress = d.address ∧ h'.yourPort = d.port ∧ h'.myPort = h.myPort := by
  have magic : copy (h.buffer.receive d.bytes).bytes 0 4 =
      .ok ((h.buffer.receive d.bytes).bytes.take 4) := by
    rw [copy_ok (by rw [Buffer.full]; decide), List.drop_zero]
  simp only [readPackets, if_neg some_byte, magic, ok_bind]
  exact ⟨{ h with type := _, buffer := _, length := _, yourAddress := _, yourPort := _ },
    rfl, rfl, rfl, rfl, rfl, rfl, rfl⟩

theorem readPackets_spec (h : DCSProtocolHandler) {d : Datagram} (some_byte : d.bytes ≠ [])
    (fits : d.bytes.length ≤ dcsBufferLength) :
    ∃ h', h.readPackets (some d) = .ok (decide (h'.type = .none), h') ∧
      h'.type = classOf (h'.buffer.bytes.take 4) d.bytes.length ∧
      h'.buffer = h.buffer.receive d.bytes ∧ h'.length = d.bytes.length ∧
      h'.yourAddress = d.address ∧ h'.yourPort = d.port := by
  obtain ⟨h', taken, type, buffer, length, address, port, -⟩ := h.readPackets_some some_byte
  rw [Nat.min_eq_left fits] at type length
  exact ⟨h', taken, type, buffer, length, address, port⟩

theorem classOf_poll_iff (magic : Str) (length : Nat) :
    classOf magic length = .poll ↔
      (length = 17 ∨ length = 22) ∧ magic ≠ str "0001" ∧ magic ≠ str "EEEE" := by
  by_cases data : magic = str "0001"
  · by_cases full : length = 100 <;> simp [classOf, data, full]
  · by_cases status : magic = str "EEEE"
    · have other : str "EEEE" ≠ str "0001" := by decide
      simp [classOf, status, other]
    · by_cases poll : length = 17 ∨ length = 22
      · simp [classOf, data, status, poll]
      · by_cases connect : length = 14 ∨ length = 19 ∨ length = 519 <;>
          simp [classOf, data, status, poll, connect]

theorem classOf_data {magic : Str} {length : Nat} (class_data : classOf magic length = .data) :
    length = 100 := by
  unfold classOf at class_data
  split at class_data
  · split at class_data
    · assumption
    · cases class_data
  · split at class_data
    · cases class_data
    · split at class_data
      · cases class_data
      · split at class_data <;> cases class_data

theorem classOf_connect {magic : Str} {length : Nat}
    (class_connect : classOf magic length = .connect) : length = 14 ∨ length = 19 ∨ length = 519 := by
  by_contra other
  unfold classOf at class_connect
  rw [if_neg other] at class_connect
  split at class_connect
  · split at class_connect <;> cases class_connect
  · split at class_connect
    · cases class_connect
    · split at class_connect <;> cases class_connect

theorem completes_readData {h : DCSProtocolHandler}
    (classified : h.type = classOf (h.buffer.bytes.take 4) h.length) : Completes h.readData := by
  by_cases is_data : h.type = .data
  · have full : h.length = 100 := classOf_data (classified.symm.trans is_data)
    simp only [readData, is_data, ne_eq, not_true_eq_false, if_false]
    rw [completes_then fun _ => iff_of_true (completes_pure _) trivial, and_true,
      AMBEData.completes_setDCSData _ (by rw [h.buffer.full]; decide), full]
  · simp [readData, is_data]

theorem completes_readConnect {h : DCSProtocolHandler} (known : 0 < h.yourPort)
    (classified : h.type = classOf (h.buffer.bytes.take 4) h.length) :
    Completes h.readConnect := by
  by_cases is_connect : h.type = .connect
  · have lengths := classOf_connect (classified.symm.trans is_connect)
    have enough : 11 ≤ h.length := by omega
    simp only [readConnect, is_connect, ne_eq, not_true_eq_false, if_false]
    exact ConnectData.completes_setDCSData _ (by rw [h.buffer.full]; decide) _ _ enough known
  · simp [readConnect, is_connect]

/-- Every datagram is decoded to the end except a poll without enough text. -/
theorem decodes_iff (h : DCSProtocolHandler) (d : Datagram) (some_byte : d.bytes ≠ [])
    (fits : d.bytes.length ≤ dcsBufferLength) (known : 0 < d.port) :
    h.Decodes d ↔ (d.IsPoll → h.PollText d) := by
  obtain ⟨h', taken, type, buffer, length, address, port⟩ := h.readPackets_spec some_byte fits
  have bytes : h'.buffer.bytes = d.bytes ++ h.buffer.bytes.drop d.bytes.length := by
    rw [buffer, Buffer.receive_bytes _ fits]
  have same : h.Decodes d ↔
      Completes h'.readData ∧ Completes h'.readPoll ∧ Completes h'.readConnect := by
    simp [Decodes, taken]
  have poll_iff : h'.type = .poll ↔ d.IsPoll := by
    rw [type, classOf_poll_iff]
    apply and_congr_right
    intro lengths
    have front : h'.buffer.bytes.take 4 = d.bytes.take 4 := by
      rw [bytes, List.take_append_of_le_length (by omega)]
    rw [front]
  have poll : Completes h'.readPoll ↔ (d.IsPoll → h.PollText d) := by
    by_cases is_poll : h'.type = .poll
    · have polled := poll_iff.mp is_poll
      have inside : PollData.textLength d.bytes.length ≤ d.bytes.length := by
        unfold PollData.textLength
        split <;> rcases polled.1 with short | long <;> omega
      simp only [readPoll, is_poll, ne_eq, not_true_eq_false, if_false]
      rw [completes_then fun _ => iff_of_true (completes_pure _) trivial, and_true, length,
        PollData.completes_setDCSData _ _ _ _ (port.symm ▸ known) polled.1,
        le_length_takeWhile_iff _ (by rw [bytes, List.length_append]; omega), bytes,
        List.take_append_of_le_length inside, List.mem_append]
      exact ⟨fun text _ => ⟨text.2, text.1⟩, fun text => ⟨(text polled).2, (text polled).1⟩⟩
    · have other : ¬d.IsPoll := fun polled => is_poll (poll_iff.mpr polled)
      simp [readPoll, is_poll, other]
  rw [same, poll]
  have classified : h'.type = classOf (h'.buffer.bytes.take 4) h'.length := length ▸ type
  exact ⟨fun all => all.2.1, fun text => ⟨completes_readData classified, text,
    completes_readConnect (port.symm ▸ known) classified⟩⟩

/-- The keep-alive that a DCS handler itself writes. -/
def ownPoll : Datagram where
  bytes := (PollData.ofPair (str "SMART1 A") (str "DCS001 B") .outgoing (str "44.1.2.3") dcsPort
    40001).getDCSData
  address := str "44.1.2.3"
  port := dcsPort

/-- The handler does not take its own poll back: the byte behind the callsign is zero. -/
theorem ownPoll_throws :
    ∃ h', (init .inet 40001).readPackets (some ownPoll) = .ok (false, h') ∧ h'.type = .poll ∧
      h'.readPoll = .error .outOfRange := by
  obtain ⟨h', taken, type, buffer, length, -, port⟩ :=
    (init .inet 40001).readPackets_spec (d := ownPoll) (by decide) (by decide)
  have bytes := Buffer.receive_bytes (init .inet 40001).buffer (d := ownPoll.bytes) (by decide)
  have is_poll : h'.type = .poll := by
    rw [type, buffer, bytes]
    rfl
  have text (rest : List UInt8) : cstring (ownPoll.bytes ++ rest) = .ok (str "SMART1 A") := rfl
  refine ⟨h', by rw [taken, is_poll]; rfl, is_poll, ?_⟩
  simp only [readPoll, is_poll, PollData.setDCSData, buffer, bytes, text, length, port]
  rfl

/-- The keep-alive of the reflector is taken. -/
theorem reflectorPoll_decodes :
    (init .inet 40001).Decodes ⟨(PollData.ofPair (str "DCS001 B") (str "SMART1 A") .incoming
      (str "44.1.2.3") 40001 dcsPort).getDCSData, str "44.1.2.3", dcsPort⟩ :=
  (decodes_iff (init .inet 40001) _ (by decide) (by decide) (by decide)).mpr (by decide)

end DCSProtocolHandler
end SmartGroup
