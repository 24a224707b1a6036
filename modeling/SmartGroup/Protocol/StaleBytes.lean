import SmartGroup.Protocol.DCS
import SmartGroup.Protocol.DExtra
import SmartGroup.Support.Front

/-! What an earlier packet left in a receive buffer. A packet is decoded from its own bytes,
but for the texts of polls, which are read up to a zero byte that may stand behind it. -/
namespace SmartGroup
open Bytes

section
variable {n length port myPort : Nat} {mem mem' : List UInt8} {address : Str}

theorem HeaderData.setG2Data_agree (h : HeaderData) (same : Agree n mem mem') (enough : 54 ≤ n) :
    h.setG2Data mem length address port = h.setG2Data mem' length address port := by
  simp (disch := first | omega | (simp only [longCallsignLength, shortCallsignLength]; omega)) only
    [setG2Data, same.byte, same.copy]

theorem HeaderData.setDExtraData_agree (h : HeaderData) (same : Agree n mem mem') (enough : 54 ≤ n) :
    h.setDExtraData mem length false address port myPort =
      h.setDExtraData mem' length false address port myPort := by
  simp only [setDExtraData, setG2DataChecked, h.setG2Data_agree same enough]
  rfl

theorem HeaderData.setDCSData_agree (h : HeaderData) (same : Agree n mem mem') (enough : 45 ≤ n) :
    h.setDCSData mem length address port myPort = h.setDCSData mem' length address port myPort := by
  simp (disch := first | omega | (simp only [longCallsignLength, shortCallsignLength]; omega)) only
    [setDCSData, same.byte, same.copy]

theorem AMBEData.setDExtraData_agree (d : AMBEData) (same : Agree n mem mem') (enough : 27 ≤ n) :
    d.setDExtraData mem length address port myPort = d.setDExtraData mem' length address port myPort := by
  simp (disch := first | omega | (simp only [dvFrameLength]; omega)) only
    [setDExtraData, setG2Data, same.byte, same.copy]

theorem AMBEData.setDCSData_agree (d : AMBEData) (same : Agree n mem mem') (enough : 61 ≤ n) :
    d.setDCSData mem length address port myPort = d.setDCSData mem' length address port myPort := by
  have header : d.header.setDCSData mem length address port myPort =
      d.header.setDCSData mem' length address port myPort :=
    d.header.setDCSData_agree same (by omega)
  simp (disch := first | omega | (simp only [dvFrameLength]; omega)) only
    [setDCSData, header, same.byte, same.copy]

namespace ConnectData

theorem callsign_agree (same : Agree n mem mem') {start last : Nat} (inside : start + 8 ≤ n)
    (band : last < n) : callsign mem start last = callsign mem' start last := by
  simp only [callsign, longCallsignLength, same.copy inside, same.byte band]

theorem answer_agree (same : Agree n mem mem') (enough : 13 ≤ n) : answer mem = answer mem' := by
  simp (disch := simp only [longCallsignLength]; omega) only [answer, same.byte]

theorem setDExtraData_agree (c : ConnectData) (same : Agree n mem mem')
    (packet : length = 11 ∨ length = 14) (enough : length ≤ n) :
    c.setDExtraData mem length address port myPort = c.setDExtraData mem' length address port myPort := by
  have repeater : callsign mem 0 longCallsignLength = callsign mem' 0 longCallsignLength :=
    callsign_agree same (by omega) (by simp only [longCallsignLength]; omega)
  have band : byte mem (longCallsignLength + 1) = byte mem' (longCallsignLength + 1) :=
    same.byte (by simp only [longCallsignLength]; omega)
  simp only [setDExtraData, repeater, band]
  rcases packet with rfl | rfl
  · rfl
  · simp only [answer_agree same (by omega)]

theorem setDCSData_agree (c : ConnectData) (same : Agree n mem mem')
    (packet : length = 14 ∨ length = 19 ∨ length = 519) (enough : length ≤ n) :
    c.setDCSData mem length address port myPort = c.setDCSData mem' length address port myPort := by
  have repeater : callsign mem 0 longCallsignLength = callsign mem' 0 longCallsignLength :=
    callsign_agree same (by omega) (by simp only [longCallsignLength]; omega)
  simp only [setDCSData, repeater, answer_agree same (by omega)]
  rcases packet with rfl | long
  · rfl
  · have reflector : callsign mem (longCallsignLength + 3) (longCallsignLength + 1) =
        callsign mem' (longCallsignLength + 3) (longCallsignLength + 1) :=
      callsign_agree same (by simp only [longCallsignLength]; omega)
        (by simp only [longCallsignLength]; omega)
    simp only [reflector]

end ConnectData

/-! Polls. -/

namespace PollData

theorem setDExtraData_agree (p : PollData) (same : Agree n mem mem') (enough : 9 ≤ n)
    (ends : 0 ∈ mem) (ends' : 0 ∈ mem') :
    p.setDExtraData mem length address port myPort = p.setDExtraData mem' length address port myPort := by
  obtain ⟨text, text', read, read', texts⟩ := same.cstring ends ends'
  have last : byte mem longCallsignLength = byte mem' longCallsignLength :=
    same.byte (by simp only [longCallsignLength]; omega)
  have padded : padTo longCallsignLength text = padTo longCallsignLength text' :=
    texts.padTo (by simp only [longCallsignLength]; omega)
  simp only [setDExtraData, read, read', ok_bind, last, padded]

theorem setDCSData_agree (p : PollData) (same : Agree n mem mem') (packet : length = 17 ∨ length = 22)
    (enough : length ≤ n) (ends : 0 ∈ mem) (ends' : 0 ∈ mem') :
    p.setDCSData mem length address port myPort = p.setDCSData mem' length address port myPort := by
  obtain ⟨text, text', read, read', texts⟩ := same.cstring ends ends'
  have front : substr text 0 longCallsignLength = substr text' 0 longCallsignLength :=
    texts.substr (by simp only [longCallsignLength]; omega)
  have rear : substr text 9 longCallsignLength = substr text' 9 longCallsignLength :=
    texts.substr (by simp only [longCallsignLength]; omega)
  have shorter : substr text 9 (longCallsignLength - 1) = substr text' 9 (longCallsignLength - 1) :=
    texts.substr (by simp only [longCallsignLength]; omega)
  simp only [setDCSData, read, read', ok_bind, front]
  rcases packet with rfl | rfl
  · simp only [if_true, rear]
  · have band : charAt text 17 = charAt text' 17 := texts.charAt (by omega)
    simp only [Nat.reduceEqDiff, if_false, if_true, shorter, band]

end PollData

end

/-! The handlers. -/

namespace DExtraProtocolHandler

/-- The marks are looked at where the length says that they were received. -/
theorem typeOf_agree {mem mem' : List UInt8} {n : Nat} (same : Agree n mem mem') :
    typeOf mem n = typeOf mem' n := by
  by_cases short : n < 4
  · have lengths : n ≠ 9 ∧ n ≠ 11 ∧ n ≠ 14 ∧ n ≠ 56 ∧ n ≠ 27 := by omega
    simp [typeOf, lengths]
  · have magic : mem.take 4 = mem'.take 4 := same.mono (by omega)
    unfold typeOf
    rw [magic]
    by_cases header : n = 56
    · rw [same.getElem? (i := 4) (by omega), same.getElem? (i := 14) (by omega)]
    · by_cases ambe : n = 27
      · rw [same.getElem? (i := 4) (by omega)]
        simp only [header, if_false]
      · simp only [header, ambe, if_false]

/-- Two handlers receive a datagram: they say the same of it. -/
structure Alike (k k' : DExtraProtocolHandler) : Prop where
  type : k.type = k'.type
  header : k.newHeader = k'.newHeader
  ambe : k.newAMBE = k'.newAMBE
  poll : k.newPoll = k'.newPoll
  connect : k.newConnect = k'.newConnect

variable {h h' : DExtraProtocolHandler} {d : Datagram}

theorem readPackets_alike (own : h.myPort = h'.myPort) (ends : h.buffer.Ends d.bytes)
    (ends' : h'.buffer.Ends d.bytes) :
    ∃ again k k', h.readPackets (some d) = .ok (again, k) ∧ h'.readPackets (some d) = .ok (again, k') ∧
      k.Alike k' := by
  by_cases empty : d.bytes = []
  · exact ⟨_, _, _, if_pos empty, if_pos empty, rfl, rfl, rfl, rfl, rfl⟩
  · obtain ⟨k, read, type, buffer, length, address, port, mine⟩ := h.readPackets_some empty
    obtain ⟨k', read', type', buffer', length', address', port', mine'⟩ := h'.readPackets_some empty
    have same := Buffer.receive_agree h.buffer h'.buffer d.bytes
    have types : k.type = k'.type := by rw [type, type', typeOf_agree same]
    rw [← buffer, ← buffer', ← length] at same
    obtain ⟨header, ambe, poll, connect⟩ := length_of_typeOf type.symm
    have myPorts : k.myPort = k'.myPort := by rw [mine, mine', own]
    refine ⟨_, k, k', read, types ▸ read', types, ?_, ?_, ?_, ?_⟩
    · unfold newHeader
      rw [types]
      split
      · rfl
      · rename_i is_header
        have full := header (types.trans (of_not_not is_header))
        rw [length, length', address, address', port, port', myPorts,
          HeaderData.setDExtraData_agree _ same (by omega)]
    · unfold newAMBE
      rw [types]
      split
      · rfl
      · rename_i is_ambe
        have full := ambe (types.trans (of_not_not is_ambe))
        rw [length, length', address, address', port, port', myPorts,
          AMBEData.setDExtraData_agree _ same (by omega)]
    · unfold newPoll
      rw [types]
      split
      · rfl
      · rename_i is_poll
        have full := poll (types.trans (of_not_not is_poll))
        have room : min d.bytes.length dextraBufferLength < dextraBufferLength := by
          rw [full]
          decide
        rw [length, length', address, address', port, port', myPorts,
          PollData.setDExtraData_agree _ same (by omega) (buffer ▸ ends.zero_mem room)
            (buffer' ▸ ends'.zero_mem room)]
    · unfold newConnect
      rw [types]
      split
      · rfl
      · rename_i is_connect
        have full := connect (types.trans (of_not_not is_connect))
        rw [length, length', address, address', port, port', myPorts,
          ConnectData.setDExtraData_agree _ same full (by omega)]

end DExtraProtocolHandler
namespace DCSProtocolHandler

theorem classOf_agree {mem mem' : List UInt8} {n : Nat} (same : Agree n mem mem') :
    classOf (mem.take 4) n = classOf (mem'.take 4) n := by
  by_cases short : n < 4
  · have lengths : n ≠ 100 ∧ n ≠ 17 ∧ n ≠ 22 ∧ n ≠ 14 ∧ n ≠ 19 ∧ n ≠ 519 := by omega
    simp [classOf, lengths]
  · have magic : mem.take 4 = mem'.take 4 := same.mono (by omega)
    rw [magic]

structure Alike (k k' : DCSProtocolHandler) : Prop where
  type : k.type = k'.type
  data : k.readData = k'.readData
  poll : k.readPoll = k'.readPoll
  connect : k.readConnect = k'.readConnect

variable {h h' : DCSProtocolHandler} {d : Datagram}

theorem readPackets_alike (own : h.myPort = h'.myPort) (ends : h.buffer.Ends d.bytes)
    (ends' : h'.buffer.Ends d.bytes) :
    ∃ again k k', h.readPackets (some d) = .ok (again, k) ∧ h'.readPackets (some d) = .ok (again, k') ∧
      k.Alike k' := by
  by_cases empty : d.bytes = []
  · exact ⟨_, _, _, if_pos empty, if_pos empty, rfl, rfl, rfl, rfl⟩
  · obtain ⟨k, read, type, buffer, length, address, port, mine⟩ := h.readPackets_some empty
    obtain ⟨k', read', type', buffer', length', address', port', mine'⟩ := h'.readPackets_some empty
    have same := Buffer.receive_agree h.buffer h'.buffer d.bytes
    rw [← buffer, ← buffer'] at same
    have types : k.type = k'.type := by rw [type, type', classOf_agree same]
    have myPorts : k.myPort = k'.myPort := by rw [mine, mine', own]
    rw [← length] at same type
    refine ⟨_, k, k', read, types ▸ read', types, ?_, ?_, ?_⟩
    · unfold readData
      rw [types]
      split
      · rfl
      · rename_i is_data
        have full := classOf_data (type.symm.trans (types.trans (of_not_not is_data)))
        rw [length', ← length, address, address', port, port', myPorts,
          AMBEData.setDCSData_agree _ same (by omega)]
    · unfold readPoll
      rw [types]
      split
      · rfl
      · rename_i is_poll
        have full := ((classOf_poll_iff _ _).mp (type.symm.trans (types.trans (of_not_not is_poll)))).1
        have room : min d.bytes.length dcsBufferLength < dcsBufferLength := by
          simp only [dcsBufferLength] at length ⊢
          omega
        rw [length', ← length, address, address', port, port', myPorts,
          PollData.setDCSData_agree _ same full (Nat.le_refl _) (buffer ▸ ends.zero_mem room)
            (buffer' ▸ ends'.zero_mem room)]
    · unfold readConnect
      rw [types]
      split
      · rfl
      · rename_i is_connect
        have full := classOf_connect (type.symm.trans (types.trans (of_not_not is_connect)))
        rw [length', ← length, address, address', port, port', myPorts,
          ConnectData.setDCSData_agree _ same full (Nat.le_refl _)]

end DCSProtocolHandler

/-- What a handler says of a datagram depends on the datagram alone, whatever it received
before, where texts have an end. -/
theorem no_stale_bytes (d : Datagram) :
    (∀ h h' : DExtraProtocolHandler, h.myPort = h'.myPort → h.buffer.Ends d.bytes →
      h'.buffer.Ends d.bytes → ∃ again k k', h.readPackets (some d) = .ok (again, k) ∧
        h'.readPackets (some d) = .ok (again, k') ∧ k.Alike k') ∧
    ∀ h h' : DCSProtocolHandler, h.myPort = h'.myPort → h.buffer.Ends d.bytes →
      h'.buffer.Ends d.bytes → ∃ again k k', h.readPackets (some d) = .ok (again, k) ∧
        h'.readPackets (some d) = .ok (again, k') ∧ k.Alike k' :=
  ⟨fun _ _ => DExtraProtocolHandler.readPackets_alike, fun _ _ => DCSProtocolHandler.readPackets_alike⟩

/-- A poll without a zero byte. -/
def openPoll : Datagram := ⟨str "XRF001 AB", str "44.1.2.3", 30001⟩

def freshHandler : DExtraProtocolHandler := .init .inet 40001

/-- The handler behind a longer packet. -/
def usedHandler : DExtraProtocolHandler :=
  { freshHandler with buffer := freshHandler.buffer.receive (List.replicate 56 0x41) }

theorem openPoll_alike :
    ∃ again k k', freshHandler.readPackets (some openPoll) = .ok (again, k) ∧
      usedHandler.readPackets (some openPoll) = .ok (again, k') ∧ k.Alike k' :=
  (no_stale_bytes openPoll).1 freshHandler usedHandler rfl (by decide +kernel) (by decide +kernel)

end SmartGroup
