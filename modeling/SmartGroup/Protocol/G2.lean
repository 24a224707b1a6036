import SmartGroup.Packet

/-! `CG2ProtocolHandler`: the classification of the datagrams on the G2 port and
their decoding. -/
namespace SmartGroup
open Bytes Sweep

inductive G2Type where
  | none
  | header
  | ambe
  deriving DecidableEq, Repr

inductive Family where
  | inet
  | inet6
  deriving DecidableEq, Repr

structure Datagram where
  bytes : List UInt8
  address : Str
  port : Nat
  deriving DecidableEq, Repr

/-- The line that is logged when a port is saved; it shows what the buffer holds
from byte 42 on, whatever the length of the datagram. -/
structure PortNote where
  callsign : Str
  address : Str
  port : Nat
  was : Option Nat
  onHeader : Bool
  deriving DecidableEq, Repr

def g2BufferLength : Nat := 255

structure G2ProtocolHandler where
  family : Family
  type : G2Type
  buffer : Buffer g2BufferLength
  length : Nat
  address : Str
  port : Nat
  portmap : OrdMap Str Nat

namespace G2ProtocolHandler

def standardPort : Family → Nat
  | .inet => g2DvPort
  | .inet6 => g2Ipv6Port

/-- The type of the packet in a memory; `memcmp` and the flag are read for the two
lengths only. -/
def classify (mem : List UInt8) (length : Nat) : Try G2Type :=
  if length = 27 ∨ length = 56 then do
    let magic ← copy mem 0 4
    if magic = str "DSVT" then
      let flag ← byte mem 14
      return if flag &&& 0x80 ≠ 0 then .header else .ambe
    else return .none
  else return .none

/-- The port of the sender is kept where it was kept before or is not the standard one. -/
def savePort (h : G2ProtocolHandler) : OrdMap Str Nat × Option PortNote :=
  let callsign := ((h.buffer.bytes.drop 42).take 6).takeWhile (· ≠ 0)
  let note := fun was => PortNote.mk callsign h.address h.port was (h.type = .header)
  let saved := h.portmap.insert h.address h.port
  match h.portmap[h.address]? with
  | some was => if was ≠ h.port then (saved, some (note (some was))) else (h.portmap, none)
  | none => if standardPort h.family ≠ h.port then (saved, some (note none)) else (h.portmap, none)

/-- `readPackets`; the flag says whether `read` goes on with the next datagram. -/
def readPackets (h : G2ProtocolHandler) (received : Option Datagram) :
    Try (Bool × G2ProtocolHandler × Option PortNote) :=
  match received with
  | none => .ok (false, { h with type := .none }, none)
  | some d =>
      if d.bytes = [] then .ok (false, { h with type := .none }, none)
      else do
        let buffer := h.buffer.receive d.bytes
        let length := min d.bytes.length g2BufferLength
        let type ← classify buffer.bytes length
        let h := { h with type, buffer, length, address := d.address, port := d.port }
        return (type = .none, { h with portmap := h.savePort.1 }, h.savePort.2)

def readHeader (h : G2ProtocolHandler) : Try (Option HeaderData) :=
  if h.type ≠ .header then return none
  else do
    let header ← HeaderData.blank.setG2Data h.buffer.bytes h.length h.address h.port
    return some header

def readAMBE (h : G2ProtocolHandler) : Try (Option AMBEData) :=
  if h.type ≠ .ambe then return none
  else do
    let data ← AMBEData.blank.setG2Data h.buffer.bytes h.length h.address h.port
    return some data

/-- The handler as it is opened; the buffer is not initialised by the source. -/
def init (family : Family) : G2ProtocolHandler :=
  ⟨family, .none, .zero g2BufferLength, 0, [], 0, ∅⟩

end G2ProtocolHandler

/-! The decoders. -/

theorem HeaderData.setG2Data_mono (h : HeaderData) {mem mem' : List UInt8} (front : mem <+: mem')
    (length : Nat) (address : Str) (port : Nat) :
    Extends (h.setG2Data mem length address port) (h.setG2Data mem' length address port) := by
  unfold setG2Data
  refine (Extends.refl _).bind fun _ => ?_
  refine (byte_mono front 9).bind fun _ => ?_
  refine (byte_mono front 10).bind fun _ => ?_
  refine (byte_mono front 11).bind fun _ => ?_
  refine (byte_mono front 12).bind fun _ => ?_
  refine (byte_mono front 13).bind fun _ => ?_
  refine (byte_mono front 15).bind fun _ => ?_
  refine (byte_mono front 16).bind fun _ => ?_
  refine (byte_mono front 17).bind fun _ => ?_
  refine (copy_mono front 18 _).bind fun _ => ?_
  refine (copy_mono front 26 _).bind fun _ => ?_
  refine (copy_mono front 34 _).bind fun _ => ?_
  refine (copy_mono front 42 _).bind fun _ => ?_
  exact (copy_mono front 50 _).bind fun _ => .refl _

theorem HeaderData.completes_setG2Data (h : HeaderData) {mem : List UInt8} (long : 56 ≤ mem.length)
    (length : Nat) (address : Str) (port : Nat) :
    Completes (h.setG2Data mem length address port) ↔ 56 ≤ length := by
  unfold setG2Data
  simp (disch := first | omega | (simp only [longCallsignLength, shortCallsignLength]; omega)) only
    [byte_ok, copy_ok]
  by_cases met : 56 ≤ length <;> simp [require, met, bind, Except.bind, pure, Except.pure]

theorem AMBEData.setG2Data_mono (a : AMBEData) {mem mem' : List UInt8} (front : mem <+: mem')
    (length : Nat) (address : Str) (port : Nat) :
    Extends (a.setG2Data mem length address port) (a.setG2Data mem' length address port) := by
  unfold setG2Data
  refine (Extends.refl _).bind fun _ => ?_
  refine (byte_mono front 9).bind fun _ => ?_
  refine (byte_mono front 10).bind fun _ => ?_
  refine (byte_mono front 11).bind fun _ => ?_
  refine (byte_mono front 12).bind fun _ => ?_
  refine (byte_mono front 13).bind fun _ => ?_
  refine (byte_mono front 14).bind fun _ => ?_
  exact (copy_mono front 15 _).bind fun _ => .refl _

theorem AMBEData.completes_setG2Data (a : AMBEData) {mem : List UInt8} (long : 27 ≤ mem.length)
    (length : Nat) (address : Str) (port : Nat) :
    Completes (a.setG2Data mem length address port) ↔ 27 ≤ length := by
  unfold setG2Data
  simp (disch := first | omega | (simp only [dvFrameLength]; omega)) only [byte_ok, copy_ok]
  by_cases met : 27 ≤ length <;> simp [require, met, bind, Except.bind, pure, Except.pure]

/-! A datagram of 27 bytes, the length of a voice frame, whose flag byte says header. -/

def Datagram.ShortHeader (d : Datagram) : Prop :=
  d.bytes.length = 27 ∧ d.bytes.take 4 = str "DSVT" ∧ d.bytes.getD 14 0 &&& 0x80 ≠ 0

instance (d : Datagram) : Decidable d.ShortHeader := inferInstanceAs (Decidable (_ ∧ _ ∧ _))

namespace G2ProtocolHandler

/-- The handler took the datagram in, and the decoder of its class completes and
returns what it returns on the bytes of the datagram alone. -/
structure Decodes (h : G2ProtocolHandler) (d : Datagram) : Prop where
  classified : classify d.bytes d.bytes.length = .ok h.type
  header : h.type = .header →
    ∃ header, HeaderData.blank.setG2Data d.bytes d.bytes.length d.address d.port = .ok header ∧
      h.readHeader = .ok (some header)
  ambe : h.type = .ambe →
    ∃ data, AMBEData.blank.setG2Data d.bytes d.bytes.length d.address d.port = .ok data ∧
      h.readAMBE = .ok (some data)
  headerSafe : Completes h.readHeader
  ambeSafe : Completes h.readAMBE

theorem classify_mono {mem mem' : List UInt8} (front : mem <+: mem') (length : Nat) :
    Extends (classify mem length) (classify mem' length) := by
  unfold classify
  split
  · refine (copy_mono front 0 4).bind fun magic => ?_
    split
    · exact (byte_mono front 14).bind fun _ => .refl _
    · exact .refl _
  · exact .refl _

/-- The class that a datagram has by itself. -/
def classOf (d : Datagram) : G2Type :=
  if (d.bytes.length = 27 ∨ d.bytes.length = 56) ∧ d.bytes.take 4 = str "DSVT" then
    if d.bytes.getD 14 0 &&& 0x80 ≠ 0 then .header else .ambe
  else .none

theorem classify_datagram (d : Datagram) :
    classify d.bytes d.bytes.length = .ok (classOf d) := by
  unfold classify classOf
  by_cases lengths : d.bytes.length = 27 ∨ d.bytes.length = 56
  · have inside : 14 < d.bytes.length := by omega
    rw [if_pos lengths, copy_ok (show 0 + 4 ≤ d.bytes.length by omega), byte_ok inside]
    have flag : d.bytes[14]?.getD 0 = d.bytes[14] := by simp [List.getElem?_eq_getElem inside]
    by_cases magic : d.bytes.take 4 = str "DSVT" <;>
      simp [lengths, magic, bind, Except.bind, pure, Except.pure, flag]
  · simp [lengths, pure, Except.pure]

/-- What `readPackets` leaves in the handler: the datagram stands at the front of the buffer. -/
structure Received (h : G2ProtocolHandler) (d : Datagram) : Prop where
  type : h.type = classOf d
  front : d.bytes <+: h.buffer.bytes
  length : h.length = d.bytes.length
  address : h.address = d.address
  port : h.port = d.port

theorem readPackets_received (h : G2ProtocolHandler) {d : Datagram} (some_byte : d.bytes ≠ [])
    (fits : d.bytes.length ≤ g2BufferLength) :
    ∃ h' note, h.readPackets (some d) = .ok (decide (classOf d = .none), h', note) ∧
      h'.Received d := by
  have front := h.buffer.receive_prefix fits
  have found := classify_mono front d.bytes.length _ (classify_datagram d)
  simp only [readPackets, if_neg some_byte, Nat.min_eq_left fits, found]
  exact ⟨_, _, rfl, rfl, front, rfl, rfl, rfl⟩

theorem length_of_header {d : Datagram} (is_header : classOf d = .header) :
    d.ShortHeader ∨ d.bytes.length = 56 := by
  unfold classOf at is_header
  split at is_header
  · rename_i dsvt
    split at is_header
    · rename_i flag
      exact dsvt.1.imp (fun short => ⟨short, dsvt.2, flag⟩) id
    · cases is_header
  · cases is_header

theorem length_of_ambe {d : Datagram} (is_ambe : classOf d = .ambe) : 27 ≤ d.bytes.length := by
  unfold classOf at is_ambe
  split at is_ambe
  · rename_i dsvt
    omega
  · cases is_ambe

namespace Received
variable {h : G2ProtocolHandler} {d : Datagram}

theorem readHeader (received : h.Received d) (is_header : h.type = .header)
    (full : 56 ≤ d.bytes.length) :
    ∃ r, HeaderData.blank.setG2Data d.bytes d.bytes.length d.address d.port = .ok r ∧
      h.readHeader = .ok (some r) := by
  obtain ⟨r, read⟩ :=
    (HeaderData.blank.completes_setG2Data full d.bytes.length d.address d.port).mpr full
  have onBuffer := HeaderData.setG2Data_mono _ received.front _ _ _ r read
  refine ⟨r, read, ?_⟩
  simp [G2ProtocolHandler.readHeader, is_header, received.length, received.address, received.port,
    onBuffer, bind, Except.bind, pure, Except.pure]

theorem readAMBE (received : h.Received d) (is_ambe : h.type = .ambe)
    (full : 27 ≤ d.bytes.length) :
    ∃ r, AMBEData.blank.setG2Data d.bytes d.bytes.length d.address d.port = .ok r ∧
      h.readAMBE = .ok (some r) := by
  obtain ⟨r, read⟩ :=
    (AMBEData.blank.completes_setG2Data full d.bytes.length d.address d.port).mpr full
  have onBuffer := AMBEData.setG2Data_mono _ received.front _ _ _ r read
  refine ⟨r, read, ?_⟩
  simp [G2ProtocolHandler.readAMBE, is_ambe, received.length, received.address, received.port,
    onBuffer, bind, Except.bind, pure, Except.pure]

/-- A short header has no decoding of its own. -/
theorem not_decodes (received : h.Received d) (short : d.ShortHeader) : ¬h.Decodes d := by
  intro decoded
  obtain ⟨length, magic, flag⟩ := short
  have is_header : h.type = .header := by
    rw [received.type, classOf, if_pos ⟨.inl length, magic⟩, if_pos flag]
  obtain ⟨r, read, -⟩ := decoded.header is_header
  have long : 56 ≤ h.buffer.bytes.length := by
    rw [h.buffer.full]
    decide
  have met := (HeaderData.blank.completes_setG2Data long d.bytes.length d.address d.port).mp
    ⟨r, HeaderData.setG2Data_mono _ received.front _ _ _ r read⟩
  omega

theorem decodes (received : h.Received d) (long : ¬d.ShortHeader) : h.Decodes d := by
  have header (is_header : h.type = .header) := received.readHeader is_header
    ((length_of_header (received.type.symm.trans is_header)).resolve_left long).ge
  have ambe (is_ambe : h.type = .ambe) := received.readAMBE is_ambe
    (length_of_ambe (received.type.symm.trans is_ambe))
  refine ⟨received.type ▸ classify_datagram d, header, ambe, ?_, ?_⟩
  · by_cases is_header : h.type = .header
    · obtain ⟨r, -, read⟩ := header is_header
      exact ⟨_, read⟩
    · exact ⟨none, by simp [G2ProtocolHandler.readHeader, is_header, pure, Except.pure]⟩
  · by_cases is_ambe : h.type = .ambe
    · obtain ⟨r, -, read⟩ := ambe is_ambe
      exact ⟨_, read⟩
    · exact ⟨none, by simp [G2ProtocolHandler.readAMBE, is_ambe, pure, Except.pure]⟩

end Received

/-- Every datagram is decoded as it was classified, except the short header. -/
theorem readPackets_decodes_iff (h : G2ProtocolHandler) (d : Datagram) (some_byte : d.bytes ≠ [])
    (fits : d.bytes.length ≤ g2BufferLength) :
    (∃ again h' note, h.readPackets (some d) = .ok (again, h', note) ∧ h'.Decodes d) ↔
      ¬d.ShortHeader := by
  obtain ⟨h', note, taken, received⟩ := h.readPackets_received some_byte fits
  constructor
  · rintro ⟨again, h'', note', taken', decoded⟩ short
    rw [taken] at taken'
    cases taken'
    exact received.not_decodes short decoded
  · intro long
    exact ⟨_, h', note, taken, received.decodes long⟩

/-- A voice frame, up to the byte behind the sequence number. -/
def voiceFrame (seq : UInt8) : Datagram where
  bytes := str "DSVT" ++ [0x20, 0x00, 0x15, 0x09, 0x20, 0x00, 0x02, 0x01, 0x12, 0x34, seq] ++
    List.replicate 12 0x55
  address := str "44.1.2.3"
  port := 40000

theorem voiceFrame_decodes :
    ∃ again h' note, (init .inet).readPackets (some (voiceFrame 0x01)) = .ok (again, h', note) ∧
      h'.Decodes (voiceFrame 0x01) :=
  (readPackets_decodes_iff (init .inet) (voiceFrame 0x01) (by decide) (by decide)).mpr (by decide)

/-- With the top bit of the sequence number set, the frame is read as a header. -/
theorem voiceFrame_asserts :
    ∃ h' note, (init .inet).readPackets (some (voiceFrame 0x81)) = .ok (false, h', note) ∧
      h'.type = .header ∧ h'.readHeader = .error .assertion := by
  obtain ⟨h', note, taken, received⟩ :=
    (init .inet).readPackets_received (d := voiceFrame 0x81) (by decide) (by decide)
  have header : h'.type = .header := received.type.trans (by decide)
  have short : h'.length = 27 := received.length.trans (by decide)
  refine ⟨h', note, taken, header, ?_⟩
  simp [readHeader, header, HeaderData.setG2Data, short, require, bind, Except.bind]

end G2ProtocolHandler
end SmartGroup
