import SmartGroup.Group.Callsigns
import SmartGroup.Group.Relay
import SmartGroup.Protocol.Burst
import SmartGroup.Protocol.DExtra
import SmartGroup.Protocol.Ports

/-! A voice packet on its way through the server: the datagram of the talker, the frame that the
handler makes of it, and the datagrams that the listeners get. -/
namespace SmartGroup
open Bytes Sweep

/-- The five bytes behind `DSVT` in a G2 voice packet. -/
def voiceMark : Str := [0x20, 0x00, 0x15, 0x09, 0x20]

/-- A voice packet as it is passed on: the bands, the id, the sequence number and the voice are
those of the packet, and the bytes before them are the server's own. -/
def relayedBytes (bytes : List UInt8) : List UInt8 :=
  str "DSVT" ++ voiceMark ++ (bytes.drop 9).take 18

/-- The two bytes of an id that was put together from them. -/
theorem id_of_bytes (high low : UInt8) :
    UInt8.ofNat ((high.toNat * 256 + low.toNat) / 256) = high ∧
      UInt8.ofNat ((high.toNat * 256 + low.toNat) % 256) = low := by
  have small := low.toNat_lt
  have front : (high.toNat * 256 + low.toNat) / 256 = high.toNat := by omega
  have rear : (high.toNat * 256 + low.toNat) % 256 = low.toNat := by omega
  rw [front, rear]
  exact ⟨UInt8.ofNat_toNat, UInt8.ofNat_toNat⟩

namespace AMBEData

/-- A memory that holds the fields of a frame and nothing else. -/
theorem eq_of_frameFields {d : AMBEData} {mem mark : List UInt8} {high low : UInt8} (sized : d.data.length = 12)
    (mark_size : mark.length = 5) (all : mem.length = 27)
    (holds : ∀ f ∈ d.frameFields mark [high, low], Holds mem f) :
    mem = str "DSVT" ++ mark ++ ([d.band1, d.band2, d.band3, high, low, d.outSeq] ++ d.data) := by
  have dsvt : (str "DSVT").length = 4 := rfl
  have magic : Holds mem (0, str "DSVT") := holds _ (by simp [frameFields])
  have marked : Holds mem (4, mark) := holds _ (by simp [frameFields])
  have bands : Holds mem (9, [d.band1, d.band2, d.band3]) := holds _ (by simp [frameFields])
  have ids : Holds mem (12, [high, low]) := holds _ (by simp [frameFields])
  have seq : Holds mem (14, [d.outSeq]) := holds _ (by simp [frameFields])
  have voice : Holds mem (15, d.data) := holds _ (by simp [frameFields])
  have numbers : Holds mem (9, [d.band1, d.band2, d.band3, high, low, d.outSeq]) :=
    bands.append (ids.append seq)
  have rear : Holds mem (9, [d.band1, d.band2, d.band3, high, low, d.outSeq] ++ d.data) := numbers.append voice
  have front : Holds mem (0, str "DSVT" ++ mark) := magic.append (by rwa [dsvt])
  have whole := front.append (t := [d.band1, d.band2, d.band3, high, low, d.outSeq] ++ d.data) (by
    rwa [List.length_append, dsvt, mark_size])
  refine whole.eq ?_
  simp [dsvt, mark_size, sized, all]

/-- What the decoder takes out of a datagram. -/
theorem bytes_of_setG2Data {bytes : List UInt8} {d : AMBEData} {address : Str} {port : Nat}
    (long : 27 ≤ bytes.length)
    (read : AMBEData.blank.setG2Data bytes bytes.length address port = .ok d) :
    d.Sized ∧ [d.band1, d.band2, d.band3, UInt8.ofNat (d.id / 256), UInt8.ofNat (d.id % 256), d.outSeq] ++
      d.data = (bytes.drop 9).take 18 := by
  have voice : copy bytes 15 dvFrameLength = .ok ((bytes.drop 15).take 12) := copy_ok (by
    simp only [dvFrameLength]
    omega)
  have b9 : byte bytes 9 = .ok bytes[9] := byte_ok (by omega)
  have b10 : byte bytes 10 = .ok bytes[10] := byte_ok (by omega)
  have b11 : byte bytes 11 = .ok bytes[11] := byte_ok (by omega)
  have b12 : byte bytes 12 = .ok bytes[12] := byte_ok (by omega)
  have b13 : byte bytes 13 = .ok bytes[13] := byte_ok (by omega)
  have b14 : byte bytes 14 = .ok bytes[14] := byte_ok (by omega)
  simp only [setG2Data, require, decide_eq_true long, if_true, ok_bind, b9, b10, b11, b12, b13, b14,
    voice] at read
  cases read
  obtain ⟨high, low⟩ := id_of_bytes bytes[12] bytes[13]
  refine ⟨⟨?_, ?_, rfl, rfl, rfl, rfl, rfl⟩, ?_⟩
  · simp only [List.length_take, List.length_drop, dvFrameLength]
    omega
  · have := bytes[12].toNat_lt
    have := bytes[13].toNat_lt
    dsimp only
    omega
  · dsimp only
    have split : bytes.drop 9 = [bytes[9], bytes[10], bytes[11], bytes[12], bytes[13], bytes[14]] ++
        bytes.drop 15 := by
      simp only [List.cons_append, List.nil_append, List.getElem_cons_drop]
    rw [high, low, split]
    rfl

/-- A frame that was decoded and goes out again. -/
theorem writeAMBE_decoded {bytes : List UInt8} {d : AMBEData} (sized : d.Sized)
    (same : [d.band1, d.band2, d.band3, UInt8.ofNat (d.id / 256), UInt8.ofNat (d.id % 256), d.outSeq] ++
      d.data = (bytes.drop 9).take 18) (h : G2ProtocolHandler) (accepts : Nat → Bool) (address : Str)
    (port : Nat) :
    ∃ res, h.writeAMBE accepts (d.setDestination address port) =
      .ok ([h.destination (relayedBytes bytes) address], res) := by
  obtain ⟨mem, sent, holds⟩ := @getG2Data_holds (d.setDestination address port) (List.replicate 40 0) 40
    ⟨sized.data, sized.id, sized.header⟩ (by decide) (by simp)
  have size : (mem.take 27).length = 27 := by
    have voice : Holds (mem.take 27) (15, d.data) := holds _ (by simp [frameFields, setDestination])
    have fits := voice.fits (by rw [sized.data]; decide)
    simp only [Field.Fits, sized.data, dvFrameLength] at fits
    have front := mem.length_take_le 27
    omega
  have whole := eq_of_frameFields sized.data rfl size holds
  refine ⟨accepts 0, ?_⟩
  have relayed : str "DSVT" ++ [0x20, 0x00, 0x15, 0x09, 0x20] ++ ([d.band1, d.band2, d.band3,
      UInt8.ofNat (d.id / 256), UInt8.ofNat (d.id % 256), d.outSeq] ++ d.data) = relayedBytes bytes := by
    rw [same]
    rfl
  have packet : mem.take 27 = relayedBytes bytes := whole.trans relayed
  simp only [G2ProtocolHandler.writeAMBE, sent, ok_bind, packet]
  cases once : accepts 0 <;> simp [G2ProtocolHandler.writeTimes, once, setDestination, pure, Except.pure]

end AMBEData

namespace HeaderData

/-- What the decoder takes out of a datagram that a relayed header keeps. -/
theorem bytes_of_setG2Data {bytes : List UInt8} {h : HeaderData} {address : Str} {port : Nat}
    (long : 56 ≤ bytes.length)
    (read : HeaderData.blank.setG2Data bytes bytes.length address port = .ok h) :
    h.Sized ∧
      [h.band1, h.band2, h.band3, UInt8.ofNat (h.id / 256), UInt8.ofNat (h.id % 256)] =
        (bytes.drop 9).take 5 ∧ h.myCall1 ++ h.myCall2 = (bytes.drop 42).take 12 := by
  have field (start n : Nat) (inside : start + n ≤ 56) :
      copy bytes start n = .ok ((bytes.drop start).take n) ∧ ((bytes.drop start).take n).length = n := by
    refine ⟨copy_ok (by omega), ?_⟩
    rw [List.length_take, List.length_drop]
    omega
  have b9 : byte bytes 9 = .ok bytes[9] := byte_ok (by omega)
  have b10 : byte bytes 10 = .ok bytes[10] := byte_ok (by omega)
  have b11 : byte bytes 11 = .ok bytes[11] := byte_ok (by omega)
  have b12 : byte bytes 12 = .ok bytes[12] := byte_ok (by omega)
  have b13 : byte bytes 13 = .ok bytes[13] := byte_ok (by omega)
  have b15 : byte bytes 15 = .ok bytes[15] := byte_ok (by omega)
  have b16 : byte bytes 16 = .ok bytes[16] := byte_ok (by omega)
  have b17 : byte bytes 17 = .ok bytes[17] := byte_ok (by omega)
  have c18 := field 18 longCallsignLength (by decide)
  have c26 := field 26 longCallsignLength (by decide)
  have c34 := field 34 longCallsignLength (by decide)
  have c42 := field 42 longCallsignLength (by decide)
  have c50 := field 50 shortCallsignLength (by decide)
  simp only [setG2Data, require, decide_eq_true long, if_true, ok_bind, b9, b10, b11, b12, b13, b15, b16, b17,
    c18.1, c26.1, c34.1, c42.1, c50.1] at read
  cases read
  obtain ⟨high, low⟩ := id_of_bytes bytes[12] bytes[13]
  refine ⟨⟨c26.2, c18.2, c34.2, c42.2, c50.2⟩, ?_, ?_⟩
  · have split : bytes.drop 9 = [bytes[9], bytes[10], bytes[11], bytes[12], bytes[13]] ++ bytes.drop 14 := by
      simp only [List.cons_append, List.nil_append, List.getElem_cons_drop]
    dsimp only
    rw [high, low, split]
    rfl
  · change (bytes.drop 42).take 8 ++ (bytes.drop 50).take 4 = (bytes.drop 42).take (8 + 4)
    rw [List.take_add, List.drop_drop]

/-- The first 54 bytes of a header packet, as they are passed on to a repeater: the bands and the id
are those of the packet that was received, and so are the two callsigns of the user. -/
def relayedFront (bytes : List UInt8) (entry : Str × SGSRepeater) : List UInt8 :=
  let callsign (s : Str) := (s ++ List.replicate longCallsignLength 0).take longCallsignLength
  str "DSVT" ++ [0x10, 0x00, 0x15, 0x09, 0x20] ++ (bytes.drop 9).take 5 ++ [0x80, 0x00, 0x00, 0x00] ++
    callsign entry.1 ++ callsign entry.2.gate ++ padTo longCallsignLength entry.2.dest ++
    (bytes.drop 42).take 12

/-- The packet that a repeater gets for a header packet that was received. -/
structure RelayedTo (entry : Str × SGSRepeater) (bytes : List UInt8) (packet : Datagram) : Prop where
  address : packet.address = entry.2.addr
  size : packet.bytes.length = 56
  front : packet.bytes.take 54 = relayedFront bytes entry
  checksum : checkDSVT packet.bytes = .ok true

/-- The header that goes to a repeater is the one that was received with the callsigns of the route and
without flags. -/
def RelayedAs (entry : Str × SGSRepeater) (h out : HeaderData) : Prop :=
  out = entry.2.addressed (h.setFlags 0x00 0x00 0x00) entry.1

/-- A memory that holds the fields of a header. -/
theorem take_of_dsvtFields {h : HeaderData} {mem mark : List UInt8} {high low f₁ f₂ f₃ : UInt8} (sized : h.Sized)
    (mark_size : mark.length = 5) (all : mem.length = 56)
    (holds : ∀ f ∈ h.dsvtFields mark [high, low] [f₁, f₂, f₃], Holds mem f) :
    mem.take 54 = str "DSVT" ++ mark ++ [h.band1, h.band2, h.band3, high, low] ++ [0x80, f₁, f₂, f₃] ++
      h.rptCall2 ++ h.rptCall1 ++ h.yourCall ++ (h.myCall1 ++ h.myCall2) := by
  obtain ⟨rpt1, rpt2, your, my1, my2⟩ := sized
  simp only [longCallsignLength, shortCallsignLength] at rpt1 rpt2 your my1 my2
  have dsvt : (str "DSVT").length = 4 := rfl
  have magic : Holds mem (0, str "DSVT") := holds _ (by simp [dsvtFields])
  have marked : Holds mem (4, mark) := holds _ (by simp [dsvtFields])
  have bands : Holds mem (9, [h.band1, h.band2, h.band3]) := holds _ (by simp [dsvtFields])
  have ids : Holds mem (12, [high, low]) := holds _ (by simp [dsvtFields])
  have type : Holds mem (14, [0x80]) := holds _ (by simp [dsvtFields])
  have flags : Holds mem (15, [f₁, f₂, f₃]) := holds _ (by simp [dsvtFields])
  have rptCall2 : Holds mem (18, h.rptCall2) := holds _ (by simp [dsvtFields])
  have rptCall1 : Holds mem (26, h.rptCall1) := holds _ (by simp [dsvtFields])
  have yourCall : Holds mem (34, h.yourCall) := holds _ (by simp [dsvtFields])
  have myCall1 : Holds mem (42, h.myCall1) := holds _ (by simp [dsvtFields])
  have myCall2 : Holds mem (50, h.myCall2) := holds _ (by simp [dsvtFields])
  have numbers : Holds mem (9, [h.band1, h.band2, h.band3, high, low]) := bands.append ids
  have typed : Holds mem (14, [0x80, f₁, f₂, f₃]) := type.append flags
  have users : Holds mem (42, h.myCall1 ++ h.myCall2) := myCall1.append (by rwa [my1])
  have first : Holds mem (0, str "DSVT" ++ mark) := magic.append (by rwa [dsvt])
  have second := first.append (t := [h.band1, h.band2, h.band3, high, low]) (by
    simpa [dsvt, mark_size] using numbers)
  have third := second.append (t := [0x80, f₁, f₂, f₃]) (by simpa [dsvt, mark_size] using typed)
  have fourth := third.append (t := h.rptCall2) (by simpa [dsvt, mark_size] using rptCall2)
  have fifth := fourth.append (t := h.rptCall1) (by simpa [dsvt, mark_size, rpt2] using rptCall1)
  have sixth := fifth.append (t := h.yourCall) (by simpa [dsvt, mark_size, rpt1, rpt2] using yourCall)
  have whole := sixth.append (t := h.myCall1 ++ h.myCall2) (by
    simpa [dsvt, mark_size, rpt1, rpt2, your] using users)
  have front := whole.take (n := 54) (by simp [*])
  refine front.eq ?_
  simp [*]

/-- A header that was decoded and goes out again to a repeater. -/
theorem writeHeader_decoded {bytes : List UInt8} {d : HeaderData} (sized : d.Sized)
    (numbers : [d.band1, d.band2, d.band3, UInt8.ofNat (d.id / 256), UInt8.ofNat (d.id % 256)] =
      (bytes.drop 9).take 5)
    (users : d.myCall1 ++ d.myCall2 = (bytes.drop 42).take 12) {entry : Str × SGSRepeater} {out : HeaderData}
    (relayed : RelayedAs entry d out) (h : G2ProtocolHandler) (accepts : Nat → Bool) :
    ∃ packets res, h.writeHeader accepts out = .ok (packets, res) ∧ packets ≠ [] ∧
      ∀ packet ∈ packets, RelayedTo entry bytes packet ∧ packet.port = h.destinationPort entry.2.addr := by
  have fits : out.Sized := by
    subst relayed
    refine ⟨?_, ?_, length_padTo _ _, sized.myCall1, sized.myCall2⟩ <;>
      simp [SGSRepeater.addressed, setRepeaters]
  obtain ⟨mem, sent, checked, holds⟩ := @getG2Data_holds out (List.replicate 60 0) 60 fits (by decide) (by simp)
  have size : (mem.take 56).length = 56 := length_of_checkDSVT (mem.length_take_le 56) checked
  have front := take_of_dsvtFields fits rfl size holds
  refine ⟨_, _, by rw [G2ProtocolHandler.writeHeader, sent, ok_bind]; rfl,
    G2ProtocolHandler.writeTimes_ne_nil _ _ _, fun packet member => ?_⟩
  rw [G2ProtocolHandler.eq_of_mem_writeTimes member]
  subst relayed
  refine ⟨⟨rfl, size, ?_, checked⟩, rfl⟩
  dsimp only [G2ProtocolHandler.destination]
  rw [front, relayedFront, ← numbers, ← users]
  rfl

end HeaderData

/-- A header for a repeater, and the socket that it goes out on. -/
def Output.headed : Output → Option (Nat × HeaderData)
  | .writeHeader i header => some (i, header)
  | _ => none

namespace GroupHandler

/-- The header that a packet brings, from either side. -/
def headerOf : GroupEvent → Option (Env × HeaderData)
  | .g2Header env header | .reflectorHeader env header => some (env, header)
  | _ => none

section
variable {g g' : GroupHandler} {e : GroupEvent} {env : Env} {outs : List Output} {i : Nat}

/-- A header is written for the repeaters of the stream that it opens. -/
theorem header_copied {header out : HeaderData} (taken : step g e = .ok (g', outs))
    (brings : headerOf e = some (env, header)) (written : .writeHeader i out ∈ outs) :
    ∃ entry ∈ g'.repeaters.toList, HeaderData.RelayedAs entry header out := by
  cases step_sends taken written with
  | book _ _ book => exact book.elim
  | voice _ _ _ _ _ _ _ _ _ | reflectorAMBE _ _ _ _ _ _ | report _ _ _ _ _ _ _ _ _ _ _ _ => cases brings
  | opened _ _ _ _ _ _ _ sent =>
      cases brings
      rcases sent with ⟨-, same⟩ | sent | text
      · cases same
      · obtain ⟨key, r, listed, rfl⟩ := writeHeader_of_sendToRepeaters sent
        refine ⟨(key, r), mem_toList.mpr listed, ?_⟩
        unfold relayedHeader
        split <;> rfl
      · exact absurd text writeHeader_not_mem_text
  | reflectorHeader _ _ _ _ sent =>
      cases brings
      rcases sent with sent | text
      · obtain ⟨key, r, listed, rfl⟩ := writeHeader_of_sendToRepeaters sent
        exact ⟨(key, r), mem_toList.mpr listed, rfl⟩
      · exact absurd text writeHeader_not_mem_text

/-- A frame is written for the repeaters of the stream that it is part of. -/
theorem voice_written {data out : AMBEData} (taken : step g e = .ok (g', outs))
    (brings : voiceOf e = some (env, data)) (written : .writeAMBE i out ∈ outs) :
    ∃ entry ∈ g.repeaters.toList, out = data.setDestination entry.2.addr (g2Port entry.2.addr) := by
  have among : (i, out) ∈ outs.filterMap Output.written :=
    List.mem_filterMap.mpr ⟨_, written, rfl⟩
  have copied : (i, out) ∈ copies g.repeaters env data := by
    cases e with
    | g2AMBE env' data' =>
        cases brings
        rw [g2AMBE_written taken] at among
        split at among
        · exact among
        · cases among
    | reflectorAMBE env' data' =>
        cases brings
        rw [reflectorAMBE_written taken] at among
        split at among
        · exact among
        · cases among
    | _ => cases brings
  obtain ⟨entry, listed, same⟩ := List.mem_map.mp copied
  cases same
  exact ⟨entry, listed, rfl⟩

end

/-- Whichever group takes the frame, and from either side: what it writes of the frame goes out as one
packet to a repeater of the stream, with the bytes of the packet that the frame came in. -/
def VoicePassedOn (bytes : List UInt8) (data : AMBEData) : Prop :=
  ∀ (g g' : GroupHandler) (e : GroupEvent) (env : Env) (outs : List Output) (i : Nat) (out : AMBEData),
    step g e = .ok (g', outs) → voiceOf e = some (env, data) → .writeAMBE i out ∈ outs →
    ∀ (h : G2ProtocolHandler) (accepts : Nat → Bool), ∃ entry ∈ g.repeaters.toList, ∃ res,
      h.writeAMBE accepts out = .ok ([h.destination (relayedBytes bytes) entry.2.addr], res)

/-- The same for a header: the packets are those of a repeater of the stream that it opens. -/
def HeaderPassedOn (bytes : List UInt8) (header : HeaderData) : Prop :=
  ∀ (g g' : GroupHandler) (e : GroupEvent) (env : Env) (outs : List Output) (i : Nat) (out : HeaderData),
    step g e = .ok (g', outs) → headerOf e = some (env, header) → .writeHeader i out ∈ outs →
    ∀ (h : G2ProtocolHandler) (accepts : Nat → Bool), ∃ entry ∈ g'.repeaters.toList, ∃ packets res,
      h.writeHeader accepts out = .ok (packets, res) ∧ packets ≠ [] ∧
      ∀ packet ∈ packets, HeaderData.RelayedTo entry bytes packet ∧ packet.port = h.destinationPort entry.2.addr

theorem voice_passed_on {bytes : List UInt8} {data : AMBEData} (sized : data.Sized)
    (same : [data.band1, data.band2, data.band3, UInt8.ofNat (data.id / 256), UInt8.ofNat (data.id % 256),
      data.outSeq] ++ data.data = (bytes.drop 9).take 18) : VoicePassedOn bytes data := by
  intro g g' e env outs i out taken brings written h accepts
  obtain ⟨entry, listed, rfl⟩ := voice_written taken brings written
  exact ⟨entry, listed, AMBEData.writeAMBE_decoded sized same h accepts _ _⟩

theorem header_passed_on {bytes : List UInt8} {header : HeaderData} (sized : header.Sized)
    (numbers : [header.band1, header.band2, header.band3, UInt8.ofNat (header.id / 256),
      UInt8.ofNat (header.id % 256)] = (bytes.drop 9).take 5)
    (users : header.myCall1 ++ header.myCall2 = (bytes.drop 42).take 12) : HeaderPassedOn bytes header := by
  intro g g' e env outs i out taken brings written h accepts
  obtain ⟨entry, listed, relayed⟩ := header_copied taken brings written
  exact ⟨entry, listed, HeaderData.writeHeader_decoded sized numbers users relayed h accepts⟩

end GroupHandler

/-! The packets of a DExtra reflector are decoded as those of a G2 repeater. -/
namespace DExtraProtocolHandler

/-- What `readPackets` leaves in the handler when the datagram fits in the buffer. -/
theorem readPackets_front (h : DExtraProtocolHandler) {d : Datagram} (some_byte : d.bytes ≠ []) :
    ∃ h', h.readPackets (some d) = .ok (decide (h'.type = .none), h') ∧
      ((h'.type = .ambe → d.bytes.length = 27) ∧ (h'.type = .header → d.bytes.length = 56)) ∧
      (d.bytes.length ≤ dextraBufferLength → d.bytes <+: h'.buffer.bytes ∧ h'.length = d.bytes.length) := by
  obtain ⟨h', taken, type, buffer, length, -⟩ := h.readPackets_some some_byte
  obtain ⟨header, ambe, -⟩ := length_of_typeOf type.symm
  refine ⟨h', taken, ⟨fun voice => ?_, fun opens => ?_⟩, fun fits => ⟨?_, ?_⟩⟩
  · have short := ambe voice
    simp only [dextraBufferLength] at short
    omega
  · have short := header opens
    simp only [dextraBufferLength] at short
    omega
  · rw [buffer]
    exact h.buffer.receive_prefix fits
  · rw [length, Nat.min_eq_left fits]

/-- A frame is that of the datagram alone. -/
theorem newAMBE_front {h : DExtraProtocolHandler} {bytes : List UInt8} {data : AMBEData}
    (front : bytes <+: h.buffer.bytes) (length : h.length = bytes.length) (long : 27 ≤ bytes.length)
    (got : h.newAMBE = .ok (some data)) :
    ∃ r, AMBEData.blank.setG2Data bytes bytes.length h.yourAddress h.yourPort = .ok r ∧
      data = { r with myPort := h.myPort } := by
  obtain ⟨r, read⟩ := (AMBEData.blank.completes_setG2Data long bytes.length h.yourAddress h.yourPort).mpr long
  have onBuffer := AMBEData.setG2Data_mono _ front _ _ _ r read
  unfold newAMBE at got
  split at got
  · cases got
  · simp only [AMBEData.setDExtraData, length, onBuffer, ok_bind] at got
    cases got
    exact ⟨r, read, rfl⟩

theorem newHeader_front {h : DExtraProtocolHandler} {bytes : List UInt8} {header : HeaderData}
    (front : bytes <+: h.buffer.bytes) (length : h.length = bytes.length) (long : 56 ≤ bytes.length)
    (got : h.newHeader = .ok (some header)) :
    ∃ r, HeaderData.blank.setG2Data bytes bytes.length h.yourAddress h.yourPort = .ok r ∧
      header = { r with myPort := h.myPort } := by
  obtain ⟨r, read⟩ := (HeaderData.blank.completes_setG2Data long bytes.length h.yourAddress h.yourPort).mpr long
  have onBuffer := HeaderData.setG2Data_mono _ front _ _ _ r read
  unfold newHeader at got
  split at got
  · cases got
  · simp only [HeaderData.setDExtraData, HeaderData.setG2DataChecked, length, onBuffer, ok_bind] at got
    cases got
    exact ⟨r, read, rfl⟩

theorem type_of_newAMBE {h : DExtraProtocolHandler} {data : AMBEData} (got : h.newAMBE = .ok (some data)) :
    h.type = .ambe := by
  by_contra other
  rw [newAMBE, if_pos other] at got
  cases got

theorem type_of_newHeader {h : DExtraProtocolHandler} {header : HeaderData}
    (got : h.newHeader = .ok (some header)) : h.type = .header := by
  by_contra other
  rw [newHeader, if_pos other] at got
  cases got

end DExtraProtocolHandler

theorem G2ProtocolHandler.lengths_of_class {d : Datagram} (voice : classOf d ≠ .none) :
    d.bytes.length = 27 ∨ d.bytes.length = 56 := by
  by_contra other
  exact voice (if_neg fun dsvt => other dsvt.1)

open GroupHandler

/-- A voice packet goes through the server as it came. Every G2 packet that is one is read as a frame, and
what a group writes of a frame, be it from a repeater or from a DExtra reflector, has the bytes of the packet
from the bands on. -/
theorem voice_forwarded :
    (∀ (h : G2ProtocolHandler) (d : Datagram), G2ProtocolHandler.classOf d = .ambe → ∃ h' note data,
      h.readPackets (some d) = .ok (false, h', note) ∧ h'.readAMBE = .ok (some data) ∧
        VoicePassedOn d.bytes data) ∧
    ∀ (h h' : DExtraProtocolHandler) (d : Datagram) (again : Bool) (data : AMBEData), d.bytes ≠ [] →
      h.readPackets (some d) = .ok (again, h') → h'.newAMBE = .ok (some data) → VoicePassedOn d.bytes data := by
  constructor
  · intro h d voice
    have long := G2ProtocolHandler.length_of_ambe voice
    have fits : d.bytes.length ≤ g2BufferLength := by
      rcases G2ProtocolHandler.lengths_of_class (by rw [voice]; decide) with short | short <;>
        exact short ▸ by decide
    have some_byte : d.bytes ≠ [] := List.ne_nil_of_length_pos (by omega)
    obtain ⟨h', note, taken, received⟩ := h.readPackets_received some_byte fits
    obtain ⟨data, read, got⟩ := received.readAMBE (received.type.trans voice) long
    obtain ⟨sized, same⟩ := AMBEData.bytes_of_setG2Data long read
    refine ⟨h', note, data, ?_, got, voice_passed_on sized same⟩
    rw [taken, voice]
    rfl
  · intro h h' d again data some_byte taken got
    obtain ⟨h'', taken', ⟨voice, -⟩, front⟩ := h.readPackets_front some_byte
    cases taken.symm.trans taken'
    have size := voice (DExtraProtocolHandler.type_of_newAMBE got)
    obtain ⟨front, length⟩ := front (size ▸ by decide)
    obtain ⟨r, read, rfl⟩ := DExtraProtocolHandler.newAMBE_front front length size.ge got
    obtain ⟨sized, same⟩ := AMBEData.bytes_of_setG2Data size.ge read
    apply voice_passed_on
    · exact ⟨sized.data, sized.id, sized.header⟩
    · exact same

section
open G2ProtocolHandler Sample

/-- A voice packet of one user, and what another gets of it. -/
theorem voiceFrame_forwarded : ∃ (data : AMBEData) (tr : List GroupEntry) (g : GroupHandler) (y : GroupEntry)
    (i : Nat) (out : AMBEData) (entry : Str × SGSRepeater) (res : Bool), GroupRun config tr g ∧ y ∈ tr ∧
      (voiceOf y.event).map Prod.snd = some data ∧ .writeAMBE i out ∈ y.outs ∧
      (init .inet).writeAMBE (fun _ => true) out =
        .ok ([(init .inet).destination (relayedBytes (voiceFrame 0x01).bytes) entry.2.addr], res) := by
  obtain ⟨h', note, data, taken, got, passed⟩ := voice_forwarded.1 (init .inet) (voiceFrame 0x01) (by decide)
  let decoded := ((AMBEData.blank.setG2Data (voiceFrame 0x01).bytes 27 (str "44.1.2.3") 40000).toOption).getD
    AMBEData.blank
  have read : ((init .inet).readPackets (some (voiceFrame 0x01)) >>= fun r => r.2.1.readAMBE) =
      .ok (some decoded) := by decide +kernel
  rw [taken, ok_bind, got] at read
  have same : data = decoded := Option.some.inj (Except.ok.inj read)
  subst same
  obtain ⟨tr, g, run, accepted⟩ := Sample.run
    [.g2Header knownEnv (call userA smart 1), .g2AMBE knownEnv (lastFrame 1),
      .g2Header knownEnv (call userB smart 2), .g2AMBE knownEnv (lastFrame 2),
      .g2Header knownEnv (call userA smart 0x1234), .g2AMBE knownEnv decoded]
    (fun tr _ => decide (∃ y ∈ tr[5]?, (voiceOf (y : GroupEntry).event).map Prod.snd = some decoded ∧
      ∃ o ∈ y.outs, (Output.written o).isSome)) (by decide +kernel)
  obtain ⟨y, sixth, brought, o, sent, written⟩ := of_decide_eq_true accepted
  have member : y ∈ tr := List.mem_of_getElem? (Option.mem_def.mp sixth)
  obtain ⟨⟨env, frame⟩, brings, rfl⟩ := Option.map_eq_some_iff.mp brought
  cases o with
  | writeAMBE i out =>
      obtain ⟨entry, -, res, packets⟩ := passed y.pre y.post y.event env y.outs i out (run.entry member).1 brings
        sent (init .inet) fun _ => true
      exact ⟨_, tr, g, y, i, out, entry, res, run, member, brought, sent, packets⟩
  | _ => cases written

end

/-- A header packet is passed on with its bands, its id and the callsigns of its user, with the callsigns of
the way to the repeater that it goes to, and with a checksum that fits. -/
theorem header_forwarded :
    (∀ (h : G2ProtocolHandler) (d : Datagram), G2ProtocolHandler.classOf d = .header → d.bytes.length = 56 →
      ∃ h' note header, h.readPackets (some d) = .ok (false, h', note) ∧ h'.readHeader = .ok (some header) ∧
        HeaderPassedOn d.bytes header) ∧
    ∀ (h h' : DExtraProtocolHandler) (d : Datagram) (again : Bool) (header : HeaderData), d.bytes ≠ [] →
      h.readPackets (some d) = .ok (again, h') → h'.newHeader = .ok (some header) →
        HeaderPassedOn d.bytes header := by
  constructor
  · intro h d opens size
    have some_byte : d.bytes ≠ [] := List.ne_nil_of_length_pos (by omega)
    obtain ⟨h', note, taken, received⟩ := h.readPackets_received some_byte (size ▸ by decide)
    obtain ⟨header, read, got⟩ := received.readHeader (received.type.trans opens) size.ge
    obtain ⟨sized, numbers, users⟩ := HeaderData.bytes_of_setG2Data size.ge read
    refine ⟨h', note, header, ?_, got, header_passed_on sized numbers users⟩
    rw [taken, opens]
    rfl
  · intro h h' d again header some_byte taken got
    obtain ⟨h'', taken', ⟨-, opens⟩, front⟩ := h.readPackets_front some_byte
    cases taken.symm.trans taken'
    have size := opens (DExtraProtocolHandler.type_of_newHeader got)
    obtain ⟨front, length⟩ := front (size ▸ by decide)
    obtain ⟨r, read, rfl⟩ := DExtraProtocolHandler.newHeader_front front length size.ge got
    obtain ⟨sized, numbers, users⟩ := HeaderData.bytes_of_setG2Data size.ge read
    apply header_passed_on
    · exact ⟨sized.rptCall1, sized.rptCall2, sized.yourCall, sized.myCall1, sized.myCall2⟩
    · exact numbers
    · exact users

section
open G2ProtocolHandler Sample

/-- The packet with which a user starts to talk; nobody looks at its checksum. -/
def callPacket (id : UInt8) : Datagram where
  bytes := str "DSVT" ++ [0x10, 0x00, 0x15, 0x09, 0x20, 0x00, 0x02, 0x01, 0x00, id, 0x80, 0x00, 0x00, 0x00] ++
    str "SMART1 G" ++ str "RPTR1  B" ++ smart ++ userA ++ str "ID51" ++ [0x00, 0x00]
  address := str "44.1.2.3"
  port := 40000

def callHeader (id : UInt8) : HeaderData :=
  ((HeaderData.blank.setG2Data (callPacket id).bytes 56 (str "44.1.2.3") 40000).toOption).getD HeaderData.blank

/-- The header of one user, and the packets in which another gets it. -/
theorem callPacket_forwarded : ∃ (header : HeaderData) (tr : List GroupEntry) (g : GroupHandler) (y : GroupEntry)
    (i : Nat) (out : HeaderData) (entry : Str × SGSRepeater) (packets : List Datagram) (res : Bool),
    GroupRun config tr g ∧ y ∈ tr ∧ (headerOf y.event).map Prod.snd = some header ∧
      .writeHeader i out ∈ y.outs ∧
      (init .inet).writeHeader (fun _ => true) out = .ok (packets, res) ∧ packets ≠ [] ∧
      ∀ packet ∈ packets, HeaderData.RelayedTo entry (callPacket 9).bytes packet := by
  obtain ⟨h', note, header, taken, got, passed⟩ := header_forwarded.1 (init .inet) (callPacket 9)
    (by decide +kernel) (by decide +kernel)
  have read : ((init .inet).readPackets (some (callPacket 9)) >>= fun r => r.2.1.readHeader) =
      .ok (some (callHeader 9)) := by decide +kernel
  rw [taken, ok_bind, got] at read
  have same : header = callHeader 9 := Option.some.inj (Except.ok.inj read)
  subst same
  obtain ⟨tr, g, run, accepted⟩ := Sample.run
    [.g2Header knownEnv (call userA smart 1), .g2AMBE knownEnv (lastFrame 1),
      .g2Header knownEnv (call userB smart 2), .g2AMBE knownEnv (lastFrame 2), .g2Header knownEnv (callHeader 9)]
    (fun tr _ => decide (∃ y ∈ tr[4]?, (headerOf (y : GroupEntry).event).map Prod.snd = some (callHeader 9) ∧
      ∃ o ∈ y.outs, (Output.headed o).isSome)) (by decide +kernel)
  obtain ⟨y, fifth, brought, o, sent, written⟩ := of_decide_eq_true accepted
  have member : y ∈ tr := List.mem_of_getElem? (Option.mem_def.mp fifth)
  obtain ⟨⟨env, frame⟩, brings, rfl⟩ := Option.map_eq_some_iff.mp brought
  cases o with
  | writeHeader i out =>
      obtain ⟨entry, -, packets, res, written, some_packet, all⟩ := passed y.pre y.post y.event env y.outs i out
        (run.entry member).1 brings sent (init .inet) fun _ => true
      exact ⟨_, tr, g, y, i, out, entry, packets, res, run, member, brought, sent, written, some_packet,
        fun packet inside => (all packet inside).1⟩
  | _ => cases written

end

end SmartGroup
