import SmartGroup.Protocol.Wire

/-! What the decoders give back of the packets that the encoders make. -/
namespace SmartGroup
open Bytes

/-- Two bytes make the number that they were taken from. -/
theorem bytes_of_id {id : Nat} (small : id < 65536) :
    (UInt8.ofNat (id / 256)).toNat * 256 + (UInt8.ofNat (id % 256)).toNat = id := by
  simp only [UInt8.toNat_ofNat']
  omega

/-- The header that the decoder reads in a DCS packet; its id is the frame's. -/
theorem HeaderData.setDCSData_fields {h : HeaderData} (sized : h.Sized) {data : List UInt8}
    {low high : UInt8} (ids : Holds data (43, [low, high])) (calls : ∀ f ∈ h.dcsFields, Holds data f)
    (h₀ : HeaderData) (address : Str) (port myPort : Nat) :
    h₀.setDCSData data 100 address port myPort = .ok { h₀ with
      id := high.toNat * 256 + low.toNat
      flag1 := h.flag1, flag2 := h.flag2, flag3 := h.flag3
      rptCall2 := h.rptCall2, rptCall1 := h.rptCall1, yourCall := h.yourCall
      myCall1 := h.myCall1, myCall2 := h.myCall2
      yourAddress := address, yourPort := port, myPort := myPort } := by
  have flags : Holds data (4, [h.flag1, h.flag2, h.flag3]) := calls _ (by simp [dcsFields])
  have rpt2 : Holds data (7, h.rptCall2) := calls _ (by simp [dcsFields])
  have rpt1 : Holds data (15, h.rptCall1) := calls _ (by simp [dcsFields])
  have your : Holds data (23, h.yourCall) := calls _ (by simp [dcsFields])
  have my1 : Holds data (31, h.myCall1) := calls _ (by simp [dcsFields])
  have my2 : Holds data (39, h.myCall2) := calls _ (by simp [dcsFields])
  have b4 : byte data 4 = .ok h.flag1 := flags.byte (i := 0) rfl
  have b5 : byte data 5 = .ok h.flag2 := flags.byte (i := 1) rfl
  have b6 : byte data 6 = .ok h.flag3 := flags.byte (i := 2) rfl
  have b43 : byte data 43 = .ok low := ids.byte (i := 0) rfl
  have b44 : byte data 44 = .ok high := ids.byte (i := 1) rfl
  simp only [setDCSData, require, le_refl, decide_true, if_true, ok_bind, b4, b5, b6, b43, b44,
    rpt2.copy sized.rptCall2 (by decide), rpt1.copy sized.rptCall1 (by decide),
    your.copy sized.yourCall (by decide), my1.copy sized.myCall1 (by decide),
    my2.copy sized.myCall2 (by decide)]
  rfl

namespace AMBEData

/-- The voice of a DCS packet: an end frame has a pattern in its last three bytes. -/
def sentData (d : AMBEData) : Str :=
  if d.isEnd then d.data.take 9 ++ [0x55, 0x55, 0x55] else d.data

def counterBytes (d : AMBEData) : Str :=
  [UInt8.ofNat (d.rptSeq % 256), UInt8.ofNat (d.rptSeq / 256 % 256),
    UInt8.ofNat (d.rptSeq / 65536 % 256)]

/-- The fields of a DCS packet that the frame itself fills. -/
def dcsFields (d : AMBEData) : List Field :=
  [(43, [UInt8.ofNat (d.id % 256), UInt8.ofNat (d.id / 256)]),
    (45, [d.outSeq]),
    (46, d.sentData),
    (58, d.counterBytes)]

theorem length_sentData {d : AMBEData} (sized : d.Sized) : d.sentData.length = dvFrameLength := by
  have voice := sized.data
  unfold sentData
  split
  · simp [voice, dvFrameLength]
  · exact voice

/-- The last three bytes of an end frame go over the frame that was written before. -/
theorem holds_sentData {d : AMBEData} (sized : d.Sized) {data : List UInt8}
    (held : Holds data (46, d.data)) :
    ∃ data', d.putEnd data = .ok data' ∧ data'.length = data.length ∧ Holds data' (46, d.sentData) ∧
      ∀ f : Field, f.Apart (55, [0x55, 0x55, 0x55]) → Holds data f → Holds data' f := by
  have voice : d.data.length = 12 := sized.data
  unfold sentData putEnd
  by_cases last : d.isEnd = true
  · have room : Field.Fits data (46, d.data) := held.fits (by simp [voice])
    have fits : Field.Fits data (55, [0x55, 0x55, 0x55]) := by
      simp only [Field.Fits, voice] at room ⊢
      exact room
    have whole : d.data = d.data.take 9 ++ d.data.drop 9 := (List.take_append_drop 9 d.data).symm
    have nine : (d.data.take 9).length = 9 := by simp [voice]
    refine ⟨put data 55 [0x55, 0x55, 0x55], ?_, by simp, ?_, ?_⟩
    · rw [if_pos last]
      exact write_ok fits
    · rw [if_pos last]
      rw [whole] at held
      apply Holds.append
      · exact held.left.put (g := (55, [0x55, 0x55, 0x55])) (.inl (by simp [nine]))
      · rw [nine]
        exact holds_put fits
    · intro f apart before
      exact before.put apart
  · refine ⟨data, ?_, rfl, ?_, fun f _ before => before⟩
    · rw [if_neg last]
    · rwa [if_neg last]

theorem getDCSData_holds {d : AMBEData} (sized : d.Sized) {buffer : List UInt8} {length : Nat}
    (fits : 100 ≤ length) (inside : length ≤ buffer.length) :
    ∃ data, d.getDCSData buffer length = .ok (data, 100) ∧
      (∀ f ∈ d.dcsFields, Holds (data.take 100) f) ∧
      ∀ f ∈ d.header.dcsFields, Holds (data.take 100) f := by
  have voice : d.data.length = 12 := sized.data
  have sent : d.sentData.length = 12 := length_sentData sized
  obtain ⟨rpt1, rpt2, your, my1, my2⟩ := sized.header
  simp only [longCallsignLength, shortCallsignLength] at rpt1 rpt2 your my1 my2
  have digits : (str "0001").length = 4 := rfl
  have room : 100 ≤ buffer.length := by omega
  have zeros : Field.Fits buffer (0, List.replicate 100 0x00) := by simpa [Field.Fits] using room
  obtain ⟨m₁, front, size₁, holds₁, -⟩ := writeAll_holds
    (put buffer 0 (List.replicate 100 0x00))
    [(0, str "0001"), (43, [UInt8.ofNat (d.id % 256), UInt8.ofNat (d.id / 256)]), (45, [d.outSeq]),
      (46, d.data)]
    (by simp [Field.Fits, voice, digits]; omega) (by simp [Field.Apart, digits])
  obtain ⟨m₂, last, size₂, voice₂, kept₂⟩ := holds_sentData sized (holds₁ (46, d.data) (by simp))
  obtain ⟨m₃, rear, size₃, holds₃, kept₃⟩ := writeAll_holds m₂
    [(58, d.counterBytes), (61, [0x01, 0x00]), (63, [0x21])]
    (by simp [Field.Fits, size₂, size₁, counterBytes]; omega) (by simp [Field.Apart, counterBytes])
  obtain ⟨m₄, calls, -, holds₄, kept₄⟩ := writeAll_holds m₃ d.header.dcsFields
    (by simp [HeaderData.dcsFields, Field.Fits, *]; omega)
    (by simp [HeaderData.dcsFields, Field.Apart, *])
  refine ⟨m₄, ?_, ?_, ?_⟩
  · have blank : write buffer 0 (List.replicate 100 0x00) = .ok _ := write_ok zeros
    have calls : d.header.getDCSData m₃ 100 = .ok m₄ := calls
    unfold counterBytes at rear
    simp only [getDCSData, require, decide_eq_true fits, if_true, ok_bind, blank, front, last, rear,
      calls]
    rfl
  · have above : ∀ f : Field, 43 ≤ f.1 → ∀ g ∈ d.header.dcsFields, f.Apart g := by
      intro f high g member
      refine .inr (Nat.le_trans ?_ high)
      revert g
      simp [HeaderData.dcsFields, *]
    have ids := kept₃ _ (by simp [Field.Apart]) (kept₂ _ (by simp [Field.Apart])
      (holds₁ (43, [UInt8.ofNat (d.id % 256), UInt8.ofNat (d.id / 256)]) (by simp)))
    have seq := kept₃ _ (by simp [Field.Apart]) (kept₂ _ (by simp [Field.Apart])
      (holds₁ (45, [d.outSeq]) (by simp)))
    have voice := kept₃ _ (by simp [Field.Apart, sent]) voice₂
    have count := holds₃ (58, d.counterBytes) (by simp)
    simp only [dcsFields, List.forall_mem_cons, List.not_mem_nil, false_implies, implies_true, and_true]
    refine ⟨?_, ?_, ?_, ?_⟩
    · exact (kept₄ _ (above _ (by simp)) ids).take (by simp)
    · exact (kept₄ _ (above _ (by simp)) seq).take (by simp)
    · exact (kept₄ _ (above _ (by simp)) voice).take (by simp [sent])
    · exact (kept₄ _ (above _ (by simp)) count).take (by simp [counterBytes])
  · intro f member
    refine (holds₄ f member).take ?_
    revert f
    simp [HeaderData.dcsFields, *]

/-- What the decoder reads in a packet that holds the fields of a frame and its header. -/
theorem setDCSData_fields {d : AMBEData} (sized : d.Sized) (counter : d.rptSeq < 2 ^ 24)
    {data : List UInt8} (holds : ∀ f ∈ d.dcsFields, Holds data f)
    (calls : ∀ f ∈ d.header.dcsFields, Holds data f) (d₀ : AMBEData) (address : Str)
    (port myPort : Nat) :
    d₀.setDCSData data 100 address port myPort = .ok { d₀ with
      header := { d₀.header with
        id := d.id
        flag1 := d.header.flag1, flag2 := d.header.flag2, flag3 := d.header.flag3
        rptCall2 := d.header.rptCall2, rptCall1 := d.header.rptCall1
        yourCall := d.header.yourCall, myCall1 := d.header.myCall1, myCall2 := d.header.myCall2
        yourAddress := address, yourPort := port, myPort := myPort }
      outSeq := d.outSeq
      id := d.id
      data := d.sentData
      rptSeq := d.rptSeq
      yourAddress := address, yourPort := port, myPort := myPort } := by
  have ids : Holds data (43, [UInt8.ofNat (d.id % 256), UInt8.ofNat (d.id / 256)]) :=
    holds _ (by simp [dcsFields])
  have seq : Holds data (45, [d.outSeq]) := holds _ (by simp [dcsFields])
  have voice : Holds data (46, d.sentData) := holds _ (by simp [dcsFields])
  have count : Holds data (58, d.counterBytes) := holds _ (by simp [dcsFields])
  have b43 : byte data 43 = .ok (UInt8.ofNat (d.id % 256)) := ids.byte (i := 0) rfl
  have b44 : byte data 44 = .ok (UInt8.ofNat (d.id / 256)) := ids.byte (i := 1) rfl
  have b45 : byte data 45 = .ok d.outSeq := seq.byte (i := 0) rfl
  have b58 : byte data 58 = .ok (UInt8.ofNat (d.rptSeq % 256)) := count.byte (i := 0) rfl
  have b59 : byte data 59 = .ok (UInt8.ofNat (d.rptSeq / 256 % 256)) := count.byte (i := 1) rfl
  have b60 : byte data 60 = .ok (UInt8.ofNat (d.rptSeq / 65536 % 256)) := count.byte (i := 2) rfl
  have whole : (UInt8.ofNat (d.rptSeq / 65536 % 256)).toNat * 65536 +
      (UInt8.ofNat (d.rptSeq / 256 % 256)).toNat * 256 + (UInt8.ofNat (d.rptSeq % 256)).toNat =
        d.rptSeq := by
    simp only [UInt8.toNat_ofNat']
    omega
  simp only [setDCSData, HeaderData.setDCSData_fields sized.header ids calls, require, le_refl,
    decide_true, if_true, ok_bind, b43, b44, b45, b58, b59, b60,
    voice.copy (length_sentData sized) (by decide), bytes_of_id sized.id, whole]
  rfl

end AMBEData

/-- The received header has the fields that every header packet carries. -/
structure HeaderData.Restored (h h' : HeaderData) : Prop where
  bands : h'.bands = h.bands
  id : h'.id = h.id
  callsigns : h'.callsigns = h.callsigns

/-- The received frame has the fields that every frame packet carries. -/
structure AMBEData.Restored (d d' : AMBEData) : Prop where
  bands : d'.bands = d.bands
  id : d'.id = d.id
  outSeq : d'.outSeq = d.outSeq
  data : d'.data = d.data

section
variable {h : HeaderData} {d : AMBEData} {buffer frameBuffer : List UInt8} {length frameLength : Nat}

/-- Headers and frames come back from their G2 packets, with a valid checksum. -/
theorem g2_roundTrip (sized : h.Sized) (small : h.id < 65536) (fits : 56 ≤ length)
    (inside : length ≤ buffer.length) (frame : d.Sized) (frame_fits : 30 ≤ frameLength)
    (frame_inside : frameLength ≤ frameBuffer.length) (h₀ : HeaderData) (d₀ : AMBEData)
    (address : Str) (port : Nat) :
    (∃ data n h', h.getG2Data buffer length true = .ok (data, n) ∧
      h₀.setG2DataChecked (data.take n) n true address port = .ok (true, h') ∧ h.Restored h' ∧
      h'.flags = h.flags) ∧
    (∃ data n d', d.getG2Data frameBuffer frameLength = .ok (data, n) ∧
      d₀.setG2Data (data.take n) n address port = .ok d' ∧ d.Restored d') := by
  constructor
  · obtain ⟨data, sent, valid, holds⟩ := h.getG2Data_holds sized fits inside
    have read := h.setG2DataChecked_fields sized holds valid h₀ address port
    rw [bytes_of_id small] at read
    exact ⟨data, 56, _, sent, read, ⟨rfl, rfl, rfl⟩, rfl⟩
  · obtain ⟨data, sent, holds⟩ := d.getG2Data_holds frame frame_fits frame_inside
    have read := d.setG2Data_fields frame holds d₀ address port
    rw [bytes_of_id frame.id] at read
    exact ⟨data, 27, _, sent, read, rfl, rfl, rfl, rfl⟩

/-- DExtra packets have the low byte of the id first, and the decoders take it for the high
one: an id comes back when its two bytes are equal. -/
theorem bytes_of_swapped_id {id : Nat} (small : id < 65536) :
    (UInt8.ofNat (id % 256)).toNat * 256 + (UInt8.ofNat (id / 256)).toNat = id ↔
      id / 256 = id % 256 := by
  simp only [UInt8.toNat_ofNat']
  omega

/-- Headers and frames come back from their DExtra packets exactly when the bytes of the
id are equal; all else comes back. -/
theorem dextra_roundTrip_iff (sized : h.Sized) (small : h.id < 65536)
    (plain : h.flags = (0x00, 0x00, 0x00)) (fits : 56 ≤ length) (inside : length ≤ buffer.length)
    (frame : d.Sized) (frame_fits : 30 ≤ frameLength)
    (frame_inside : frameLength ≤ frameBuffer.length) (h₀ : HeaderData) (d₀ : AMBEData)
    (address : Str) (port myPort : Nat) :
    ((∃ data n h', h.getDExtraData buffer length true = .ok (data, n) ∧
      h₀.setDExtraData (data.take n) n true address port myPort = .ok (true, h') ∧ h.Restored h' ∧
      h'.flags = h.flags) ↔ h.id / 256 = h.id % 256) ∧
    ((∃ data n d', d.getDExtraData frameBuffer frameLength = .ok (data, n) ∧
      d₀.setDExtraData (data.take n) n address port myPort = .ok d' ∧ d.Restored d') ↔
        d.id / 256 = d.id % 256) := by
  constructor
  · obtain ⟨data, sent, valid, holds⟩ := h.getDExtraData_holds sized fits inside
    have read := h.setG2DataChecked_fields sized holds valid h₀ address port
    have whole : h₀.setDExtraData (data.take 56) 56 true address port myPort = _ :=
      congrArg (· >>= _) read
    rw [← bytes_of_swapped_id small]
    constructor
    · rintro ⟨data', n, h', sent', got, restored, -⟩
      rw [sent] at sent'
      cases sent'
      rw [whole] at got
      cases got
      exact restored.id
    · intro same
      exact ⟨data, 56, _, sent, whole, ⟨rfl, same, rfl⟩, plain.symm⟩
  · obtain ⟨data, sent, holds⟩ := d.getDExtraData_holds frame frame_fits frame_inside
    have read := d.setG2Data_fields frame holds d₀ address port
    have whole : d₀.setDExtraData (data.take 27) 27 address port myPort = _ := congrArg (· >>= _) read
    rw [← bytes_of_swapped_id frame.id]
    constructor
    · rintro ⟨data', n, d', sent', got, restored⟩
      rw [sent] at sent'
      cases sent'
      rw [whole] at got
      cases got
      exact restored.id
    · intro same
      exact ⟨data, 27, _, sent, whole, rfl, same, rfl, rfl⟩

/-- Frames and their headers come back from DCS packets; an end frame has its pattern. -/
theorem dcs_roundTrip (frame : d.Sized) (counter : d.rptSeq < 2 ^ 24) (fits : 100 ≤ length)
    (inside : length ≤ buffer.length) (d₀ : AMBEData) (address : Str) (port myPort : Nat) :
    ∃ data n d', d.getDCSData buffer length = .ok (data, n) ∧
      d₀.setDCSData (data.take n) n address port myPort = .ok d' ∧ d'.id = d.id ∧ d'.header.id = d.id ∧
      d'.outSeq = d.outSeq ∧ d'.isEnd = d.isEnd ∧ d'.rptSeq = d.rptSeq ∧
      d'.header.flags = d.header.flags ∧ d'.header.callsigns = d.header.callsigns ∧
      d'.data = if d.isEnd then d.data.take 9 ++ [0x55, 0x55, 0x55] else d.data := by
  obtain ⟨data, sent, holds, calls⟩ := d.getDCSData_holds frame fits inside
  have read := d.setDCSData_fields frame counter holds calls d₀ address port myPort
  exact ⟨data, 100, _, sent, read, rfl, rfl, rfl, rfl, rfl, rfl, rfl, rfl⟩

end

/-! Packets of a stream, and what comes of them. -/
namespace Sample

def streamHeader (id : Nat) : HeaderData :=
  (HeaderData.ofCalls (str "AB1CDE  ") (str "ID51") (str "CQCQCQ  ") (str "SMART1 G")
    (str "SMART1 A")).setId id

def streamFrame (id : Nat) : AMBEData :=
  { ((AMBEData.blank.setId id).setData (List.replicate 12 0x2A)).setSeq 7 with
    header := streamHeader id }

theorem streamHeader_sized (id : Nat) : (streamHeader id).Sized := ⟨rfl, rfl, rfl, rfl, rfl⟩

theorem streamFrame_sized (id : Nat) : (streamFrame id).Sized :=
  ⟨rfl, Nat.mod_lt _ (by decide), streamHeader_sized id⟩

theorem g2_roundTrip_stream :
    (∃ data n h', (streamHeader 4660).getG2Data (List.replicate 60 0) 60 true = .ok (data, n) ∧
      HeaderData.blank.setG2DataChecked (data.take n) n true (str "44.1.2.3") 40000 = .ok (true, h') ∧
      (streamHeader 4660).Restored h' ∧ h'.flags = (streamHeader 4660).flags) ∧
    (∃ data n d', (streamFrame 4660).getG2Data (List.replicate 40 0) 40 = .ok (data, n) ∧
      AMBEData.blank.setG2Data (data.take n) n (str "44.1.2.3") 40000 = .ok d' ∧
      (streamFrame 4660).Restored d') :=
  g2_roundTrip (streamHeader_sized 4660) (by decide) (by decide) (by decide)
    (streamFrame_sized 4660) (by decide) (by decide) _ _ _ _

theorem dextra_roundTrip_stream :
    ((∃ data n h', (streamHeader 4369).getDExtraData (List.replicate 60 0) 60 true = .ok (data, n) ∧
      HeaderData.blank.setDExtraData (data.take n) n true (str "44.9.0.2") dextraPort 40001 = .ok (true, h') ∧
      (streamHeader 4369).Restored h' ∧ h'.flags = (streamHeader 4369).flags) ↔ 4369 / 256 = 4369 % 256) ∧
    ((∃ data n d', (streamFrame 4369).getDExtraData (List.replicate 40 0) 40 = .ok (data, n) ∧
      AMBEData.blank.setDExtraData (data.take n) n (str "44.9.0.2") dextraPort 40001 = .ok d' ∧
      (streamFrame 4369).Restored d') ↔ 4369 / 256 = 4369 % 256) :=
  dextra_roundTrip_iff (streamHeader_sized 4369) (by decide) rfl (by decide) (by decide)
    (streamFrame_sized 4369) (by decide) (by decide) _ _ _ _ _

/-- The id under which the header of a stream arrives over DExtra. -/
def headerArrives (id : Nat) : Try (Bool × Nat) := do
  let sent ← (streamHeader id).getDExtraData (List.replicate 60 0) 60 true
  let got ← HeaderData.blank.setDExtraData (sent.1.take sent.2) sent.2 true (str "44.9.0.2") dextraPort 40001
  return (got.1, got.2.id)

/-- The same for a frame. -/
def frameArrives (id : Nat) : Try Nat := do
  let sent ← (streamFrame id).getDExtraData (List.replicate 40 0) 40
  let got ← AMBEData.blank.setDExtraData (sent.1.take sent.2) sent.2 (str "44.9.0.2") dextraPort 40001
  return got.id

/-- The stream with the id 1 arrives as the stream with the id 256. -/
theorem dextra_id_swapped :
    (streamHeader 1).Sized ∧ (streamHeader 1).id = 1 ∧ (streamHeader 1).flags = (0, 0, 0) ∧
      (streamFrame 1).Sized ∧ (streamFrame 1).id = 1 ∧
      headerArrives 1 = .ok (true, 256) ∧ frameArrives 1 = .ok 256 :=
  ⟨streamHeader_sized 1, rfl, rfl, streamFrame_sized 1, rfl, by decide +kernel, by decide +kernel⟩

theorem dcs_roundTrip_stream :
    ∃ data n d', (streamFrame 4660).getDCSData (List.replicate 100 0) 100 = .ok (data, n) ∧
      AMBEData.blank.setDCSData (data.take n) n (str "44.9.0.1") dcsPort 40001 = .ok d' ∧
      d'.id = (streamFrame 4660).id ∧ d'.header.id = (streamFrame 4660).id ∧
      d'.outSeq = (streamFrame 4660).outSeq ∧ d'.isEnd = (streamFrame 4660).isEnd ∧
      d'.rptSeq = (streamFrame 4660).rptSeq ∧
      d'.header.flags = (streamFrame 4660).header.flags ∧
      d'.header.callsigns = (streamFrame 4660).header.callsigns ∧
      d'.data = if (streamFrame 4660).isEnd then (streamFrame 4660).data.take 9 ++ [0x55, 0x55, 0x55]
        else (streamFrame 4660).data :=
  dcs_roundTrip (streamFrame_sized 4660) (by decide) (by decide) (by decide) _ _ _ _

end Sample
end SmartGroup
