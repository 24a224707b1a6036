import SmartGroup.Protocol.Checksum
import SmartGroup.Packet

/-! Headers and voice frames on the wire: the encoders beside the decoders of the G2,
the DExtra and the DCS protocol, and what one gives back of what the other was given. -/
namespace SmartGroup
open Bytes

/-- `RADIO_HEADER_LENGTH_BYTES`. -/
def radioHeaderLength : Nat := 41

namespace HeaderData

/-- The callsigns fill their arrays. -/
structure Sized (h : HeaderData) : Prop where
  rptCall1 : h.rptCall1.length = longCallsignLength
  rptCall2 : h.rptCall2.length = longCallsignLength
  yourCall : h.yourCall.length = longCallsignLength
  myCall1 : h.myCall1.length = longCallsignLength
  myCall2 : h.myCall2.length = shortCallsignLength

/-- The bytes of a header packet before the checksum. The protocols differ in the bytes
behind the type, the order of the id's bytes and the flags. -/
def dsvtFields (h : HeaderData) (mark id flags : Str) : List Field :=
  [(0, str "DSVT"),
    (4, mark),
    (9, [h.band1, h.band2, h.band3]),
    (12, id),
    (14, [0x80]),
    (15, flags),
    (18, h.rptCall2),
    (26, h.rptCall1),
    (34, h.yourCall),
    (42, h.myCall1),
    (50, h.myCall2)]

/-- The packet and the number of its bytes. -/
def putDSVT (fields : List Field) (data : List UInt8) (length : Nat) (check : Bool) :
    Try (List UInt8 × Nat) := do
  require (decide (56 ≤ length))
  let data ← writeAll data fields
  if check then
    let covered ← copy data 15 (4 * longCallsignLength + shortCallsignLength + 3)
    let data ← write data 54 (CCITTChecksum.new.update covered).result
    return (data, 56)
  else
    let data ← write data 54 [0xFF, 0xFF]
    return (data, 56)

def getG2Data (h : HeaderData) (data : List UInt8) (length : Nat) (check : Bool) :
    Try (List UInt8 × Nat) :=
  putDSVT (h.dsvtFields [0x10, 0x00, 0x15, 0x09, 0x20]
    [UInt8.ofNat (h.id / 256), UInt8.ofNat (h.id % 256)] [h.flag1, h.flag2, h.flag3])
    data length check

def getDExtraData (h : HeaderData) (data : List UInt8) (length : Nat) (check : Bool) :
    Try (List UInt8 × Nat) :=
  putDSVT (h.dsvtFields [0x10, 0x00, 0x00, 0x00, 0x20]
    [UInt8.ofNat (h.id % 256), UInt8.ofNat (h.id / 256)] [0x00, 0x00, 0x00]) data length check

/-- The checksum of a received header. -/
def checkDSVT (data : List UInt8) : Try Bool := do
  let covered ← copy data 15 (radioHeaderLength - 2)
  let sum ← copy data (15 + radioHeaderLength - 2) 2
  return (CCITTChecksum.new.update covered).check sum

/-- `setG2Data` with its argument `check`. -/
def setG2DataChecked (h : HeaderData) (data : List UInt8) (length : Nat) (check : Bool)
    (yourAddress : Str) (yourPort : Nat) : Try (Bool × HeaderData) := do
  let h ← h.setG2Data data length yourAddress yourPort
  if check then
    let valid ← checkDSVT data
    return (valid, h)
  else return (true, h)

/-- The fields are read as those of a G2 header. -/
def setDExtraData (h : HeaderData) (data : List UInt8) (length : Nat) (check : Bool)
    (yourAddress : Str) (yourPort myPort : Nat) : Try (Bool × HeaderData) := do
  let (valid, h) ← h.setG2DataChecked data length check yourAddress yourPort
  return (valid, { h with myPort })

section
variable {h : HeaderData} {mark flags : Str} {high low f₁ f₂ f₃ : UInt8} {buffer : List UInt8}
  {length : Nat}

/-- The encoder completes; the fields and a valid checksum stand in the packet. -/
theorem putDSVT_holds (sized : h.Sized) (mark_size : mark.length = 5) (fits : 56 ≤ length)
    (inside : length ≤ buffer.length) :
    ∃ data, putDSVT (h.dsvtFields mark [high, low] [f₁, f₂, f₃]) buffer length true =
        .ok (data, 56) ∧ checkDSVT (data.take 56) = .ok true ∧
      ∀ f ∈ h.dsvtFields mark [high, low] [f₁, f₂, f₃], Holds (data.take 56) f := by
  obtain ⟨rpt1, rpt2, your, my1, my2⟩ := sized
  simp only [longCallsignLength, shortCallsignLength] at rpt1 rpt2 your my1 my2
  have dsvt : (str "DSVT").length = 4 := rfl
  have room : ∀ f ∈ h.dsvtFields mark [high, low] [f₁, f₂, f₃], f.1 + f.2.length ≤ 54 := by
    simp [dsvtFields, *]
  have apart : (h.dsvtFields mark [high, low] [f₁, f₂, f₃]).Pairwise Field.Apart := by
    simp [dsvtFields, Field.Apart, *]
  obtain ⟨data, written, size, holds, -⟩ := writeAll_holds buffer _
    (fun f member => by
      have := room f member
      unfold Field.Fits
      omega) apart
  have covered : copy data 15 39 = .ok ((data.drop 15).take 39) := copy_ok (by omega)
  let sum := CCITTChecksum.new.update ((data.drop 15).take 39)
  have fits_sum : Field.Fits data (54, sum.result) := by
    simp only [Field.Fits, CCITTChecksum.length_result]
    omega
  refine ⟨put data 54 sum.result, ?_, ?_, ?_⟩
  · have last : write data 54 sum.result = .ok (put data 54 sum.result) := write_ok fits_sum
    simp only [putDSVT, require, decide_eq_true fits, if_true, ok_bind, written]
    rw [show 4 * longCallsignLength + shortCallsignLength + 3 = 39 from rfl, covered, ok_bind, last]
    rfl
  · have before : copy (put data 54 sum.result) 15 39 = .ok ((data.drop 15).take 39) :=
      (copy_put_outside (g := (54, sum.result)) (.inl (Nat.le_refl 54))).trans covered
    have sum_read : copy (put data 54 sum.result) 54 2 = .ok sum.result :=
      (holds_put fits_sum).copy sum.length_result (by decide)
    unfold checkDSVT
    rw [show radioHeaderLength - 2 = 39 from rfl, show 15 + radioHeaderLength - 2 = 54 from rfl,
      copy_take (by decide), before, ok_bind, copy_take (by decide), sum_read, ok_bind]
    exact congrArg Except.ok sum.check_result
  · intro f member
    have kept := (holds f member).put (g := (54, sum.result)) (.inl (room f member))
    exact kept.take (Nat.le_trans (room f member) (by decide))

theorem getG2Data_holds (sized : h.Sized) (fits : 56 ≤ length) (inside : length ≤ buffer.length) :
    ∃ data, h.getG2Data buffer length true = .ok (data, 56) ∧
      checkDSVT (data.take 56) = .ok true ∧
      ∀ f ∈ h.dsvtFields [0x10, 0x00, 0x15, 0x09, 0x20]
        [UInt8.ofNat (h.id / 256), UInt8.ofNat (h.id % 256)] [h.flag1, h.flag2, h.flag3],
        Holds (data.take 56) f :=
  putDSVT_holds sized rfl fits inside

theorem getDExtraData_holds (sized : h.Sized) (fits : 56 ≤ length)
    (inside : length ≤ buffer.length) :
    ∃ data, h.getDExtraData buffer length true = .ok (data, 56) ∧
      checkDSVT (data.take 56) = .ok true ∧
      ∀ f ∈ h.dsvtFields [0x10, 0x00, 0x00, 0x00, 0x20]
        [UInt8.ofNat (h.id % 256), UInt8.ofNat (h.id / 256)] [0x00, 0x00, 0x00],
        Holds (data.take 56) f :=
  putDSVT_holds sized rfl fits inside

/-- What the decoder makes of `h₀` when the fields of `h` stand in the packet. -/
def received (h₀ h : HeaderData) (id : Nat) (f₁ f₂ f₃ : UInt8) (address : Str) (port : Nat) :
    HeaderData :=
  { h₀ with
    band1 := h.band1, band2 := h.band2, band3 := h.band3
    id := id
    flag1 := f₁, flag2 := f₂, flag3 := f₃
    rptCall2 := h.rptCall2, rptCall1 := h.rptCall1, yourCall := h.yourCall
    myCall1 := h.myCall1, myCall2 := h.myCall2
    yourAddress := address, yourPort := port }

theorem setG2Data_fields (sized : h.Sized) {data : List UInt8}
    (holds : ∀ f ∈ h.dsvtFields mark [high, low] [f₁, f₂, f₃], Holds data f) (h₀ : HeaderData)
    (address : Str) (port : Nat) :
    h₀.setG2Data data 56 address port =
      .ok (h₀.received h (high.toNat * 256 + low.toNat) f₁ f₂ f₃ address port) := by
  have bands : Holds data (9, [h.band1, h.band2, h.band3]) := holds _ (by simp [dsvtFields])
  have ids : Holds data (12, [high, low]) := holds _ (by simp [dsvtFields])
  have flags : Holds data (15, [f₁, f₂, f₃]) := holds _ (by simp [dsvtFields])
  have rpt2 : Holds data (18, h.rptCall2) := holds _ (by simp [dsvtFields])
  have rpt1 : Holds data (26, h.rptCall1) := holds _ (by simp [dsvtFields])
  have your : Holds data (34, h.yourCall) := holds _ (by simp [dsvtFields])
  have my1 : Holds data (42, h.myCall1) := holds _ (by simp [dsvtFields])
  have my2 : Holds data (50, h.myCall2) := holds _ (by simp [dsvtFields])
  have b9 : byte data 9 = .ok h.band1 := bands.byte (i := 0) rfl
  have b10 : byte data 10 = .ok h.band2 := bands.byte (i := 1) rfl
  have b11 : byte data 11 = .ok h.band3 := bands.byte (i := 2) rfl
  have b12 : byte data 12 = .ok high := ids.byte (i := 0) rfl
  have b13 : byte data 13 = .ok low := ids.byte (i := 1) rfl
  have b15 : byte data 15 = .ok f₁ := flags.byte (i := 0) rfl
  have b16 : byte data 16 = .ok f₂ := flags.byte (i := 1) rfl
  have b17 : byte data 17 = .ok f₃ := flags.byte (i := 2) rfl
  simp only [setG2Data, require, le_refl, decide_true, if_true, ok_bind, b9, b10, b11, b12, b13,
    b15, b16, b17, rpt2.copy sized.rptCall2 (by decide), rpt1.copy sized.rptCall1 (by decide),
    your.copy sized.yourCall (by decide), my1.copy sized.myCall1 (by decide),
    my2.copy sized.myCall2 (by decide)]
  rfl

theorem setG2DataChecked_fields (sized : h.Sized) {data : List UInt8}
    (holds : ∀ f ∈ h.dsvtFields mark [high, low] [f₁, f₂, f₃], Holds data f)
    (valid : checkDSVT data = .ok true) (h₀ : HeaderData) (address : Str) (port : Nat) :
    h₀.setG2DataChecked data 56 true address port =
      .ok (true, h₀.received h (high.toNat * 256 + low.toNat) f₁ f₂ f₃ address port) := by
  rw [setG2DataChecked, setG2Data_fields sized holds, ok_bind, if_pos rfl, valid]
  rfl

end

/-! What a header is compared by after a packet. -/

def bands (h : HeaderData) : UInt8 × UInt8 × UInt8 := (h.band1, h.band2, h.band3)

def flags (h : HeaderData) : UInt8 × UInt8 × UInt8 := (h.flag1, h.flag2, h.flag3)

def callsigns (h : HeaderData) : List Str := [h.rptCall2, h.rptCall1, h.yourCall, h.myCall1, h.myCall2]

/-- The six bytes of a DCS packet that are flags and the callsigns behind them. -/
def dcsFields (h : HeaderData) : List Field :=
  [(4, [h.flag1, h.flag2, h.flag3]),
    (7, h.rptCall2),
    (15, h.rptCall1),
    (23, h.yourCall),
    (31, h.myCall1),
    (39, h.myCall2)]

def getDCSData (h : HeaderData) (data : List UInt8) (length : Nat) : Try (List UInt8) := do
  require (decide (100 ≤ length))
  writeAll data h.dcsFields

end HeaderData

namespace AMBEData

/-- The frame fills its array, and the id is an `unsigned short`. -/
structure Sized (d : AMBEData) : Prop where
  data : d.data.length = dvFrameLength
  id : d.id < 65536
  header : d.header.Sized

def frameFields (d : AMBEData) (mark id : Str) : List Field :=
  [(0, str "DSVT"),
    (4, mark),
    (9, [d.band1, d.band2, d.band3]),
    (12, id),
    (14, [d.outSeq]),
    (15, d.data)]

def putFrame (fields : List Field) (data : List UInt8) (length : Nat) : Try (List UInt8 × Nat) := do
  require (decide (30 ≤ length))
  let data ← writeAll data fields
  return (data, 15 + dvFrameLength)

def getG2Data (d : AMBEData) (data : List UInt8) (length : Nat) : Try (List UInt8 × Nat) :=
  putFrame (d.frameFields [0x20, 0x00, 0x15, 0x09, 0x20]
    [UInt8.ofNat (d.id / 256), UInt8.ofNat (d.id % 256)]) data length

def getDExtraData (d : AMBEData) (data : List UInt8) (length : Nat) : Try (List UInt8 × Nat) :=
  putFrame (d.frameFields [0x20, 0x00, 0x00, 0x00, 0x20]
    [UInt8.ofNat (d.id % 256), UInt8.ofNat (d.id / 256)]) data length

/-- The fields are read as those of a G2 frame. -/
def setDExtraData (d : AMBEData) (data : List UInt8) (length : Nat) (yourAddress : Str)
    (yourPort myPort : Nat) : Try AMBEData := do
  let d ← d.setG2Data data length yourAddress yourPort
  return { d with myPort }

/-- The pattern in the last three bytes of an end frame. -/
def putEnd (d : AMBEData) (data : List UInt8) : Try (List UInt8) :=
  if d.isEnd then write data 55 [0x55, 0x55, 0x55] else .ok data

/-- The text is empty: nothing calls `setText`. -/
def getDCSData (d : AMBEData) (data : List UInt8) (length : Nat) : Try (List UInt8 × Nat) := do
  require (decide (100 ≤ length))
  let data ← write data 0 (List.replicate 100 0x00)
  let data ← writeAll data
    [(0, str "0001"),
      (43, [UInt8.ofNat (d.id % 256), UInt8.ofNat (d.id / 256)]),
      (45, [d.outSeq]),
      (46, d.data)]
  let data ← d.putEnd data
  let data ← writeAll data
    [(58, [UInt8.ofNat (d.rptSeq % 256), UInt8.ofNat (d.rptSeq / 256 % 256),
        UInt8.ofNat (d.rptSeq / 65536 % 256)]),
      (61, [0x01, 0x00]),
      (63, [0x21])]
  let data ← d.header.getDCSData data 100
  return (data, 100)

def bands (d : AMBEData) : UInt8 × UInt8 × UInt8 := (d.band1, d.band2, d.band3)

end AMBEData

/-! One lemma about what the frame's decoder reads. -/
namespace AMBEData

section
variable {d : AMBEData} {mark : Str} {high low : UInt8} {buffer : List UInt8} {length : Nat}

theorem putFrame_holds (sized : d.Sized) (mark_size : mark.length = 5) (fits : 30 ≤ length)
    (inside : length ≤ buffer.length) :
    ∃ data, putFrame (d.frameFields mark [high, low]) buffer length = .ok (data, 27) ∧
      ∀ f ∈ d.frameFields mark [high, low], Holds (data.take 27) f := by
  have voice := sized.data
  simp only [dvFrameLength] at voice
  have dsvt : (str "DSVT").length = 4 := rfl
  have room : ∀ f ∈ d.frameFields mark [high, low], f.1 + f.2.length ≤ 27 := by
    simp [frameFields, *]
  have apart : (d.frameFields mark [high, low]).Pairwise Field.Apart := by
    simp [frameFields, Field.Apart, *]
  obtain ⟨data, written, -, holds, -⟩ := writeAll_holds buffer _
    (fun f member => by
      have := room f member
      unfold Field.Fits
      omega) apart
  refine ⟨data, ?_, fun f member => (holds f member).take (room f member)⟩
  simp only [putFrame, require, decide_eq_true fits, if_true, ok_bind, written]
  rfl

theorem getG2Data_holds (sized : d.Sized) (fits : 30 ≤ length) (inside : length ≤ buffer.length) :
    ∃ data, d.getG2Data buffer length = .ok (data, 27) ∧
      ∀ f ∈ d.frameFields [0x20, 0x00, 0x15, 0x09, 0x20]
        [UInt8.ofNat (d.id / 256), UInt8.ofNat (d.id % 256)], Holds (data.take 27) f :=
  putFrame_holds sized rfl fits inside

theorem getDExtraData_holds (sized : d.Sized) (fits : 30 ≤ length)
    (inside : length ≤ buffer.length) :
    ∃ data, d.getDExtraData buffer length = .ok (data, 27) ∧
      ∀ f ∈ d.frameFields [0x20, 0x00, 0x00, 0x00, 0x20]
        [UInt8.ofNat (d.id % 256), UInt8.ofNat (d.id / 256)], Holds (data.take 27) f :=
  putFrame_holds sized rfl fits inside

/-- What the decoder makes of `d₀` when the fields of `d` stand in the packet. -/
def received (d₀ d : AMBEData) (id : Nat) (address : Str) (port : Nat) : AMBEData :=
  { d₀ with
    band1 := d.band1, band2 := d.band2, band3 := d.band3
    outSeq := d.outSeq
    id := id
    data := d.data
    yourAddress := address, yourPort := port }

theorem setG2Data_fields (sized : d.Sized) {data : List UInt8}
    (holds : ∀ f ∈ d.frameFields mark [high, low], Holds data f) (d₀ : AMBEData) (address : Str)
    (port : Nat) :
    d₀.setG2Data data 27 address port =
      .ok (d₀.received d (high.toNat * 256 + low.toNat) address port) := by
  have bands : Holds data (9, [d.band1, d.band2, d.band3]) := holds _ (by simp [frameFields])
  have ids : Holds data (12, [high, low]) := holds _ (by simp [frameFields])
  have seq : Holds data (14, [d.outSeq]) := holds _ (by simp [frameFields])
  have voice : Holds data (15, d.data) := holds _ (by simp [frameFields])
  have b9 : byte data 9 = .ok d.band1 := bands.byte (i := 0) rfl
  have b10 : byte data 10 = .ok d.band2 := bands.byte (i := 1) rfl
  have b11 : byte data 11 = .ok d.band3 := bands.byte (i := 2) rfl
  have b12 : byte data 12 = .ok high := ids.byte (i := 0) rfl
  have b13 : byte data 13 = .ok low := ids.byte (i := 1) rfl
  have b14 : byte data 14 = .ok d.outSeq := seq.byte (i := 0) rfl
  simp only [setG2Data, require, le_refl, decide_true, if_true, ok_bind, b9, b10, b11, b12, b13,
    b14, voice.copy sized.data (by decide)]
  rfl

end
end AMBEData
end SmartGroup
