import SmartGroup.LinkPacket
import SmartGroup.Support.Memory

/-! Link control on the wire, the encoders of `CConnectData`. A packet has the repeater
name without its last letter, then the last letters of repeater and reflector, then what
tells the types apart. -/
namespace SmartGroup
open Bytes

namespace ConnectData

/-- Eight blanks, and over them the name without its last letter. -/
def putName (data : List UInt8) (start : Nat) (name : Str) : Try (List UInt8) := do
  let data ← write data start (List.replicate longCallsignLength 32)
  write data start (name.take (longCallsignLength - 1))

/-- The beginning of every packet. -/
def putRepeater (p : ConnectData) (data : List UInt8) : Try (List UInt8) := do
  let data ← putName data 0 p.repeater
  let band ← charOf p.repeater (longCallsignLength - 1)
  write data longCallsignLength [band]

/-- What follows the letter of the repeater. -/
def putTail (data : List UInt8) (tail : Str) : Try (List UInt8) :=
  write data (longCallsignLength + 1) tail

def getDExtraData (p : ConnectData) (data : List UInt8) (length : Nat) :
    Try (List UInt8 × Nat) := do
  require (decide (11 ≤ length))
  let data ← p.putRepeater data
  match p.type with
  | .link1 | .link2 =>
      let module ← charOf p.reflector (longCallsignLength - 1)
      let data ← putTail data [module, 0x00]
      return (data, 11)
  | .unlink =>
      let data ← putTail data [32, 0x00]
      return (data, 11)
  | .ack =>
      let module ← charOf p.reflector (longCallsignLength - 1)
      let data ← putTail data (module :: (str "ACK" ++ [0x00]))
      return (data, 14)
  | .nak =>
      let module ← charOf p.reflector (longCallsignLength - 1)
      let data ← putTail data (module :: (str "NAK" ++ [0x00]))
      return (data, 14)

/-- `VERSION`. -/
def version : Str := str "210221"

/-- `HTML` with its three arguments, as `snprintf` leaves it in 512 bytes. -/
def html (image title : Str) : Str :=
  (str "<table border=\"0\" width=\"95%\"><tr><td width=\"4%\"><img border=\"0\" src=" ++ image ++
    str "></td><td width=\"96%\"><font size=\"2\"><b>" ++ title ++ str "</b> ircDDB Gateway " ++
    version ++ str "</font></td></tr></table>").take 511

/-- The page that a link request shows, by the kind of the gateway. -/
def page : GatewayType → Str
  | .hotspot => html (str "hotspot.jpg") (str "HOTSPOT")
  | .dongle => html (str "dongle.jpg") (str "DONGLE")
  | .smartgroup => html (str "hf.jpg") (str "Smart Group")
  | .repeater => html (str "hf.jpg") (str "REPEATER")

def getDCSData (p : ConnectData) (data : List UInt8) (length : Nat) :
    Try (List UInt8 × Nat) := do
  require (decide (519 ≤ length))
  let data ← p.putRepeater data
  match p.type with
  | .link1 | .link2 =>
      let module ← charOf p.reflector (longCallsignLength - 1)
      let data ← putTail data [module, 0x00]
      let data ← putName data 11 p.reflector
      let data ← write data 19 (List.replicate 500 0x00)
      let data ← write data 19 (page p.gatewayType)
      return (data, 519)
  | .unlink =>
      let data ← putTail data [0x20, 0x00]
      let data ← putName data 11 p.reflector
      return (data, 19)
  | .ack =>
      let module ← charOf p.reflector (longCallsignLength - 1)
      let data ← putTail data (module :: (str "ACK" ++ [0x00]))
      return (data, 14)
  | .nak =>
      let data ← putTail data (0x20 :: (str "NAK" ++ [0x00]))
      return (data, 14)

/-! What the parts of the encoders leave in the packet. -/

/-- The field of a name without its last letter. -/
def nameField (start : Nat) (name : Str) : Field := (start, name.take 7 ++ [32])

section
variable {data : List UInt8} {start : Nat} {name : Str}

theorem length_nameField (start : Nat) (eight : name.length = longCallsignLength) :
    (nameField start name).2.length = 8 := by
  simp only [longCallsignLength] at eight
  simp [nameField, eight]

theorem putName_holds (data : List UInt8) (start : Nat) (eight : name.length = longCallsignLength)
    (fits : start + 8 ≤ data.length) :
    ∃ data', putName data start name = .ok data' ∧ data'.length = data.length ∧
      Holds data' (nameField start name) ∧
      ∀ f : Field, (f.1 + f.2.length ≤ start ∨ start + 8 ≤ f.1) → Holds data f → Holds data' f := by
  simp only [longCallsignLength] at eight
  have seven : (name.take 7).length = 7 := by simp [eight]
  obtain ⟨d₁, blank, size₁, blanks, kept₁⟩ := write_holds data (start, List.replicate 8 32)
    (by simpa [Field.Fits] using fits)
  obtain ⟨d₂, named, size₂, front, kept₂⟩ := write_holds d₁ (start, name.take 7)
    (by simp only [Field.Fits, seven, size₁]; omega)
  have last : Holds d₁ (start + (name.take 7).length, [32]) := by
    intro i inside
    obtain rfl : i = 0 := by simpa using inside
    have blank := blanks 7 (by simp)
    simpa [seven] using blank
  refine ⟨d₂, ?_, size₂.trans size₁, ?_, ?_⟩
  · have blank : write data start (List.replicate longCallsignLength 32) = .ok d₁ := blank
    rw [putName, blank, ok_bind]
    exact named
  · exact Holds.append front (kept₂ _ (.inr (Nat.le_refl _)) last)
  · intro f apart held
    refine kept₂ f ?_ (kept₁ f ?_ held)
    · simp only [Field.Apart, seven]
      omega
    · simp only [Field.Apart, List.length_replicate]
      exact apart

/-- The last letter of a name. -/
def letter (name : Str) : UInt8 := name.getD (longCallsignLength - 1) 32

theorem charOf_letter (eight : name.length = longCallsignLength) :
    charOf name (longCallsignLength - 1) = .ok (letter name) := by
  have inside : longCallsignLength - 1 < name.length := by
    rw [eight]
    decide
  simp [charOf_ok inside, letter, List.getElem?_eq_getElem inside]

theorem take_letter (eight : name.length = longCallsignLength) : name.take 7 ++ [letter name] = name := by
  simp only [longCallsignLength] at eight
  have inside : 7 < name.length := by omega
  have all : name.take 8 = name := List.take_of_length_le (by omega)
  rw [List.take_succ_eq_append_getElem inside] at all
  simpa [letter, longCallsignLength, List.getElem?_eq_getElem inside] using all

/-- The decoder puts the letter behind the name. -/
theorem callsign_read {last : Nat} {band : UInt8} (eight : name.length = longCallsignLength)
    (front : Holds data (nameField start name)) (held : Holds data (last, [band])) :
    callsign data start last = .ok (name.take 7 ++ [band]) := by
  have copied : copy data start longCallsignLength = .ok (name.take 7 ++ [32]) :=
    front.copy (length_nameField start eight) (by decide)
  have read : byte data last = .ok band := held.byte (i := 0) rfl
  have seven : (name.take 7).length = 7 := by
    simp only [longCallsignLength] at eight
    simp [eight]
  have set : (name.take 7 ++ [32]).set (longCallsignLength - 1) band = name.take 7 ++ [band] := by
    rw [show longCallsignLength - 1 = (name.take 7).length by rw [seven]; rfl]
    simp
  rw [callsign, copied, ok_bind, read, ok_bind, set]
  rfl

/-- The packet begins with the repeater and goes on with the tail. -/
structure Framed (p : ConnectData) (tail : Str) (data : List UInt8) : Prop where
  name : Holds data (nameField 0 p.repeater)
  letter : Holds data (8, [letter p.repeater])
  tail : Holds data (9, tail)

end

variable {p : ConnectData} {buffer : List UInt8}

theorem put_framed (buffer : List UInt8) (eight : p.repeater.length = longCallsignLength)
    (tail : Str) (fits : 9 + tail.length ≤ buffer.length) :
    ∃ d₁ d₂, p.putRepeater buffer = .ok d₁ ∧ putTail d₁ tail = .ok d₂ ∧
      d₂.length = buffer.length ∧ p.Framed tail d₂ := by
  obtain ⟨d₀, named, size₀, name, -⟩ := putName_holds buffer 0 eight (by omega)
  obtain ⟨d₁, banded, size₁, band, kept₁⟩ := write_holds d₀ (longCallsignLength, [letter p.repeater])
    (by simp only [Field.Fits, longCallsignLength, List.length_singleton, size₀]; omega)
  obtain ⟨d₂, tailed, size₂, held, kept₂⟩ := write_holds d₁ (9, tail)
    (by simp only [Field.Fits, size₁, size₀]; omega)
  have width := length_nameField 0 eight
  refine ⟨d₁, d₂, ?_, tailed, by rw [size₂, size₁, size₀], ?_, ?_, held⟩
  · rw [putRepeater, named, ok_bind, charOf_letter eight, ok_bind]
    exact banded
  · refine kept₂ _ (.inl ?_) (kept₁ _ (.inl ?_) name)
    · rw [width]
      exact Nat.le_succ 8
    · rw [width]
      exact Nat.le_refl 8
  · exact kept₂ _ (.inl (Nat.le_refl 9)) band

/-! What the decoders read in such a packet. -/

section
variable {tail : Str} {data : List UInt8}

theorem Framed.take {n : Nat} (framed : p.Framed tail data)
    (eight : p.repeater.length = longCallsignLength) (inside : 9 + tail.length ≤ n) :
    p.Framed tail (data.take n) := by
  have width := length_nameField 0 eight
  refine ⟨framed.name.take ?_, framed.letter.take ?_, framed.tail.take inside⟩
  · rw [width]
    exact Nat.le_trans (by decide : 0 + 8 ≤ 9) (by omega)
  · exact Nat.le_trans (Nat.le_refl 9) (by omega)

theorem Framed.repeater (framed : p.Framed tail data)
    (eight : p.repeater.length = longCallsignLength) :
    callsign data 0 longCallsignLength = .ok p.repeater := by
  have last : Holds data (longCallsignLength, [ConnectData.letter p.repeater]) := framed.letter
  have read := callsign_read eight framed.name last
  rwa [take_letter eight] at read

theorem Framed.byte {i : Nat} {b : UInt8} (framed : p.Framed tail data) (found : tail[i]? = some b) :
    byte data (9 + i) = .ok b := framed.tail.byte found

theorem Framed.answer {module : UInt8} {text : Str} (framed : p.Framed (module :: text) data)
    {a b c : UInt8} {rest : Str} (letters : text = a :: b :: c :: rest) :
    answer data = .ok (if [a, b, c] = str "ACK" then some .ack
      else if [a, b, c] = str "NAK" then some .nak else none) := by
  subst letters
  have first : Bytes.byte data 10 = .ok a := framed.byte (i := 1) rfl
  have second : Bytes.byte data 11 = .ok b := framed.byte (i := 2) rfl
  have third : Bytes.byte data 12 = .ok c := framed.byte (i := 3) rfl
  unfold ConnectData.answer
  rw [show longCallsignLength + 2 = 10 from rfl, show longCallsignLength + 3 = 11 from rfl,
    show longCallsignLength + 4 = 12 from rfl, first, ok_bind, second, ok_bind, third]
  rfl

end

/-- The name that a DExtra packet leaves of the reflector. -/
def moduleName (module : UInt8) : Str := List.replicate 7 32 ++ [module]

section
variable {tail : Str} {data : List UInt8} {module : UInt8} {port : Nat}

/-- A DExtra packet of 11 bytes is an unlink when the letter of the reflector is blank. -/
theorem setDExtraData_short (framed : p.Framed (module :: tail) data)
    (eight : p.repeater.length = longCallsignLength) (known : 0 < port) (p₀ : ConnectData)
    (address : Str) (myPort : Nat) :
    p₀.setDExtraData data 11 address port myPort = .ok (some { p₀ with
      repeater := p.repeater
      reflector := moduleName module
      type := if module = 32 then .unlink else .link1
      yourAddress := address, yourPort := port, myPort := myPort }) := by
  have band : Bytes.byte data 9 = .ok module := framed.byte (i := 0) rfl
  have blank : (padTo longCallsignLength []).set (longCallsignLength - 1) module = moduleName module :=
    rfl
  have unlinks : moduleName module = padTo longCallsignLength [] ↔ module = 32 := by
    simp [moduleName, padTo, longCallsignLength]
  simp only [setDExtraData, require, le_refl, decide_true, if_true, decide_eq_true known, ok_bind,
    framed.repeater eight, show longCallsignLength + 1 = 9 from rfl, band, blank, unlinks]
  rfl

/-- One of 14 bytes is the answer in its tail. -/
theorem setDExtraData_answer (framed : p.Framed (module :: tail) data)
    (eight : p.repeater.length = longCallsignLength) (known : 0 < port) {type : CDType}
    (answers : answer data = .ok (some type)) (p₀ : ConnectData) (address : Str) (myPort : Nat) :
    p₀.setDExtraData data 14 address port myPort = .ok (some { p₀ with
      repeater := p.repeater
      reflector := moduleName module
      type := type
      yourAddress := address, yourPort := port, myPort := myPort }) := by
  have band : Bytes.byte data 9 = .ok module := framed.byte (i := 0) rfl
  simp only [setDExtraData, require, decide_true, if_true, decide_eq_true known, ok_bind,
    framed.repeater eight, show longCallsignLength + 1 = 9 from rfl, band, answers,
    show 11 ≤ 14 from by decide, show ¬14 = 11 from by decide, if_false]
  rfl

/-- The answers of a DCS reflector are told apart in the same way. -/
theorem setDCSData_answer (framed : p.Framed (module :: tail) data)
    (eight : p.repeater.length = longCallsignLength) (known : 0 < port) {type : CDType}
    (answers : answer data = .ok (some type)) (p₀ : ConnectData) (address : Str) (myPort : Nat) :
    p₀.setDCSData data 14 address port myPort = .ok (some { p₀ with
      repeater := p.repeater
      type := type
      yourAddress := address, yourPort := port, myPort := myPort }) := by
  simp only [setDCSData, require, decide_true, if_true, decide_eq_true known, ok_bind,
    framed.repeater eight, answers, show 11 ≤ 14 from by decide, show ¬14 = 519 from by decide,
    show ¬14 = 19 from by decide, if_false]
  rfl

/-- The two longer DCS packets name the reflector, and tell their type by the length. -/
theorem setDCSData_long (framed : p.Framed (module :: tail) data)
    (eight : p.repeater.length = longCallsignLength) (known : 0 < port)
    (reflector : p.reflector.length = longCallsignLength)
    (named : Holds data (nameField 11 p.reflector)) (p₀ : ConnectData) (address : Str)
    (myPort : Nat) {length : Nat} (long : length = 519 ∨ length = 19) :
    p₀.setDCSData data length address port myPort = .ok (some { p₀ with
      repeater := p.repeater
      reflector := p.reflector.take 7 ++ [module]
      type := if length = 519 then .link1 else .unlink
      yourAddress := address, yourPort := port, myPort := myPort }) := by
  have first : Holds data (9, [module]) := Holds.left (t := tail) framed.tail
  have name : callsign data (longCallsignLength + 3) (longCallsignLength + 1) =
      .ok (p.reflector.take 7 ++ [module]) := callsign_read reflector named first
  rcases long with rfl | rfl
  · simp only [setDCSData, require, decide_true, if_true, decide_eq_true known, ok_bind,
      framed.repeater eight, name, show 11 ≤ 519 from by decide]
    rfl
  · simp only [setDCSData, require, decide_true, if_true, decide_eq_true known, ok_bind,
      framed.repeater eight, name, show 11 ≤ 19 from by decide, show ¬19 = 519 from by decide,
      if_false]
    rfl

end

/-! What the encoders make of the types. -/

/-- What a DExtra packet has behind the letter of the repeater, and its length. -/
def dextraTail (p : ConnectData) : Str :=
  match p.type with
  | .link1 | .link2 => [letter p.reflector, 0x00]
  | .unlink => [32, 0x00]
  | .ack => letter p.reflector :: (str "ACK" ++ [0x00])
  | .nak => letter p.reflector :: (str "NAK" ++ [0x00])

def dextraLength : CDType → Nat
  | .link1 | .link2 | .unlink => 11
  | .ack | .nak => 14

/-- The same for DCS, where the packets of the first two types go on with the reflector. -/
def dcsTail (p : ConnectData) : Str :=
  match p.type with
  | .link1 | .link2 => [letter p.reflector, 0x00]
  | .unlink => [0x20, 0x00]
  | .ack => letter p.reflector :: (str "ACK" ++ [0x00])
  | .nak => 0x20 :: (str "NAK" ++ [0x00])

def dcsLength : CDType → Nat
  | .link1 | .link2 => 519
  | .unlink => 19
  | .ack | .nak => 14

theorem length_dextraTail (p : ConnectData) : 9 + p.dextraTail.length ≤ dextraLength p.type := by
  unfold dextraTail dextraLength
  cases p.type <;> exact Nat.le_refl _

theorem length_page (gatewayType : GatewayType) : (page gatewayType).length ≤ 500 := by
  cases gatewayType <;> decide +kernel

section
variable {length : Nat}

theorem getDExtraData_framed (eight : p.repeater.length = longCallsignLength)
    (reflector : p.reflector.length = longCallsignLength) (fits : 14 ≤ length)
    (inside : length ≤ buffer.length) :
    ∃ data, p.getDExtraData buffer length = .ok (data, dextraLength p.type) ∧
      p.Framed p.dextraTail (data.take (dextraLength p.type)) := by
  have short : dextraLength p.type ≤ 14 := by cases p.type <;> decide
  have tail := length_dextraTail p
  obtain ⟨d₁, d₂, front, rear, -, framed⟩ := put_framed buffer eight p.dextraTail (by omega)
  refine ⟨d₂, ?_, framed.take eight tail⟩
  have room : 11 ≤ length := by omega
  unfold dextraTail at rear
  cases type : p.type
  all_goals
    simp only [type] at rear
    simp only [getDExtraData, require, decide_eq_true room, if_true, ok_bind, front, type,
      charOf_letter reflector, rear]
    rfl

/-- What is written behind the tail of two bytes leaves the frame as it is. -/
theorem Framed.kept {tail : Str} {d d' : List UInt8} (framed : p.Framed tail d)
    (eight : p.repeater.length = longCallsignLength) (short : tail.length ≤ 2)
    (kept : ∀ f : Field, f.1 + f.2.length ≤ 11 → Holds d f → Holds d' f) : p.Framed tail d' := by
  have width := length_nameField 0 eight
  refine ⟨kept _ ?_ framed.name, kept _ ?_ framed.letter, kept _ ?_ framed.tail⟩
  · rw [width]
    exact (by decide : 0 + 8 ≤ 11)
  · exact (by decide : 8 + 1 ≤ 11)
  · show 9 + tail.length ≤ 11
    omega

/-- The reflector behind the tail. -/
theorem putName_framed {tail : Str} {d : List UInt8} (framed : p.Framed tail d)
    (eight : p.repeater.length = longCallsignLength) (short : tail.length ≤ 2)
    (reflector : p.reflector.length = longCallsignLength) (fits : 19 ≤ d.length) :
    ∃ d', putName d 11 p.reflector = .ok d' ∧ d'.length = d.length ∧ p.Framed tail d' ∧
      Holds d' (nameField 11 p.reflector) := by
  obtain ⟨d', named, size, held, kept⟩ := putName_holds d 11 reflector fits
  exact ⟨d', named, size, framed.kept eight short (fun f low => kept f (.inl low)), held⟩

/-- The page behind the names of a link request. -/
theorem putPage {tail : Str} {d : List UInt8} (framed : p.Framed tail d)
    (eight : p.repeater.length = longCallsignLength) (short : tail.length ≤ 2)
    (reflector : p.reflector.length = longCallsignLength)
    (named : Holds d (nameField 11 p.reflector)) (fits : 519 ≤ d.length) :
    ∃ d₁ d₂, write d 19 (List.replicate 500 0x00) = .ok d₁ ∧
      write d₁ 19 (page p.gatewayType) = .ok d₂ ∧ p.Framed tail d₂ ∧
      Holds d₂ (nameField 11 p.reflector) := by
  have width := length_nameField 11 reflector
  have room := length_page p.gatewayType
  obtain ⟨d₁, zeros, size₁, -, kept₁⟩ := write_holds d (19, List.replicate 500 0x00)
    (by
      rw [Field.Fits, List.length_replicate]
      exact fits)
  obtain ⟨d₂, paged, -, -, kept₂⟩ := write_holds d₁ (19, page p.gatewayType)
    (by simp only [Field.Fits]; omega)
  have kept : ∀ f : Field, f.1 + f.2.length ≤ 19 → Holds d f → Holds d₂ f :=
    fun f low held => kept₂ f (.inl low) (kept₁ f (.inl low) held)
  refine ⟨d₁, d₂, zeros, paged, framed.kept eight short fun f low => kept f ?_, kept _ ?_ named⟩
  · omega
  · rw [width]
    exact Nat.le_refl 19

theorem length_dcsTail (p : ConnectData) : 9 + p.dcsTail.length ≤ min 14 (dcsLength p.type) := by
  unfold dcsTail dcsLength
  cases p.type <;> exact Nat.le_of_ble_eq_true rfl

theorem getDCSData_framed (eight : p.repeater.length = longCallsignLength)
    (reflector : p.reflector.length = longCallsignLength) (fits : 519 ≤ length)
    (inside : length ≤ buffer.length) :
    ∃ data, p.getDCSData buffer length = .ok (data, dcsLength p.type) ∧
      p.Framed p.dcsTail (data.take (dcsLength p.type)) ∧
      (14 < dcsLength p.type →
        Holds (data.take (dcsLength p.type)) (nameField 11 p.reflector)) := by
  have tail := length_dcsTail p
  have width := length_nameField 11 reflector
  obtain ⟨d₁, d₂, front, rear, size, framed⟩ := put_framed buffer eight p.dcsTail (by omega)
  unfold dcsTail at tail rear framed ⊢
  cases type : p.type
  all_goals
    simp only [type] at tail rear framed
    simp only [getDCSData, require, decide_eq_true fits, if_true, ok_bind, front, type,
      charOf_letter reflector, rear]
  case ack | nak =>
    exact ⟨d₂, rfl, framed.take eight (by simpa [dcsLength] using tail), by simp [dcsLength]⟩
  case unlink =>
    obtain ⟨d₃, named, -, framed, held⟩ := putName_framed framed eight (Nat.le_refl 2) reflector
      (by omega)
    refine ⟨d₃, ?_, framed.take eight (by simp [dcsLength]), fun _ => held.take ?_⟩
    · rw [named]
      rfl
    · rw [width]
      exact Nat.le_refl 19
  case link1 | link2 =>
    obtain ⟨d₃, named, size₃, framed, held⟩ := putName_framed framed eight (Nat.le_refl 2) reflector
      (by omega)
    obtain ⟨d₄, d₅, zeros, paged, framed, held⟩ := putPage framed eight (Nat.le_refl 2) reflector held
      (by omega)
    refine ⟨d₅, ?_, framed.take eight (by simp [dcsLength]), fun _ => held.take ?_⟩
    · rw [named, ok_bind, zeros, ok_bind, paged]
      rfl
    · rw [width]
      exact Nat.le_of_ble_eq_true rfl


theorem answer_ack {tail : Str} {data : List UInt8} {module : UInt8}
    (framed : p.Framed (module :: tail) data) (ack : tail = str "ACK" ++ [0x00]) :
    answer data = .ok (some .ack) :=
  framed.answer (a := 65) (b := 67) (c := 75) ack

theorem answer_nak {tail : Str} {data : List UInt8} {module : UInt8}
    (framed : p.Framed (module :: tail) data) (nak : tail = str "NAK" ++ [0x00]) :
    answer data = .ok (some .nak) :=
  framed.answer (a := 78) (b := 65) (c := 75) nak

/-- The DExtra decoder on what the encoder made. -/
theorem setDExtraData_getDExtraData (eight : p.repeater.length = longCallsignLength)
    (reflector : p.reflector.length = longCallsignLength) (module : letter p.reflector ≠ 32)
    (kind : p.type ≠ .link2) (fits : 14 ≤ length) (inside : length ≤ buffer.length) {port : Nat}
    (known : 0 < port) (p₀ : ConnectData) (address : Str) (myPort : Nat) :
    ∃ data n p', p.getDExtraData buffer length = .ok (data, n) ∧
      p₀.setDExtraData (data.take n) n address port myPort = .ok (some p') ∧
      p'.type = p.type ∧ p'.repeater = p.repeater ∧
      (p.type ≠ .unlink → letter p'.reflector = letter p.reflector) := by
  obtain ⟨data, sent, framed⟩ := getDExtraData_framed eight reflector fits inside
  refine ⟨data, dextraLength p.type, ?_⟩
  unfold dextraTail at framed
  cases type : p.type
  all_goals simp only [type] at framed sent
  case link1 =>
    refine ⟨_, sent, setDExtraData_short framed eight known p₀ address myPort, ?_, rfl, fun _ => rfl⟩
    exact if_neg module
  case unlink =>
    refine ⟨_, sent, setDExtraData_short framed eight known p₀ address myPort, rfl, rfl, ?_⟩
    exact fun other => absurd rfl other
  case ack =>
    exact ⟨_, sent, setDExtraData_answer framed eight known (answer_ack framed rfl) p₀ address myPort,
      rfl, rfl, fun _ => rfl⟩
  case nak =>
    exact ⟨_, sent, setDExtraData_answer framed eight known (answer_nak framed rfl) p₀ address myPort,
      rfl, rfl, fun _ => rfl⟩
  case link2 => exact absurd type kind

/-- The DCS decoder on what the encoder made. -/
theorem setDCSData_getDCSData (eight : p.repeater.length = longCallsignLength)
    (reflector : p.reflector.length = longCallsignLength) (kind : p.type ≠ .link2)
    (fits : 519 ≤ length) (inside : length ≤ buffer.length) {port : Nat} (known : 0 < port)
    (p₀ : ConnectData) (address : Str) (myPort : Nat) :
    ∃ data n p', p.getDCSData buffer length = .ok (data, n) ∧
      p₀.setDCSData (data.take n) n address port myPort = .ok (some p') ∧
      p'.type = p.type ∧ p'.repeater = p.repeater ∧
      (p.type = .link1 → p'.reflector = p.reflector) ∧
      (p.type = .unlink → p'.reflector.take 7 = p.reflector.take 7) := by
  obtain ⟨data, sent, framed, named⟩ := getDCSData_framed eight reflector fits inside
  refine ⟨data, dcsLength p.type, ?_⟩
  have seven : (p.reflector.take 7).length = 7 := by
    simp only [longCallsignLength] at reflector
    simp [reflector]
  unfold dcsTail at framed
  cases type : p.type
  all_goals simp only [type] at framed sent named
  case link1 =>
    have name := named (by decide)
    refine ⟨_, sent, setDCSData_long framed eight known reflector name p₀ address myPort (.inl rfl),
      rfl, rfl, fun _ => take_letter reflector, ?_⟩
    intro other
    cases other
  case unlink =>
    have name := named (by decide)
    refine ⟨_, sent, setDCSData_long framed eight known reflector name p₀ address myPort (.inr rfl),
      rfl, rfl, ?_, ?_⟩
    · intro other
      cases other
    · intro _
      rw [List.take_append_of_le_length (by omega), List.take_take, Nat.min_self]
  case ack =>
    refine ⟨_, sent, setDCSData_answer framed eight known (answer_ack framed rfl) p₀ address myPort,
      rfl, rfl, ?_, ?_⟩ <;> intro other <;> cases other
  case nak =>
    refine ⟨_, sent, setDCSData_answer framed eight known (answer_nak framed rfl) p₀ address myPort,
      rfl, rfl, ?_, ?_⟩ <;> intro other <;> cases other
  case link2 => exact absurd type kind

/-- Link control comes back from its packets, on both protocols. -/
theorem connect_roundTrip {dcsBuffer : List UInt8} {dcsLength : Nat}
    (eight : p.repeater.length = longCallsignLength)
    (reflector : p.reflector.length = longCallsignLength) (module : letter p.reflector ≠ 32)
    (kind : p.type ≠ .link2) (fits : 14 ≤ length) (inside : length ≤ buffer.length)
    (dcs_fits : 519 ≤ dcsLength) (dcs_inside : dcsLength ≤ dcsBuffer.length) {port : Nat}
    (known : 0 < port) (p₀ : ConnectData) (address : Str) (myPort : Nat) :
    (∃ data n p', p.getDExtraData buffer length = .ok (data, n) ∧
      p₀.setDExtraData (data.take n) n address port myPort = .ok (some p') ∧
      p'.type = p.type ∧ p'.repeater = p.repeater ∧
      (p.type ≠ .unlink → letter p'.reflector = letter p.reflector)) ∧
    (∃ data n p', p.getDCSData dcsBuffer dcsLength = .ok (data, n) ∧
      p₀.setDCSData (data.take n) n address port myPort = .ok (some p') ∧
      p'.type = p.type ∧ p'.repeater = p.repeater ∧
      (p.type = .link1 → p'.reflector = p.reflector) ∧
      (p.type = .unlink → p'.reflector.take 7 = p.reflector.take 7)) :=
  ⟨setDExtraData_getDExtraData eight reflector module kind fits inside known p₀ address myPort,
    setDCSData_getDCSData eight reflector kind dcs_fits dcs_inside known p₀ address myPort⟩

end
end ConnectData

/-! A group's request to link. -/
namespace Sample

def linkRequest : ConnectData :=
  .ofLink .smartgroup (str "SMART1 A") (str "DCS001 B") .link1 (str "44.9.0.1") dcsPort 40001

theorem connect_roundTrip_request :
    (∃ data n p', linkRequest.getDExtraData (List.replicate 20 0) 20 = .ok (data, n) ∧
      ConnectData.blank.setDExtraData (data.take n) n (str "44.9.0.1") dcsPort 40001 =
        .ok (some p') ∧
      p'.type = linkRequest.type ∧ p'.repeater = linkRequest.repeater ∧
      (linkRequest.type ≠ .unlink →
        ConnectData.letter p'.reflector = ConnectData.letter linkRequest.reflector)) ∧
    (∃ data n p', linkRequest.getDCSData (List.replicate 600 0) 600 = .ok (data, n) ∧
      ConnectData.blank.setDCSData (data.take n) n (str "44.9.0.1") dcsPort 40001 = .ok (some p') ∧
      p'.type = linkRequest.type ∧ p'.repeater = linkRequest.repeater ∧
      (linkRequest.type = .link1 → p'.reflector = linkRequest.reflector) ∧
      (linkRequest.type = .unlink → p'.reflector.take 7 = linkRequest.reflector.take 7)) :=
  ConnectData.connect_roundTrip rfl rfl (by decide) (by decide) (by decide) (by decide) (by decide)
    (by rw [List.length_replicate]) (by decide) _ _ _

end Sample
end SmartGroup
