import SmartGroup.Slow.Sound

/-! Which calls stay inside the arrays and use no block that was freed. -/
namespace SmartGroup
open Bytes Outcome

namespace SlowEncoder

/-! The condition of each call. -/

/-- The array that `buildInterleavedData` would make has room for what is copied into it. -/
def BuildFits (e : SlowEncoder) : Prop :=
  (e.textData.isSet → e.gpsData.isSet → e.interleavedSize ≠ 44) ∧
    (¬e.textData.isSet → e.gpsData.isSet → e.headerData.isSet → e.gpsData ≠ .freed ∧ 120 ≤ e.interleavedSize)

/-- One source is read by itself. Otherwise the array must have been built and go on for
three bytes behind the position, or be one that can be built. -/
def InterleavedFits (e : SlowEncoder) : Prop :=
  if e.textData.isSet && !e.gpsData.isSet && !e.headerData.isSet then True
  else if !e.textData.isSet && e.gpsData.isSet && !e.headerData.isSet then e.gpsData ≠ .freed
  else if !e.textData.isSet && !e.gpsData.isSet && e.headerData.isSet then True
  else if e.interleavedData.isSet then e.interleavedPtr + 3 ≤ e.interleavedData.bytes.length
  else e.BuildFits

/-- No call through the pointer to GPS data that was deleted; no second call in a row for
a source that is not set; and the sizes of the arrays. -/
def Safe (e : SlowEncoder) : SlowCall → Prop
  | .setGPSData s => e.gpsData ≠ .freed ∧ (s = [] ∨ fullSize (gpsSizeOf s) ≠ 44)
  | .clearGPSData => e.gpsData ≠ .freed
  | .reset => e.gpsData ≠ .freed
  | .getHeaderData => e.headerData ≠ .null ∨ e.headerPtr = 0
  | .getTextData => e.textData ≠ .null ∨ e.textPtr = 0
  | .getGPSData => e.gpsData ≠ .freed ∧ (e.gpsData ≠ .null ∨ e.gpsPtr = 0)
  | .getInterleavedData => e.InterleavedFits
  | _ => True

variable {e : SlowEncoder}

/-! Reading. -/

theorem getData_owned {b : Str} {ptr : Nat} (inside : ptr + 3 ≤ b.length) (length : Nat) :
    getData (.owned b) ptr length = .ok (SlowDataEncoder.getData (some b) ptr length) := by
  have first : byte b ptr = .ok b[ptr] := byte_ok (by omega)
  have second : byte b (ptr + 1) = .ok b[ptr + 1] := byte_ok (by omega)
  have third : byte b (ptr + 2) = .ok b[ptr + 2] := byte_ok (by omega)
  have set : (Pointer.owned b).isSet = true := rfl
  rw [getData, if_pos set, Pointer.target, slow_bind]
  dsimp only
  rw [first, second, third]
  simp [access, slow_bind, SlowDataEncoder.getData, show ptr < b.length by omega,
    show ptr + 1 < b.length by omega, show ptr + 2 < b.length by omega, pure, Except.pure]

theorem getData_exactly (b : Str) (ptr length : Nat) : Exactly (ptr + 3 ≤ b.length)
    (fun r => r.2 = if length ≤ ptr + 3 then 0 else ptr + 3) (getData (.owned b) ptr length) := by
  by_cases inside : ptr + 3 ≤ b.length
  · rw [getData_owned inside]
    exact ⟨inside, rfl⟩
  · cases ran : getData (.owned b) ptr length with
    | error f => exact inside
    | ok r =>
        obtain ⟨bytes, target, rest⟩ := slow_bind_eq_ok.mp ran
        obtain ⟨first, -, rest⟩ := slow_bind_eq_ok.mp rest
        obtain ⟨second, -, rest⟩ := slow_bind_eq_ok.mp rest
        obtain ⟨third, read, -⟩ := slow_bind_eq_ok.mp rest
        cases target
        rw [access_eq_ok, byte] at read
        split at read
        · rename_i found
          have := (List.getElem?_eq_some_iff.mp found).1
          omega
        · cases read

/-- A source that is not set is read from the filler, which holds three bytes. -/
theorem getData_source {p : Pointer} {ptr length : Nat} (thirds : length % 3 = 0)
    (source : p = .null ∨ ∃ b, p = .owned b ∧ b.length = length ∧ Place ptr length) :
    Exactly (p ≠ .null ∨ ptr = 0) (fun r => p ≠ .null → Place r.2 length) (getData p ptr length) := by
  obtain rfl | ⟨b, rfl, size, place⟩ := source
  · have filler : getData .null ptr length = getData (.owned slowDataFillerBytes) ptr length := rfl
    rw [filler]
    refine (getData_exactly _ ptr length).congr ?_ fun _ _ set => absurd rfl set
    simp [slowDataFillerBytes, str]
  · refine (getData_exactly b ptr length).congr ?_ fun r next _ => ?_
    · rw [size]
      exact iff_of_true place.2 (.inl Pointer.owned_ne_null)
    · rw [next]
      exact place.next thirds

theorem getHeaderData_exactly (sound : e.Sound) :
    Exactly (e.headerData ≠ .null ∨ e.headerPtr = 0) (fun r => r.2.Sound) e.getHeaderData := by
  have source : e.headerData = .null ∨
      ∃ b, e.headerData = .owned b ∧ b.length = 60 ∧ Place e.headerPtr 60 := by
    obtain null | ⟨h, b, built, owned⟩ := sound.header
    · exact .inl null
    · exact .inr ⟨b, owned, length_headerBlock built, sound.headerPtr (by rw [owned]; simp)⟩
  refine (getData_source rfl source).bind_ok fun r place => ?_
  exact exactly_ok (sound.within ⟨.inr rfl, .inr rfl, .inr rfl, rfl, rfl⟩ (fun _ => .inl rfl)
    (fun set => .inr (place set)) (fun _ _ => .inl rfl) (.inr rfl) sound.start)

theorem getTextData_exactly (sound : e.Sound) :
    Exactly (e.textData ≠ .null ∨ e.textPtr = 0) (fun r => r.2.Sound) e.getTextData := by
  have source : e.textData = .null ∨ ∃ b, e.textData = .owned b ∧ b.length = 60 ∧ Place e.textPtr 60 := by
    obtain null | ⟨t, owned⟩ := sound.text
    · exact .inl null
    · exact .inr ⟨_, owned, SlowDataEncoder.length_blockOf t, sound.textPtr (by rw [owned]; simp)⟩
  refine (getData_source rfl source).bind_ok fun r place => ?_
  exact exactly_ok (sound.within ⟨.inr rfl, .inr rfl, .inr rfl, rfl, rfl⟩ (fun set => .inr (place set))
    (fun _ => .inl rfl) (fun _ _ => .inl rfl) (.inr rfl) sound.start)

theorem getGPSData_exactly (sound : e.Sound) :
    Exactly (e.gpsData ≠ .freed ∧ (e.gpsData ≠ .null ∨ e.gpsPtr = 0)) (fun r => r.2.Sound) e.getGPSData := by
  by_cases freed : e.gpsData = .freed
  · have fails : e.getGPSData = .error (.pointer .useAfterDelete) := by
      rw [getGPSData, freed]
      rfl
    rw [fails]
    exact fun both => both.1 freed
  have source : e.gpsData = .null ∨
      ∃ b, e.gpsData = .owned b ∧ b.length = e.gpsDataFullSize ∧ Place e.gpsPtr e.gpsDataFullSize := by
    obtain null | ⟨dangling, -⟩ | ⟨s, holds⟩ := sound.gps
    · exact .inl null
    · exact absurd dangling freed
    · obtain ⟨-, -, full⟩ := holds.full
      refine .inr ⟨_, holds.2.2.2.2, ?_, sound.gpsPtr s holds⟩
      rw [length_gpsArray, full]
      omega
  have thirds : e.gpsDataFullSize % 3 = 0 := by
    have := sound.full
    omega
  rw [and_iff_right freed]
  refine (getData_source thirds source).bind_ok fun r place => ?_
  refine exactly_ok (sound.within ⟨.inr rfl, .inr rfl, .inr rfl, rfl, rfl⟩ (fun _ => .inl rfl)
    (fun _ => .inl rfl) (fun s holds => .inr (place ?_)) (.inr rfl) sound.start)
  intro null
  have owned : e.gpsData = _ := holds.2.2.2.2
  rw [null] at owned
  cases owned

/-! Building. -/

theorem length_interleave {b : Str} (built : e.interleave = .ok b) : b.length = e.interleavedSize := by
  unfold interleave at built
  dsimp only at built
  split at built
  · obtain ⟨s, run, last⟩ := slow_bind_eq_ok.mp built
    cases last
    rw [(foldlM_bounds _ run).2, List.length_replicate]
  · split at built
    · rw [(room_of_twoBlocks built).1, List.length_replicate]
    · split at built
      · rw [(room_of_twoBlocks built).1, List.length_replicate]
      · cases built
        exact List.length_replicate

/-- The bytes of the sources that are set, without filler. -/
def dataSize (e : SlowEncoder) : Nat :=
  (if e.textData.isSet then slowTextSize else 0) + (if e.headerData.isSet then slowHeaderSize else 0) +
    if e.gpsData.isSet then e.gpsDataSize else 0

theorem dataSize_lt (e : SlowEncoder) : e.dataSize % word < word := Nat.mod_lt _ (by decide)

theorem interleavedSize_cases (e : SlowEncoder) :
    (∃ n, 10 ≤ n ∧ e.interleavedSize = 6 * n) ∨ e.interleavedSize = 44 := by
  rcases fullSize_cases e.dataSize_lt with ⟨some, -, full⟩ | ⟨-, wrapped⟩
  · exact .inl ⟨10 * ((e.dataSize % word + 59) / 60), by omega, full.trans (Nat.mul_assoc 6 10 _)⟩
  · exact .inr wrapped

theorem Sources.readable (sources : e.Sources) (text : e.textData ≠ .null) (gps : e.gpsData ≠ .null) :
    e.Readable where
  text := by
    obtain null | ⟨t, owned⟩ := sources.text
    · exact absurd null text
    · exact ⟨_, owned, SlowDataEncoder.length_blockOf t⟩
  gps := by
    obtain null | ⟨-, none⟩ | ⟨s, holds⟩ := sources.gps
    · exact absurd null gps
    · exact .inl none
    · obtain ⟨-, -, size, -, owned⟩ := holds
      refine .inr ⟨_, owned, ?_⟩
      rw [length_gpsArray, size]
      omega
  header := by
    obtain null | ⟨h, b, built, owned⟩ := sources.header
    · exact .inl null
    · exact .inr ⟨b, owned, length_headerBlock built⟩

/-- Only GPS data near the largest size makes the size of the whole wrap. -/
theorem gps_of_wrapped (text : e.textData.isSet) (gps : e.gpsData.isSet)
    (wrapped : e.interleavedSize = 44) : 42 < e.gpsDataSize := by
  by_contra few
  have sum : e.dataSize = slowTextSize + (if e.headerData.isSet then slowHeaderSize else 0) + e.gpsDataSize := by
    rw [dataSize, if_pos text, if_pos gps]
  rcases fullSize_cases e.dataSize_lt with ⟨-, -, full⟩ | ⟨sizes, -⟩
  · have same : e.interleavedSize = fullSize (e.dataSize % word) := rfl
    omega
  · simp only [sum, slowTextSize, slowHeaderSize, word] at sizes
    split at sizes <;> omega

theorem interleavedSize_text_header (text : e.textData.isSet) (gps : e.gpsData.isSet → e.gpsDataSize = 0)
    (header : e.headerData.isSet) : e.interleavedSize = 120 := by
  have none : (if e.gpsData.isSet then e.gpsDataSize else 0) = 0 := by
    split
    · rename_i set
      exact gps set
    · rfl
  have sum : e.dataSize = 78 := by
    rw [dataSize, if_pos text, if_pos header, none]
    rfl
  have same : e.interleavedSize = fullSize (e.dataSize % word) := rfl
  rw [same, sum]
  rfl

theorem interleave_exactly (sources : e.Sources) : Exactly e.BuildFits (fun _ => True) e.interleave := by
  by_cases text : e.textData.isSet
  · by_cases gps : e.gpsData.isSet
    · have fits : e.BuildFits ↔ e.interleavedSize ≠ 44 :=
        ⟨fun fits => fits.1 text gps, fun size => ⟨fun _ _ => size, fun none => absurd text none⟩⟩
      rcases e.interleavedSize_cases with ⟨n, -, size⟩ | wrapped
      · rw [interleave_both (sources.readable (Pointer.isSet_iff.mp text) (Pointer.isSet_iff.mp gps)) gps size]
        exact ⟨fits.mpr (by omega), trivial⟩
      · cases built : e.interleave with
        | error f => exact fun held => fits.mp held wrapped
        | ok b => exact absurd built (interleave_wrapped text gps wrapped (gps_of_wrapped text gps wrapped) b)
    · have fits : e.BuildFits := ⟨fun _ set => absurd set gps, fun none => absurd text none⟩
      by_cases header : e.headerData.isSet
      · obtain ⟨t, owned, full⟩ := sources.text_owned text
        obtain ⟨b, owned', full'⟩ := sources.header_owned header
        rw [interleave_text_header text gps header, owned, owned', interleavedSize_text_header text (absurd · gps) header,
          twoBlocks_ok full.ge full'.ge (by rw [List.length_replicate])]
        exact ⟨fits, trivial⟩
      · rw [interleave_none (fun _ => ⟨gps, header⟩) fun set => absurd set gps]
        exact ⟨fits, trivial⟩
  · by_cases both : e.gpsData.isSet ∧ e.headerData.isSet
    · obtain ⟨gps, header⟩ := both
      have fits : e.BuildFits ↔ e.gpsData ≠ .freed ∧ 120 ≤ e.interleavedSize :=
        ⟨fun fits => fits.2 text gps header, fun both => ⟨fun set => absurd set text, fun _ _ _ => both⟩⟩
      rw [interleave_gps_header text gps header]
      cases built : twoBlocks e.gpsData e.headerData (List.replicate e.interleavedSize 102) with
      | ok data =>
          have room := (room_of_twoBlocks built).2
          rw [List.length_replicate] at room
          refine ⟨fits.mpr ⟨fun freed => ?_, room⟩, trivial⟩
          rw [freed] at built
          cases built
      | error f =>
          intro held
          obtain ⟨live, room⟩ := fits.mp held
          obtain ⟨b, owned', full'⟩ := sources.header_owned header
          obtain null | ⟨freed, -⟩ | ⟨s, holds⟩ := sources.gps
          · exact Pointer.isSet_iff.mp gps null
          · exact live freed
          · obtain ⟨some, -, -⟩ := holds.full
            have long : 60 ≤ (gpsBlocks (10 * ((gpsSizeOf s + 59) / 60)) s).flatten.length := by
              rw [length_gpsArray]
              omega
            have fits : 120 ≤ (List.replicate e.interleavedSize (102 : UInt8)).length := by
              rwa [List.length_replicate]
            rw [holds.2.2.2.2, owned', twoBlocks_ok long full'.ge fits] at built
            cases built
    · have fits : e.BuildFits :=
        ⟨fun set => absurd set text, fun _ gps header => absurd ⟨gps, header⟩ both⟩
      rw [interleave_none (fun set => absurd set text) fun gps header => both ⟨gps, header⟩]
      exact ⟨fits, trivial⟩

/-- One source is set and the others are not. -/
def Single (e : SlowEncoder) : Prop :=
  (e.textData.isSet && !e.gpsData.isSet && !e.headerData.isSet) = true ∨
    (!e.textData.isSet && e.gpsData.isSet && !e.headerData.isSet) = true ∨
    (!e.textData.isSet && !e.gpsData.isSet && e.headerData.isSet) = true

theorem getInterleavedData_several (several : ¬e.Single) : e.getInterleavedData =
    e.buildInterleavedData >>= fun e => getData e.interleavedData e.interleavedPtr e.gpsDataFullSize >>= fun r =>
      .ok (r.1, { e with interleavedPtr := r.2 }) := by
  simp only [Single, not_or] at several
  rw [getInterleavedData, if_neg several.1, if_neg several.2.1, if_neg several.2.2]
  rfl

theorem getInterleavedData_built {b : Str} (several : ¬e.Single) (owned : e.interleavedData = .owned b) :
    e.getInterleavedData = getData (.owned b) e.interleavedPtr e.gpsDataFullSize >>= fun r =>
      .ok (r.1, { e with interleavedPtr := r.2 }) := by
  have set : e.interleavedData.isSet := by rw [owned]; rfl
  rw [getInterleavedData_several several, buildInterleavedData, if_pos set, ← owned]
  rfl

theorem buildInterleavedData_null (null : e.interleavedData = .null) :
    e.buildInterleavedData = e.interleave >>= fun b =>
      .ok { e with interleavedDataFullSize := e.interleavedSize, interleavedData := .owned b } := by
  have unset : ¬e.interleavedData.isSet := by
    rw [null]
    simp [Pointer.isSet]
  rw [buildInterleavedData, if_neg unset]
  rfl

/-- The first call builds the array. -/
theorem getInterleavedData_null (several : ¬e.Single) (null : e.interleavedData = .null) :
    e.getInterleavedData = e.interleave >>= fun b =>
      getData (.owned b) e.interleavedPtr e.gpsDataFullSize >>= fun r =>
        .ok (r.1, { e with
          interleavedDataFullSize := e.interleavedSize, interleavedData := .owned b, interleavedPtr := r.2 }) := by
  rw [getInterleavedData_several several, buildInterleavedData_null null]
  cases e.interleave <;> rfl

theorem getInterleavedData_exactly (sound : e.Sound) :
    Exactly e.InterleavedFits (fun r => r.2.Sound) e.getInterleavedData := by
  by_cases single : e.Single
  · unfold getInterleavedData InterleavedFits
    rcases single with text | gps | header
    · have set : e.textData ≠ .null := by
        simp only [Bool.and_eq_true] at text
        exact Pointer.isSet_iff.mp text.1.1
      rw [if_pos text, if_pos text]
      exact (getTextData_exactly sound).congr (iff_of_true (.inl set) trivial) fun _ holds => holds
    · have other : ¬(e.textData.isSet && !e.gpsData.isSet && !e.headerData.isSet) = true := by simp_all
      have set : e.gpsData ≠ .null := by
        simp only [Bool.and_eq_true] at gps
        exact Pointer.isSet_iff.mp gps.1.2
      rw [if_neg other, if_neg other, if_pos gps, if_pos gps]
      exact (getGPSData_exactly sound).congr (and_iff_left (.inl set)) fun _ holds => holds
    · have other : ¬(e.textData.isSet && !e.gpsData.isSet && !e.headerData.isSet) = true := by simp_all
      have other' : ¬(!e.textData.isSet && e.gpsData.isSet && !e.headerData.isSet) = true := by simp_all
      have set : e.headerData ≠ .null := by
        simp only [Bool.and_eq_true] at header
        exact Pointer.isSet_iff.mp header.2
      rw [if_neg other, if_neg other, if_neg other', if_neg other', if_pos header, if_pos header]
      exact (getHeaderData_exactly sound).congr (iff_of_true (.inl set) trivial) fun _ holds => holds
  · have fits : e.InterleavedFits ↔ if e.interleavedData.isSet then
        e.interleavedPtr + 3 ≤ e.interleavedData.bytes.length else e.BuildFits := by
      simp only [Single, not_or] at single
      rw [InterleavedFits, if_neg single.1, if_neg single.2.1, if_neg single.2.2]
    obtain null | ⟨b, e₀, owned, sources, built, within⟩ := sound.interleaved
    · rw [getInterleavedData_null single null]
      have unset : ¬e.interleavedData.isSet := by
        rw [null]
        simp [Pointer.isSet]
      rw [if_neg unset] at fits
      refine (((interleave_exactly sound.toSources).self).bind_ok fun b built => ?_).congr fits.symm fun _ holds => holds
      have room : e.interleavedPtr + 3 ≤ b.length := by
        rw [sound.start null, length_interleave built]
        rcases e.interleavedSize_cases with ⟨n, some, size⟩ | wrapped
        · omega
        · omega
      refine ((getData_exactly b e.interleavedPtr e.gpsDataFullSize).bind_ok fun r _ => exactly_ok ?_).congr
        (iff_of_true room trivial) fun _ holds => holds
      exact {
        text := sound.text, header := sound.header, gps := sound.gps, full := sound.full
        textPtr := sound.textPtr, headerPtr := sound.headerPtr, gpsPtr := sound.gpsPtr
        interleaved := .inr ⟨b, e, rfl, sound.toSources, built, .inr rfl, .inr rfl, .inr rfl, rfl, rfl⟩
        start := fun null => absurd null Pointer.owned_ne_null }
    · rw [getInterleavedData_built single owned]
      refine ((getData_exactly b e.interleavedPtr e.gpsDataFullSize).bind_ok fun r _ => ?_).congr ?_ fun _ holds => holds
      · exact exactly_ok (sound.within ⟨.inr rfl, .inr rfl, .inr rfl, rfl, rfl⟩ (fun _ => .inl rfl)
          (fun _ => .inl rfl) (fun _ _ => .inl rfl) (.inr rfl) fun null => absurd (owned.symm.trans null) (Pointer.owned_ne_null))
      · have set : (Pointer.owned b).isSet = true := rfl
        rw [fits, owned, if_pos set]
        rfl

/-! Clearing. -/

theorem Sound.uninterleaved_start (sound : e.Sound) : e.uninterleaved.interleavedPtr = 0 := by
  by_cases set : e.interleavedData.isSet
  · exact if_pos set
  · have null : e.interleavedData = .null := not_not.mp fun other => set (Pointer.isSet_iff.mpr other)
    exact (if_neg set).trans (sound.start null)

theorem Sound.uninterleaved (sound : e.Sound) : e.uninterleaved.Sound :=
  sound.within ⟨.inr rfl, .inr rfl, .inr rfl, rfl, rfl⟩ (fun _ => .inl rfl) (fun _ => .inl rfl)
    (fun _ _ => .inl rfl) (.inl rfl) fun _ => sound.uninterleaved_start

theorem clearInterleavedData_exactly (sound : e.Sound) : Exactly True Sound e.clearInterleavedData := by
  rw [clearInterleavedData_ok sound.interleaved_live]
  exact exactly_ok sound.uninterleaved

theorem clearHeaderData_exactly (sound : e.Sound) :
    Exactly True (fun e' => e'.Sound ∧ e'.gpsData = e.gpsData) e.clearHeaderData := by
  rw [clearHeaderData_ok sound.header_live]
  exact exactly_ok ⟨sound.within ⟨.inr rfl, .inl rfl, .inr rfl, rfl, rfl⟩ (fun _ => .inl rfl)
    (fun set => absurd rfl set) (fun _ _ => .inl rfl) (.inr rfl) sound.start, rfl⟩

theorem clearTextData_exactly (sound : e.Sound) :
    Exactly True (fun e' => e'.Sound ∧ e'.gpsData = e.gpsData) e.clearTextData := by
  rw [clearTextData_ok sound.text_live]
  exact exactly_ok ⟨sound.within ⟨.inl rfl, .inr rfl, .inr rfl, rfl, rfl⟩ (fun set => absurd rfl set)
    (fun _ => .inl rfl) (fun _ _ => .inl rfl) (.inr rfl) sound.start, rfl⟩

theorem clearGPSData_exactly (sound : e.Sound) : Exactly (e.gpsData ≠ .freed) Sound e.clearGPSData := by
  by_cases freed : e.gpsData = .freed
  · have fails : e.clearGPSData = .error (.pointer .useAfterDelete) := by
      rw [clearGPSData, freed]
      rfl
    rw [fails]
    exact fun live => live freed
  · rw [clearGPSData_ok freed]
    exact ⟨freed, sound.within ⟨.inr rfl, .inr rfl, .inl ⟨rfl, freed⟩, rfl, rfl⟩ (fun _ => .inl rfl)
      (fun _ => .inl rfl) (fun _ holds => absurd holds.2.2.2.2 Pointer.null_ne_owned) (.inr rfl) sound.start⟩

theorem reset_exactly (sound : e.Sound) : Exactly (e.gpsData ≠ .freed) Sound e.reset := by
  refine ((clearHeaderData_exactly sound).bind fun e₁ _ cleared => ?_).congr (and_iff_right trivial) fun _ holds => holds
  obtain ⟨sound₁, gps₁⟩ := cleared
  refine ((clearTextData_exactly sound₁).bind fun e₂ _ cleared => ?_).congr (and_iff_right trivial) fun _ holds => holds
  obtain ⟨sound₂, gps₂⟩ := cleared
  rw [← gps₁, ← gps₂]
  exact (clearGPSData_exactly sound₂).bind_ok fun e₃ sound₃ => clearInterleavedData_exactly sound₃

theorem sync_sound (sound : e.Sound) : e.sync.Sound :=
  sound.within ⟨.inr rfl, .inr rfl, .inr rfl, rfl, rfl⟩ (fun _ => .inr place_zero)
    (fun _ => .inr place_zero) (fun _ holds => .inr holds.place_zero) (.inr rfl) fun _ => rfl

theorem Sound.sized (sound : e.Sound) (n : Nat) : ({ e with interleavedDataFullSize := n } : SlowEncoder).Sound :=
  sound.within ⟨.inr rfl, .inr rfl, .inr rfl, rfl, rfl⟩ (fun _ => .inl rfl) (fun _ => .inl rfl)
    (fun _ _ => .inl rfl) (.inr rfl) sound.start

/-! Setting. -/

theorem setTextData_exactly (sound : e.Sound) (text : Str) : Exactly True Sound (e.setTextData text) := by
  have filled : e.uninterleaved.textData.fill (SlowDataEncoder.blockOf text) =
      .ok (.owned (SlowDataEncoder.blockOf text)) := Pointer.fill_ok sound.text_live _
  rw [setTextData, clearInterleavedData_ok sound.interleaved_live, slow_bind, filled, slow_bind]
  exact exactly_ok {
    text := .inr ⟨text, rfl⟩, header := sound.header, gps := sound.gps, full := sound.full
    textPtr := fun _ => place_zero, headerPtr := sound.headerPtr, gpsPtr := sound.gpsPtr
    interleaved := .inl rfl, start := fun _ => sound.uninterleaved_start }

theorem setHeaderData_exactly (sound : e.Sound) (h : RadioHeader) : Exactly True Sound (e.setHeaderData h.1) := by
  obtain ⟨bytes, built, -, -⟩ := headerBlock_blocks h
  have filled : e.uninterleaved.headerData.fill bytes = .ok (.owned bytes) := Pointer.fill_ok sound.header_live _
  rw [setHeaderData, clearInterleavedData_ok sound.interleaved_live, slow_bind, access_eq_ok.mpr built, slow_bind,
    filled, slow_bind]
  exact exactly_ok {
    text := sound.text, header := .inr ⟨h, bytes, built, rfl⟩, gps := sound.gps, full := sound.full
    textPtr := sound.textPtr, headerPtr := fun _ => place_zero, gpsPtr := sound.gpsPtr
    interleaved := .inl rfl, start := fun _ => sound.uninterleaved_start }

theorem setGPSData_exactly (sound : e.Sound) (s : Str) :
    Exactly (e.gpsData ≠ .freed ∧ (s = [] ∨ fullSize (gpsSizeOf s) ≠ 44)) Sound (e.setGPSData s) := by
  by_cases freed : e.gpsData = .freed
  · cases ran : e.setGPSData s with
    | error f => exact fun both => both.1 freed
    | ok e' => exact absurd freed (live_of_setGPSData ran).2
  by_cases none : s = []
  · rw [none, setGPSData_nil sound.interleaved_live freed]
    refine ⟨⟨freed, .inl rfl⟩, ?_⟩
    have dangling : (if e.gpsData.isSet then Pointer.freed else .null) = .null ∨
        (if e.gpsData.isSet then Pointer.freed else .null) = .freed := by
      split
      · exact .inr rfl
      · exact .inl rfl
    exact {
      text := sound.text, header := sound.header, full := sound.full
      gps := dangling.imp_right fun freed => .inl ⟨freed, rfl⟩
      textPtr := sound.textPtr, headerPtr := sound.headerPtr
      gpsPtr := fun s holds => by
        have owned := holds.2.2.2.2
        rcases dangling with null | freed
        · exact absurd (null.symm.trans owned) (Pointer.null_ne_owned)
        · exact absurd (freed.symm.trans owned) (Pointer.freed_ne_owned)
      interleaved := .inl rfl, start := fun _ => sound.uninterleaved_start }
  · rw [setGPSData_some none sound.interleaved_live freed]
    by_cases wrapped : fullSize (gpsSizeOf s) = 44
    · rw [wrapped]
      cases ran : fillGPS 44 44 0 s (List.replicate 44 102) with
      | error f => exact fun both => both.2.elim none fun unwrapped => unwrapped rfl
      | ok d => exact absurd ran (fillGPS_wrapped wrapped 44 none d)
    · rw [fillGPS_eq wrapped, slow_bind]
      let e' := { e.uninterleaved with
        gpsData := .owned (gpsBlocks (10 * ((gpsSizeOf s + 59) / 60)) s).flatten
        gpsDataSize := gpsSizeOf s, gpsDataFullSize := fullSize (gpsSizeOf s), gpsPtr := 0 }
      have holds : e'.HoldsGPS s := ⟨none, wrapped, rfl, rfl, rfl⟩
      obtain ⟨-, -, full⟩ := holds.full
      refine ⟨⟨freed, .inr wrapped⟩, ?_⟩
      exact {
        text := sound.text, header := sound.header, gps := .inr (.inr ⟨s, holds⟩)
        full := by
          rw [full]
          exact Nat.mul_mod_right 60 _
        textPtr := sound.textPtr, headerPtr := sound.headerPtr, gpsPtr := fun _ holds => holds.place_zero
        interleaved := .inl rfl, start := fun _ => sound.uninterleaved_start }

/-! The calls. -/

theorem quiet_exactly {P : Prop} {t : SlowTry SlowEncoder} (exact : Exactly P Sound t) :
    Exactly P (fun r => r.1.Sound) (quiet t) := exact.bind_ok fun _ sound => exactly_ok sound

theorem framed_exactly {P : Prop} {t : SlowTry (Str × SlowEncoder)} (exact : Exactly P (fun r => r.2.Sound) t) :
    Exactly P (fun r => r.1.Sound) (framed t) := exact.bind_ok fun _ sound => exactly_ok sound

/-- One call: it completes exactly under its condition, and keeps the invariant. -/
theorem step_exactly (e : SlowEncoder) (call : SlowCall) (sound : e.Sound) :
    Exactly (e.Safe call) (fun r => r.1.Sound) (step e call) := by
  cases call with
  | setHeaderData h => exact quiet_exactly (setHeaderData_exactly sound h)
  | setTextData text => exact quiet_exactly (setTextData_exactly sound text)
  | setGPSData s => exact quiet_exactly (setGPSData_exactly sound s)
  | clearHeaderData =>
      exact quiet_exactly ((clearHeaderData_exactly sound).congr Iff.rfl fun _ cleared => cleared.1)
  | clearTextData => exact quiet_exactly ((clearTextData_exactly sound).congr Iff.rfl fun _ cleared => cleared.1)
  | clearGPSData => exact quiet_exactly (clearGPSData_exactly sound)
  | clearInterleavedData => exact quiet_exactly (clearInterleavedData_exactly sound)
  | getHeaderData => exact framed_exactly (getHeaderData_exactly sound)
  | getTextData => exact framed_exactly (getTextData_exactly sound)
  | getGPSData => exact framed_exactly (getGPSData_exactly sound)
  | getInterleavedData => exact framed_exactly (getInterleavedData_exactly sound)
  | getInterleavedDataLength => exact exactly_ok (sound.sized e.interleavedSize)
  | reset => exact quiet_exactly (reset_exactly sound)
  | sync => exact exactly_ok (sync_sound sound)

theorem safe_of_step {e' : SlowEncoder} {call : SlowCall} {o : List SlowAnswer} (sound : e.Sound)
    (done : step e call = .ok (e', o)) : e.Safe call ∧ e'.Sound :=
  have both := exactly_iff.mp (step_exactly e call sound)
  ⟨both.1.mp ⟨_, done⟩, both.2 _ done⟩

/-- The calls all stay inside their arrays, and use no block that was freed, exactly when
each of them is made in a state that meets its condition. -/
theorem calls_safe_iff (calls : List SlowCall) :
    (∃ tr e, Machine.exec step new calls = .ok (tr, e)) ↔
      ∀ before call after, calls = before ++ call :: after →
        ∀ tr e, Machine.exec step new before = .ok (tr, e) → e.Safe call :=
  Machine.exec_completes_iff step_exactly new_sound calls

theorem freed_of_setGPSData {e' : SlowEncoder} (done : e.setGPSData [] = .ok e') (set : e.gpsData ≠ .null) :
    e'.gpsData = .freed := by
  obtain ⟨interleaved, live⟩ := live_of_setGPSData done
  rw [setGPSData_nil interleaved live, if_pos (Pointer.isSet_iff.mpr set)] at done
  cases done
  rfl

theorem owned_of_setGPSData {e' : SlowEncoder} {s : Str} (some : s ≠ []) (done : e.setGPSData s = .ok e') :
    e'.gpsData ≠ .null := by
  obtain ⟨interleaved, live⟩ := live_of_setGPSData done
  rw [setGPSData_some some interleaved live] at done
  obtain ⟨data, -, last⟩ := slow_bind_eq_ok.mp done
  cases last
  simp

theorem setGPSData_of_step {e' : SlowEncoder} {s : Str} {o : List SlowAnswer}
    (done : step e (.setGPSData s) = .ok (e', o)) : e.setGPSData s = .ok e' := by
  obtain ⟨e₁, set, last⟩ := slow_bind_eq_ok.mp done
  cases last
  exact set

/-- A second read without any text; and GPS data that is deleted by setting none, and
deleted once more. -/
theorem calls_outside :
    Machine.exec step new [.getTextData, .getTextData] = .error (.bytes .overread) ∧
      ∀ tr e, Machine.exec step new [.setGPSData [65], .setGPSData [], .reset] ≠ .ok (tr, e) := by
  refine ⟨rfl, fun tr e ran => ?_⟩
  obtain ⟨e₁, o₁, tr₁, first, ran₁, -⟩ := Machine.exec_cons ran
  obtain ⟨e₂, o₂, tr₂, second, ran₂, -⟩ := Machine.exec_cons ran₁
  obtain ⟨e₃, o₃, tr₃, third, -, -⟩ := Machine.exec_cons ran₂
  have sound₁ := (safe_of_step new_sound first).2
  have sound₂ := (safe_of_step sound₁ second).2
  have live : e₂.gpsData ≠ .freed := (safe_of_step sound₂ third).1
  have set := setGPSData_of_step first
  have unset := setGPSData_of_step second
  exact live (freed_of_setGPSData unset (owned_of_setGPSData (by decide) set))

/-! The text, as the text part alone reads it. -/

def textPart (e : SlowEncoder) : SlowDataEncoder :=
  ⟨if e.textData.isSet then some e.textData.bytes else none, e.textPtr⟩

theorem setTextData_textPart {e' : SlowEncoder} {text : Str} (sound : e.Sound) (done : e.setTextData text = .ok e') :
    e'.textPart = SlowDataEncoder.setTextData text := by
  have filled : e.uninterleaved.textData.fill (SlowDataEncoder.blockOf text) =
      .ok (.owned (SlowDataEncoder.blockOf text)) := Pointer.fill_ok sound.text_live _
  rw [setTextData, clearInterleavedData_ok sound.interleaved_live, slow_bind, filled, slow_bind] at done
  cases done
  rfl

theorem getTextData_textPart {e' : SlowEncoder} {data : Str} (sound : e.Sound)
    (done : e.getTextData = .ok (data, e')) : (data, e'.textPart) = e.textPart.getTextData := by
  obtain ⟨r, read, last⟩ := slow_bind_eq_ok.mp done
  cases last
  have source : ∃ b, getData (.owned b) e.textPtr slowDataFullBlockSize = .ok r ∧
      (if e.textData.isSet then some e.textData.bytes else none).getD slowDataFillerBytes = b := by
    obtain null | ⟨t, owned⟩ := sound.text
    · rw [null] at read ⊢
      exact ⟨slowDataFillerBytes, read, rfl⟩
    · rw [owned] at read ⊢
      exact ⟨SlowDataEncoder.blockOf t, read, rfl⟩
  obtain ⟨b, read, bytes⟩ := source
  have inside := (exactly_iff.mp (getData_exactly b e.textPtr slowDataFullBlockSize)).1.mp ⟨r, read⟩
  rw [getData_owned inside] at read
  cases read
  simp only [textPart, SlowDataEncoder.getTextData, SlowDataEncoder.getData, bytes, Option.getD_some]
  rfl

end SlowEncoder
end SmartGroup
