import SmartGroup.Slow.Header
import SmartGroup.Slow.Interleaved
import SmartGroup.Support.Outcome

/-! What holds of an encoder between two calls: what its arrays hold, that the read positions
of the sources that are set are inside, and what the interleaved array was made of. -/
namespace SmartGroup
open Bytes Blocks Outcome

namespace SlowEncoder

/-- The array was made by `setGPSData`, and so were the sizes. -/
def HoldsGPS (e : SlowEncoder) (s : Str) : Prop :=
  s ≠ [] ∧ fullSize (gpsSizeOf s) ≠ 44 ∧ e.gpsDataSize = gpsSizeOf s ∧ e.gpsDataFullSize = fullSize (gpsSizeOf s) ∧
    e.gpsData = .owned (gpsBlocks (10 * ((gpsSizeOf s + 59) / 60)) s).flatten

/-- What the sources hold. Only the pointer to the GPS data may dangle. -/
structure Sources (e : SlowEncoder) : Prop where
  text : e.textData = .null ∨ ∃ t, e.textData = .owned (SlowDataEncoder.blockOf t)
  header : e.headerData = .null ∨ ∃ (h : RadioHeader) (b : Str), headerBlock h.1 = .ok b ∧ e.headerData = .owned b
  gps : e.gpsData = .null ∨ (e.gpsData = .freed ∧ e.gpsDataSize = 0) ∨ ∃ s, e.HoldsGPS s
  full : e.gpsDataFullSize % 60 = 0

/-- The sources of `e` are those of `e₀`, some of them cleared, which deletes no array twice. -/
structure Within (e e₀ : SlowEncoder) : Prop where
  text : e.textData = .null ∨ e.textData = e₀.textData
  header : e.headerData = .null ∨ e.headerData = e₀.headerData
  gps : (e.gpsData = .null ∧ e₀.gpsData ≠ .freed) ∨ e.gpsData = e₀.gpsData
  size : e.gpsDataSize = e₀.gpsDataSize
  full : e.gpsDataFullSize = e₀.gpsDataFullSize

theorem Within.trans {e e₁ e₀ : SlowEncoder} (first : e.Within e₁) (second : e₁.Within e₀) : e.Within e₀ where
  text := first.text.elim .inl fun same => same ▸ second.text
  header := first.header.elim .inl fun same => same ▸ second.header
  gps := by
    rcases first.gps with ⟨null, live⟩ | same
    · refine .inl ⟨null, fun freed => ?_⟩
      rcases second.gps with ⟨null', live'⟩ | same
      · exact live' freed
      · exact live (same.trans freed)
    · rw [same]
      exact second.gps
  size := first.size.trans second.size
  full := first.full.trans second.full

theorem Sources.within {e e₀ : SlowEncoder} (sources : e₀.Sources) (within : e.Within e₀) : e.Sources where
  text := within.text.elim .inl fun same => same ▸ sources.text
  header := within.header.elim .inl fun same => same ▸ sources.header
  gps := by
    rcases within.gps with ⟨null, -⟩ | same
    · exact .inl null
    · have gps := sources.gps
      simp only [HoldsGPS] at gps ⊢
      rwa [same, within.size, within.full]
  full := within.full ▸ sources.full

/-- Three bytes can be read at the position, and at every third one up to the length. -/
def Place (ptr length : Nat) : Prop := ptr % 3 = 0 ∧ ptr + 3 ≤ length

theorem place_zero : Place 0 60 := ⟨rfl, by decide⟩

theorem Place.next {ptr length : Nat} (place : Place ptr length) (thirds : length % 3 = 0) :
    Place (if length ≤ ptr + 3 then 0 else ptr + 3) length := by
  obtain ⟨third, inside⟩ := place
  split
  · exact ⟨rfl, by omega⟩
  · exact ⟨by omega, by omega⟩

structure Sound (e : SlowEncoder) : Prop extends e.Sources where
  textPtr : e.textData ≠ .null → Place e.textPtr 60
  headerPtr : e.headerData ≠ .null → Place e.headerPtr 60
  gpsPtr : ∀ s, e.HoldsGPS s → Place e.gpsPtr e.gpsDataFullSize
  interleaved : e.interleavedData = .null ∨ ∃ b e₀, e.interleavedData = .owned b ∧ e₀.Sources ∧
    e₀.interleave = .ok b ∧ e.Within e₀
  start : e.interleavedData = .null → e.interleavedPtr = 0

theorem new_sound : new.Sound where
  text := .inl rfl
  header := .inl rfl
  gps := .inl rfl
  full := rfl
  textPtr := fun set => absurd rfl set
  headerPtr := fun set => absurd rfl set
  gpsPtr := fun _ holds => absurd holds.2.2.2.2 Pointer.null_ne_owned
  interleaved := .inl rfl
  start := fun _ => rfl

/-! What the invariant says of a source. -/

section
variable {e : SlowEncoder}

theorem Sources.text_live (sources : e.Sources) : e.textData ≠ .freed := by
  obtain null | ⟨t, owned⟩ := sources.text
  · rw [null]
    simp
  · rw [owned]
    simp

theorem Sources.header_live (sources : e.Sources) : e.headerData ≠ .freed := by
  obtain null | ⟨h, b, -, owned⟩ := sources.header
  · rw [null]
    simp
  · rw [owned]
    simp

theorem length_headerBlock {h : RadioHeader} {b : Str} (built : headerBlock h.1 = .ok b) : b.length = 60 := by
  obtain ⟨bytes, all, length, -⟩ := headerBlock_blocks h
  rw [built] at all
  cases all
  exact length

theorem Sources.text_owned (sources : e.Sources) (set : e.textData.isSet) :
    ∃ b, e.textData = .owned b ∧ b.length = 60 := by
  obtain null | ⟨t, owned⟩ := sources.text
  · exact absurd null (Pointer.isSet_iff.mp set)
  · exact ⟨_, owned, SlowDataEncoder.length_blockOf t⟩

theorem Sources.header_owned (sources : e.Sources) (set : e.headerData.isSet) :
    ∃ b, e.headerData = .owned b ∧ b.length = 60 := by
  obtain null | ⟨h, b, built, owned⟩ := sources.header
  · exact absurd null (Pointer.isSet_iff.mp set)
  · exact ⟨b, owned, length_headerBlock built⟩

theorem Sound.interleaved_live (sound : e.Sound) : e.interleavedData ≠ .freed := by
  obtain null | ⟨b, e₀, owned, -⟩ := sound.interleaved
  · rw [null]
    simp
  · rw [owned]
    simp

variable {s : Str}

theorem HoldsGPS.full (holds : e.HoldsGPS s) :
    0 < gpsSizeOf s ∧ gpsSizeOf s ≤ 4294967280 ∧ e.gpsDataFullSize = 60 * ((gpsSizeOf s + 59) / 60) := by
  obtain ⟨-, unwrapped, -, full, -⟩ := holds
  rcases fullSize_cases (gpsSizeOf_lt s) with ⟨some, fits, eq⟩ | ⟨-, wrapped⟩
  · exact ⟨some, fits, full.trans eq⟩
  · exact absurd wrapped unwrapped

theorem length_gpsArray (count : Nat) (s : Str) : (gpsBlocks count s).flatten.length = 6 * count := by
  rw [length_flatten (whole_gpsBlocks count s), length_gpsBlocks]

theorem HoldsGPS.place_zero (holds : e.HoldsGPS s) : Place 0 e.gpsDataFullSize := by
  obtain ⟨some, -, full⟩ := holds.full
  exact ⟨rfl, by omega⟩

end

/-- A call that sets nothing: some sources may be cleared and positions moved. -/
theorem Sound.within {e e' : SlowEncoder} (sound : e.Sound) (within : e'.Within e)
    (textPtr : e'.textData ≠ .null → e'.textPtr = e.textPtr ∨ Place e'.textPtr 60)
    (headerPtr : e'.headerData ≠ .null → e'.headerPtr = e.headerPtr ∨ Place e'.headerPtr 60)
    (gpsPtr : ∀ s, e'.HoldsGPS s → e'.gpsPtr = e.gpsPtr ∨ Place e'.gpsPtr e'.gpsDataFullSize)
    (interleaved : e'.interleavedData = .null ∨ e'.interleavedData = e.interleavedData)
    (start : e'.interleavedData = .null → e'.interleavedPtr = 0) : e'.Sound where
  toSources := sound.toSources.within within
  textPtr := by
    intro set
    rcases textPtr set with same | place
    · rw [same]
      exact sound.textPtr (within.text.elim (fun null => absurd null set) fun same => same ▸ set)
    · exact place
  headerPtr := by
    intro set
    rcases headerPtr set with same | place
    · rw [same]
      exact sound.headerPtr (within.header.elim (fun null => absurd null set) fun same => same ▸ set)
    · exact place
  gpsPtr := by
    intro s holds
    rcases gpsPtr s holds with same | place
    · obtain ⟨some, unwrapped, size, full, array⟩ := holds
      rcases within.gps with ⟨null, -⟩ | kept
      · rw [null] at array
        cases array
      · rw [same, within.full]
        exact sound.gpsPtr s ⟨some, unwrapped, within.size ▸ size, within.full ▸ full, kept ▸ array⟩
    · exact place
  interleaved := by
    rcases interleaved with null | same
    · exact .inl null
    · rw [same]
      exact sound.interleaved.imp_right fun ⟨b, e₀, owned, sources, built, before⟩ =>
        ⟨b, e₀, owned, sources, built, within.trans before⟩
  start := start

end SlowEncoder
end SmartGroup
