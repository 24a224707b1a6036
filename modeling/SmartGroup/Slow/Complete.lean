import SmartGroup.Slow.Layout

/-! When the calls of `getInterleavedData` give back all of the interleaved array, and the
array all of the sources. -/
namespace SmartGroup
open Bytes Blocks Outcome

namespace SlowEncoder
open SlowDataEncoder (unscramble)

/-- The array has the source's blocks that carry something, each once and in order. -/
def Carries (source : Pointer) (carrying : Str → Bool) (array : Str) : Prop :=
  ∀ b, source = .owned b → (blocks array).filter carrying = (blocks b).filter carrying

/-- As many calls as there are three bytes in the length, after `sync`. -/
def InterleavedComplete (e : SlowEncoder) : Prop :=
  ∃ frames e' array,
    e.getInterleavedDataLength.2.sync.getInterleaveds (e.getInterleavedDataLength.1 / 3) = .ok (frames, e') ∧
      e'.interleavedData = .owned array ∧ (frames.map unscramble).flatten = array ∧
      Carries e.textData isText array ∧ Carries e.gpsData isGPS array ∧ Carries e.headerData isHeader array

/-- At least two of the sources are set. -/
def TwoSet (e : SlowEncoder) : Prop :=
  (e.textData ≠ .null ∧ e.headerData ≠ .null) ∨ (∃ s, e.HoldsGPS s) ∧ (e.textData ≠ .null ∨ e.headerData ≠ .null)

/-! The calls and the array that they read. -/

/-- The array is there, or the first call makes it. -/
def Reads (e : SlowEncoder) (b : Str) : Prop :=
  e.interleavedData = .owned b ∨ e.interleavedData = .null ∧ e.interleave = .ok b

/-- So many reads from the start give back the array, which carries the sources. -/
structure GivesBack (e : SlowEncoder) (b : Str) (calls : Nat) : Prop where
  inside : ∀ i < calls, position e.gpsDataFullSize 0 i + 3 ≤ b.length
  whole : (slices b e.gpsDataFullSize 0 calls).flatten = b
  text : Carries e.textData isText b
  gps : Carries e.gpsData isGPS b
  header : Carries e.headerData isHeader b

variable {e e₀ : SlowEncoder} {b : Str}

theorem not_single (two : e.TwoSet) : ¬e.Single := by
  simp only [Single, Bool.and_eq_true, Bool.not_eq_true', Bool.eq_false_iff, ne_eq, Pointer.isSet_iff, not_not]
  rcases two with ⟨text, header⟩ | ⟨⟨s, holds⟩, other⟩
  · rintro (⟨-, null⟩ | ⟨⟨null, -⟩, -⟩ | ⟨⟨null, -⟩, -⟩)
    · exact header null
    · exact text null
    · exact text null
  · have gps : e.gpsData ≠ .null := by
      rw [holds.2.2.2.2]
      simp
    rintro (⟨⟨-, null⟩, -⟩ | ⟨⟨text, -⟩, header⟩ | ⟨⟨-, null⟩, -⟩)
    · exact gps null
    · exact other.elim (absurd text) (absurd header)
    · exact gps null

theorem interleave_congr (e e' : SlowEncoder) (text : e'.textData = e.textData) (gps : e'.gpsData = e.gpsData)
    (header : e'.headerData = e.headerData) (size : e'.gpsDataSize = e.gpsDataSize) : e'.interleave = e.interleave := by
  have slots : e'.fillSlot = e.fillSlot := by
    funext s slot
    simp only [fillSlot, text, gps, header, size]
  simp only [interleave, interleavedSize, slots, text, gps, header, size]

theorem getInterleaveds_reads (several : ¬e.Single) (reads : e.Reads b) (n : Nat) :
    Exactly (∀ i < n + 1, position e.gpsDataFullSize e.interleavedPtr i + 3 ≤ b.length)
      (fun r => r.1.map unscramble = slices b e.gpsDataFullSize e.interleavedPtr (n + 1) ∧ r.2.interleavedData = .owned b)
      (e.getInterleaveds (n + 1)) := by
  rcases reads with owned | ⟨null, built⟩
  · exact getInterleaveds_exactly b (n + 1) several owned
  · rw [getInterleaveds_null several null built]
    generalize e.interleavedSize = size
    exact getInterleaveds_exactly b (n + 1) (e := e.withArray b size) several rfl

theorem reads_of_getInterleaveds (sound : e.Sound) (several : ¬e.Single) {n : Nat} {r : List Str × SlowEncoder}
    (ran : e.getInterleaveds (n + 1) = .ok r) : ∃ b, e.Reads b := by
  obtain null | ⟨b, -, owned, -⟩ := sound.interleaved
  · obtain ⟨first, called, -⟩ := slow_bind_eq_ok.mp ran
    rw [getInterleavedData_null several null] at called
    obtain ⟨b, built, -⟩ := slow_bind_eq_ok.mp called
    exact ⟨b, .inr ⟨null, built⟩⟩
  · exact ⟨b, .inl owned⟩

/-- The encoder when the length has been asked and the positions are at the start. -/
def started (e : SlowEncoder) (size : Nat) : SlowEncoder := ({ e with interleavedDataFullSize := size } : SlowEncoder).sync

theorem reads_started {size : Nat} : (e.started size).Reads b ↔ e.Reads b := by
  have same : (e.started size).interleave = e.interleave := interleave_congr e (e.started size) rfl rfl rfl rfl
  rw [Reads, same]
  rfl

theorem complete_iff_reads (sound : e.Sound) (two : e.TwoSet) :
    e.InterleavedComplete ↔ ∃ b, e.Reads b ∧ e.GivesBack b (e.interleavedSize / 3) := by
  have several := not_single two
  obtain ⟨n, calls⟩ : ∃ n, e.interleavedSize / 3 = n + 1 := by
    refine ⟨e.interleavedSize / 3 - 1, ?_⟩
    rcases e.interleavedSize_cases with ⟨m, some, size⟩ | wrapped <;> omega
  have begun : e.InterleavedComplete ↔ ∃ frames e' array,
      (e.started e.interleavedSize).getInterleaveds (e.interleavedSize / 3) = .ok (frames, e') ∧
        e'.interleavedData = .owned array ∧ (frames.map unscramble).flatten = array ∧
        Carries e.textData isText array ∧ Carries e.gpsData isGPS array ∧ Carries e.headerData isHeader array := Iff.rfl
  rw [begun, calls]
  generalize e.interleavedSize = size
  have exact {b : Str} (reads : e.Reads b) :=
    exactly_iff.mp (getInterleaveds_reads (e := e.started size) several (reads_started.mpr reads) n)
  constructor
  · rintro ⟨frames, e', array, ran, owned, whole, text, gps, header⟩
    have sound' : (e.started size).Sound := sync_sound (sound.sized size)
    obtain ⟨b, reads⟩ := reads_of_getInterleaveds sound' several ran
    rw [reads_started] at reads
    obtain ⟨plain, owned'⟩ := (exact reads).2 _ ran
    obtain rfl := Pointer.owned.inj (owned.symm.trans owned')
    exact ⟨array, reads, (exact reads).1.mp ⟨_, ran⟩, plain ▸ whole, text, gps, header⟩
  · rintro ⟨b, reads, back⟩
    obtain ⟨⟨frames, e'⟩, ran⟩ := (exact reads).1.mpr back.inside
    obtain ⟨plain, owned⟩ := (exact reads).2 _ ran
    exact ⟨frames, e', b, ran, owned, plain ▸ back.whole, back.text, back.gps, back.header⟩

/-! What the array must be made of. -/

theorem GivesBack.size (back : e.GivesBack b (e.interleavedSize / 3)) (built : e₀.interleave = .ok b) :
    ∃ m, 10 ≤ m ∧ b.length = 6 * m ∧ e.interleavedSize = 6 * m ∧ e₀.interleavedSize = 6 * m := by
  have length := length_interleave built
  have read : b.length = 3 * (e.interleavedSize / 3) := by
    rw [← length_slices back.inside, back.whole]
  rcases e.interleavedSize_cases with ⟨m, some, size⟩ | wrapped
  · exact ⟨m, some, by omega, size, by omega⟩
  · rcases e₀.interleavedSize_cases with ⟨n, some, size⟩ | wrapped' <;> omega

/-- The type byte of the first block of text is read once. -/
theorem GivesBack.enough (back : e.GivesBack b (e.interleavedSize / 3)) (sources : e₀.Sources)
    (built : e₀.interleave = .ok b) (within : e.Within e₀) (text : e₀.textData.isSet)
    (several : e₀.gpsData.isSet ∨ e₀.headerData.isSet) : b.length ≤ e.gpsDataFullSize := by
  by_contra short
  obtain ⟨m, some, length, size, -⟩ := back.size built
  have full : e.gpsDataFullSize % 60 = 0 := within.full ▸ sources.full
  obtain ⟨inside, whole, -, -, -⟩ := back
  rw [size, show 6 * m / 3 = 2 * m by omega] at inside whole
  obtain ⟨j, later, -, block, found, type⟩ := type_again length some full (by omega) inside whole
  obtain ⟨first, rest, parted, type', apart⟩ := sources.first_text text several built
  obtain ⟨j, rfl⟩ : ∃ i, j = i + 1 := ⟨j - 1, by omega⟩
  rw [parted, List.getElem?_cons_succ] at found
  exact apart block (List.mem_of_getElem? found) (type.trans ((headD_of_blocks parted).symm.trans type'))

theorem HoldsGPS.estimate {s : Str} (holds : e.HoldsGPS s) :
    e.gpsDataSize ≤ 1 + (s.length - 1) / 6 + s.length := holds.2.2.1 ▸ Nat.mod_le _ _

/-- A string that needs fewer blocks than its array has is a short one. -/
theorem HoldsGPS.short {s : Str} (holds : e.HoldsGPS s) (fewer : gpsCount s < 10 * ((e.gpsDataSize + 59) / 60)) :
    e.gpsDataSize ≤ 1900 := by
  have estimate := holds.estimate
  simp only [gpsCount] at fewer
  omega

theorem Within.holds {s : Str} (within : e.Within e₀) (holds : e.HoldsGPS s) : e.gpsData = e₀.gpsData ∧ e₀.HoldsGPS s := by
  obtain ⟨some, unwrapped, size, full, owned⟩ := holds
  rcases within.gps with ⟨null, -⟩ | same
  · exact absurd (owned.symm.trans null) (Pointer.owned_ne_null)
  · exact ⟨same, some, unwrapped, within.size ▸ size, within.full ▸ full, same ▸ owned⟩

theorem HoldsGPS.sizes {s : Str} (holds : e.HoldsGPS s) :
    0 < e.gpsDataSize ∧ e.gpsDataSize ≤ 4294967280 ∧ e.gpsDataFullSize = 60 * ((e.gpsDataSize + 59) / 60) :=
  holds.2.2.1 ▸ holds.full

/-- The size of an array with text and GPS data, where it does not wrap. -/
theorem interleavedSize_text_gps (text : e.textData.isSet) (gps : e.gpsData.isSet) {header : Nat}
    (rest : header = if e.headerData.isSet then slowHeaderSize else 0) (small : 24 + header + e.gpsDataSize ≤ 4294967280) :
    e.interleavedSize = 60 * ((24 + header + e.gpsDataSize + 59) / 60) := by
  have sum : e.dataSize = 24 + header + e.gpsDataSize := by
    rw [dataSize, if_pos text, if_pos gps, rest]
    rfl
  have same : e.interleavedSize = fullSize (e.dataSize % word) := rfl
  rw [same, sum, Nat.mod_eq_of_lt (by simp only [word]; omega), fullSize_eq (by omega) small]

/-- GPS data with text: there was no header, and the text has room behind the GPS data. -/
theorem GivesBack.gps_text {s : Str} (back : e.GivesBack b (e.interleavedSize / 3)) (sources : e₀.Sources)
    (built : e₀.interleave = .ok b) (within : e.Within e₀) (holds : e.HoldsGPS s) (text : e₀.textData.isSet) :
    e₀.headerData = .null ∧ slowTextSize + e.gpsDataSize ≤ e.gpsDataFullSize ∧
      gpsCount s ≤ (e.gpsDataSize + 5) / 6 := by
  obtain ⟨same, holds₀⟩ := within.holds holds
  have enough := back.enough sources built within text (.inl holds₀.isSet)
  obtain ⟨m, -, size, parted⟩ := sources.scheduled text holds₀.isSet built
  have length : b.length = 6 * m := (length_interleave built).trans size
  obtain ⟨-, -, full⟩ := holds.sizes
  have owned := holds.2.2.2.2
  have carried : (blocks b).filter isGPS = gpsBlocks (min (10 * ((e.gpsDataSize + 59) / 60)) (gpsCount s)) s :=
    (back.gps _ owned).trans (holds.filter_gps owned)
  have less : min (10 * ((e.gpsDataSize + 59) / 60)) (gpsCount s) < m := by
    obtain ⟨first, rest, cons, type, -⟩ := sources.first_text text (.inl holds₀.isSet) built
    have text_kind : kind first = 0x40 := by rw [kind, type]; decide
    have apart : ¬ofKind 0x30 first := not_ofKind text_kind (by decide)
    have other : ¬isGPS first := by simp [isGPS, apart]
    have fewer : ((blocks b).filter isGPS).length < (blocks b).length :=
      List.length_filter_lt_length_iff_exists.mpr ⟨first, cons ▸ List.mem_cons_self, other⟩
    rwa [carried, length_gpsBlocks, blocks, length_cut_mul (by decide) length] at fewer
  have short := holds.short (by omega)
  have gps_size : e₀.gpsDataSize = e.gpsDataSize := within.size.symm
  have header : e₀.headerData = .null := by
    by_contra set
    have rest : 54 = if e₀.headerData.isSet then slowHeaderSize else 0 := (if_pos (Pointer.isSet_iff.mpr set)).symm
    have sum := interleavedSize_text_gps text holds₀.isSet rest (by omega)
    omega
  have rest : 0 = if e₀.headerData.isSet then slowHeaderSize else 0 := by rw [header]; rfl
  have sum := interleavedSize_text_gps text holds₀.isSet rest (by omega)
  have copied := sources.layout_isGPS holds₀ (m := m) (by omega)
  rw [← parted, carried] at copied
  have both := congrArg List.length copied
  rw [length_gpsBlocks, length_gpsBlocks, gps_size] at both
  refine ⟨header, ?_, by omega⟩
  simp only [slowTextSize]
  omega

/-- GPS data without text: the string is short, and then the header comes too late to be
read; or its first block stands where the array starts again. -/
theorem GivesBack.not_gps_header {s : Str} (back : e.GivesBack b (e.interleavedSize / 3)) (sources : e₀.Sources)
    (built : e₀.interleave = .ok b) (within : e.Within e₀) (holds : e.HoldsGPS s) (text : ¬e₀.textData.isSet)
    (header : e₀.headerData.isSet) : False := by
  obtain ⟨same, holds₀⟩ := within.holds holds
  obtain ⟨room, rest, parted, others⟩ := sources.gps_header text holds₀ header built
  obtain ⟨m, some, length, size, size₀⟩ := back.size built
  obtain ⟨positive, -, full⟩ := holds.sizes
  by_cases enough : b.length ≤ e.gpsDataFullSize
  · have owned := holds.2.2.2.2
    have carried : (blocks b).filter isGPS = gpsBlocks (min (10 * ((e.gpsDataSize + 59) / 60)) (gpsCount s)) s :=
      (back.gps _ owned).trans (holds.filter_gps owned)
    have none : rest.filter isGPS = [] := by
      refine List.filter_eq_nil_iff.mpr fun block member there => ?_
      exact others block member (ofKind_iff.mp (Bool.and_eq_true_iff.mp there).1)
    rw [parted, List.filter_append, none, List.append_nil, filter_gpsBlocks] at carried
    have both := congrArg List.length carried
    rw [length_gpsBlocks, length_gpsBlocks] at both
    have estimate := holds.estimate
    simp only [gpsCount] at both
    omega
  · obtain ⟨inside, whole, -, -, -⟩ := back
    rw [size, show 6 * m / 3 = 2 * m by omega] at inside whole
    obtain ⟨j, -, behind, block, found, type⟩ := type_again length some (by omega) (by omega) inside whole
    have ten : (gpsBlocks 10 s).length ≤ j := by
      rw [length_gpsBlocks]
      omega
    rw [parted, List.getElem?_append_right ten] at found
    apply others block (List.mem_of_getElem? found)
    rw [kind, type, ← headD_of_blocks parted]
    exact kind_gpsBlock s

theorem Sources.size_of_dangling (sources : e.Sources) (freed : e.gpsData = .freed) : e.gpsDataSize = 0 := by
  obtain null | ⟨-, none⟩ | ⟨s, holds⟩ := sources.gps
  · exact absurd (freed.symm.trans null) (Pointer.freed_ne_null)
  · exact none
  · exact absurd (freed.symm.trans holds.2.2.2.2) Pointer.freed_ne_owned

/-- Text and header without GPS data: there was none, and the full size of an earlier
string is long enough. -/
theorem GivesBack.text_header (back : e.GivesBack b (e.interleavedSize / 3)) (sources : e₀.Sources)
    (built : e₀.interleave = .ok b) (within : e.Within e₀) (text : e.textData ≠ .null) (header : e.headerData ≠ .null)
    (gps : e.gpsData = .null ∨ e.gpsData = .freed) : e.gpsData = e₀.gpsData ∧ 120 ≤ e.gpsDataFullSize := by
  have sources' := sources.within within
  have text₀ : e₀.textData.isSet := Pointer.isSet_iff.mpr (within.text.resolve_left text ▸ text)
  have header₀ : e₀.headerData.isSet := Pointer.isSet_iff.mpr (within.header.resolve_left header ▸ header)
  have enough := back.enough sources built within text₀ (.inr header₀)
  have size : e.interleavedSize = 120 := by
    refine interleavedSize_text_header (Pointer.isSet_iff.mpr text) (fun set => ?_) (Pointer.isSet_iff.mpr header)
    exact sources'.size_of_dangling (gps.resolve_left (Pointer.isSet_iff.mp set))
  obtain ⟨m, -, length, size', size₀⟩ := back.size built
  refine ⟨?_, by omega⟩
  rcases within.gps with ⟨null, live⟩ | same
  · obtain null₀ | ⟨freed, -⟩ | ⟨s, holds₀⟩ := sources.gps
    · exact null.trans null₀.symm
    · exact absurd freed live
    · -- the GPS data was through before the header began, which takes more slots than there are
      obtain ⟨n, -, slots, parted⟩ := sources.scheduled text₀ holds₀.isSet built
      obtain ⟨h, owned, -⟩ := sources'.header_owned (Pointer.isSet_iff.mpr header)
      have carried : (e₀.layout n).filter isHeader = e.headerQueue 0 := by
        rw [← parted, back.header h owned, sources'.filter_header owned]
      have nine := (sources'.header_parts owned).2.1
      have begun : (e₀.layout n).filter isHeader ≠ [] := by
        rw [carried]
        exact List.ne_nil_of_length_pos (by omega)
      have through := sources.layout_gps_of_header begun
      obtain ⟨first, rest, cons, type, -⟩ := sources.first_text text₀ (.inr header₀) built
      have first_kind : kind first = 0x40 := by rw [kind, type]; decide
      have not_gps : ¬ofKind 0x30 first := not_ofKind first_kind (by decide)
      have not_header : ¬isHeader first := not_ofKind first_kind (by decide)
      have slots_left : rest.length + 1 = n := by
        have count := congrArg List.length cons
        rw [blocks, length_cut_mul (by decide) ((length_interleave built).trans slots)] at count
        exact count.symm
      have apart : ∀ block ∈ rest, ofKind 0x30 block → ¬isHeader block :=
        fun block _ gps => not_ofKind (ofKind_iff.mp gps) (by decide)
      have room := length_filter_add apart
      rw [← List.filter_cons_of_neg (l := rest) not_gps, ← List.filter_cons_of_neg (l := rest) not_header, ← cons, parted,
        through, carried, holds₀.queue, length_gpsBlocks, nine] at room
      have full := (within.full ▸ holds₀.sizes.2.2 : e.gpsDataFullSize = _)
      omega
  · exact same

/-! What is enough. -/

theorem carries_null (carrying : Str → Bool) (b : Str) {source : Pointer} (none : ∀ b, source ≠ .owned b) :
    Carries source carrying b := fun b owned => absurd owned (none b)

/-- An array that is no longer than what is read of it. -/
theorem gives_back {m : Nat} (size : e.interleavedSize = 6 * m) (built : e.interleave = .ok b)
    (enough : 6 * m ≤ e.gpsDataFullSize) (text : Carries e.textData isText b) (gps : Carries e.gpsData isGPS b)
    (header : Carries e.headerData isHeader b) : e.GivesBack b (e.interleavedSize / 3) := by
  have length := (length_interleave built).trans size
  rw [size, show 6 * m / 3 = 2 * m by omega]
  refine ⟨fun i less => ?_, ?_, text, gps, header⟩
  · rw [position_inside (by omega)]
    omega
  · rw [slices_inside (by omega) (by omega)]
    exact flatten_cut (by decide) b

theorem gives_back_gps_text {s : Str} (sources : e.Sources) (built : e.interleave = .ok b) (holds : e.HoldsGPS s)
    (text : e.textData ≠ .null) (header : e.headerData = .null)
    (room : slowTextSize + e.gpsDataSize ≤ e.gpsDataFullSize) (few : gpsCount s ≤ (e.gpsDataSize + 5) / 6) :
    e.GivesBack b (e.interleavedSize / 3) := by
  have set := Pointer.isSet_iff.mpr text
  obtain ⟨m, some, size, parted⟩ := sources.scheduled set holds.isSet built
  obtain ⟨positive, small, full⟩ := holds.sizes
  have rest : 0 = if e.headerData.isSet then slowHeaderSize else 0 := by rw [header]; rfl
  simp only [slowTextSize] at room
  have sum := interleavedSize_text_gps set holds.isSet rest (by omega)
  refine gives_back size built (by omega) (fun t owned => ?_) (fun g owned => ?_)
    (carries_null isHeader b (by rw [header]; simp))
  · rw [parted, sources.layout_text (by omega), sources.filter_text owned]
  · rw [parted, sources.layout_isGPS holds (by omega), holds.filter_gps owned, Nat.min_eq_right few,
      Nat.min_eq_right (by omega)]

theorem gives_back_text_header (sources : e.Sources) (built : e.interleave = .ok b) (text : e.textData ≠ .null)
    (header : e.headerData ≠ .null) (gps : e.gpsData = .null ∨ e.gpsData = .freed) (room : 120 ≤ e.gpsDataFullSize) :
    e.GivesBack b (e.interleavedSize / 3) := by
  have set := Pointer.isSet_iff.mpr text
  have set' := Pointer.isSet_iff.mpr header
  have size : e.interleavedSize = 6 * 20 := interleavedSize_text_header set
    (fun set => sources.size_of_dangling (gps.resolve_left (Pointer.isSet_iff.mp set))) set'
  have unheld : ∀ g, e.gpsData ≠ .owned g := by
    rcases gps with null | freed
    · rw [null]
      simp
    · rw [freed]
      simp
  obtain ⟨texts, headers⟩ := sources.filter_text_header set set' unheld size built
  refine gives_back size built room (fun t owned => ?_) (carries_null isGPS b unheld) (fun h owned => ?_)
  · rw [texts, sources.filter_text owned]
  · rw [headers, sources.filter_header owned]

/-! Both together. -/

/-- The sources of `e` are those of `e₀`. -/
structure SameSources (e e₀ : SlowEncoder) : Prop where
  text : e.textData = e₀.textData
  gps : e.gpsData = e₀.gpsData
  header : e.headerData = e₀.headerData
  size : e.gpsDataSize = e₀.gpsDataSize
  full : e.gpsDataFullSize = e₀.gpsDataFullSize

/-- The full size of the GPS data, up to which the interleaved array is read, is as long as
that array: the text has room in the filler of the GPS data, whose blocks are as many as
its size says; or it is that of a string that is set no longer, behind text and header. -/
def Suffices (e : SlowEncoder) : Prop :=
  (∃ s, e.HoldsGPS s ∧ e.textData ≠ .null ∧ e.headerData = .null ∧ slowTextSize + e.gpsDataSize ≤ e.gpsDataFullSize ∧
      gpsCount s ≤ (e.gpsDataSize + 5) / 6) ∨
    e.textData ≠ .null ∧ e.headerData ≠ .null ∧ (e.gpsData = .null ∨ e.gpsData = .freed) ∧ 120 ≤ e.gpsDataFullSize

theorem gives_back_iff (sources : e₀.Sources) (built : e₀.interleave = .ok b) (within : e.Within e₀) (two : e.TwoSet) :
    e.GivesBack b (e.interleavedSize / 3) ↔ e.SameSources e₀ ∧ e.Suffices := by
  have sources' := sources.within within
  constructor
  · intro back
    have kept_text (set : e.textData ≠ .null) : e.textData = e₀.textData := within.text.resolve_left set
    have kept_header (set : e.headerData ≠ .null) : e.headerData = e₀.headerData := within.header.resolve_left set
    have unheld (gps : e.gpsData = .null ∨ e.gpsData = .freed) : ¬∃ s, e.HoldsGPS s := by
      rintro ⟨s, holds⟩
      have owned := holds.2.2.2.2
      rcases gps with null | freed
      · exact absurd (owned.symm.trans null) (Pointer.owned_ne_null)
      · exact absurd (owned.symm.trans freed) (Pointer.owned_ne_freed)
    have second (gps : e.gpsData = .null ∨ e.gpsData = .freed) : e.SameSources e₀ ∧ e.Suffices := by
      obtain ⟨text, header⟩ := two.resolve_right fun held => unheld gps held.1
      obtain ⟨same, room⟩ := back.text_header sources built within text header gps
      exact ⟨⟨kept_text text, same, kept_header header, within.size, within.full⟩, .inr ⟨text, header, gps, room⟩⟩
    obtain null | ⟨freed, -⟩ | ⟨s, holds⟩ := sources'.gps
    · exact second (.inl null)
    · exact second (.inr freed)
    · by_cases text₀ : e₀.textData.isSet
      · obtain ⟨none, room, few⟩ := back.gps_text sources built within holds text₀
        have header : e.headerData = .null := by
          by_contra set
          exact set ((kept_header set).trans none)
        have text : e.textData ≠ .null := by
          rcases two with ⟨text, -⟩ | ⟨-, other⟩
          · exact text
          · exact other.resolve_right (absurd header)
        exact ⟨⟨kept_text text, (within.holds holds).1, header.trans none.symm, within.size, within.full⟩,
          .inl ⟨s, holds, text, header, room, few⟩⟩
      · have text : e.textData = .null := by
          by_contra set
          exact text₀ (Pointer.isSet_iff.mpr (kept_text set ▸ set))
        have header : e.headerData ≠ .null := by
          rcases two with ⟨-, header⟩ | ⟨-, other⟩
          · exact header
          · exact other.resolve_left (absurd text)
        have header₀ : e₀.headerData.isSet := Pointer.isSet_iff.mpr (kept_header header ▸ header)
        exact (back.not_gps_header sources built within holds text₀ header₀).elim
  · rintro ⟨same, enough⟩
    have built' : e.interleave = .ok b :=
      (interleave_congr e₀ e same.text same.gps same.header same.size).trans built
    rcases enough with ⟨s, holds, text, header, room, few⟩ | ⟨text, header, gps, room⟩
    · exact gives_back_gps_text sources' built' holds text header room few
    · exact gives_back_text_header sources' built' text header gps room

/-- Where the condition is met, the array can be made. -/
theorem Suffices.builds (enough : e.Suffices) (sources : e.Sources) : ∃ b, e.interleave = .ok b := by
  rcases enough with ⟨s, holds, text, header, room, few⟩ | ⟨text, header, gps, room⟩
  · have set := Pointer.isSet_iff.mpr text
    obtain ⟨positive, small, full⟩ := holds.sizes
    have rest : 0 = if e.headerData.isSet then slowHeaderSize else 0 := by rw [header]; rfl
    simp only [slowTextSize] at room
    have sum := interleavedSize_text_gps set holds.isSet rest (by omega)
    exact (exactly_iff.mp (interleave_exactly sources)).1.mpr ⟨fun _ _ => by omega, fun none => absurd set none⟩
  · have set := Pointer.isSet_iff.mpr text
    have size := interleavedSize_text_header set
      (fun set => sources.size_of_dangling (gps.resolve_left (Pointer.isSet_iff.mp set))) (Pointer.isSet_iff.mpr header)
    exact (exactly_iff.mp (interleave_exactly sources)).1.mpr ⟨fun _ _ => by omega, fun none => absurd set none⟩

end SlowEncoder
end SmartGroup
