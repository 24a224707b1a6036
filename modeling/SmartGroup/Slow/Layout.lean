import SmartGroup.Slow.Contents

/-! The blocks of the interleaved array, for each pair of sources that it may be made of. -/
namespace SmartGroup
open Bytes Blocks Outcome

theorem kind_ne {k other : UInt8} {block : Str} (here : kind block = k) (apart : k ≠ other) : kind block ≠ other :=
  fun there => apart (here.symm.trans there)

theorem blocks_append {a b : Str} {k : Nat} (size : a.length = 6 * k) : blocks (a ++ b) = blocks a ++ blocks b := by
  have parted := cut_flatten_append (l := b) (by decide) (fun block member => whole_of_mem_cut (b := block) size member)
  rwa [flatten_cut (by decide)] at parted

theorem blocks_filler (k : Nat) : blocks (List.replicate (6 * k) 102) = List.replicate k fillerBlock := by
  have joined : List.replicate (6 * k) 102 = (List.replicate k fillerBlock).flatten := by
    rw [fillerBlock, List.flatten_replicate_replicate, Nat.mul_comm]
  rw [joined]
  exact cut_flatten (by decide) fun block member => by rw [List.eq_of_mem_replicate member]; rfl

theorem length_of_mem_queue {b block : Str} {k count ptr : Nat} (size : b.length = 6 * k)
    (member : block ∈ queue b count ptr) : block.length = 6 :=
  whole_of_mem_cut size (List.mem_of_mem_take (List.mem_of_mem_drop member))

namespace SlowEncoder

variable {e : SlowEncoder} {b : Str}

/-- The first type byte of an array. -/
theorem headD_of_blocks {first : Str} {rest : List Str} (parted : blocks b = first :: rest) :
    first.headD 0 = b.headD 0 := by
  have some : b ≠ [] := by
    rintro rfl
    rw [blocks, cut_nil] at parted
    cases parted
  rw [blocks, cut_cons (by decide) some] at parted
  rw [← (List.cons.inj parted).1]
  exact headD_take b 5

theorem ne_of_kind {block : Str} {k : UInt8} (here : kind block = k) (other : k ≠ 0x40) : block.headD 0 ≠ 0x40 := by
  intro type
  rw [kind, type] at here
  exact other (here.symm.trans (by decide))

theorem Sources.length_text (sources : e.Sources) {block : Str} (member : block ∈ e.textQueue 0) : block.length = 6 := by
  obtain ⟨t, owned⟩ := owned_of_mem member
  have set : e.textData.isSet := by rw [owned]; rfl
  obtain ⟨t', owned', sixty⟩ := sources.text_owned set
  rw [textQueue, owned'] at member
  exact length_of_mem_queue (k := 10) sixty member

theorem Sources.length_header (sources : e.Sources) {block : Str} (member : block ∈ e.headerQueue 0) :
    block.length = 6 := by
  obtain ⟨h, owned⟩ := owned_of_mem member
  exact ((sources.header_parts owned).2.2 block member).1

theorem Sources.length_gps (sources : e.Sources) {block : Str} (member : block ∈ e.gpsQueue 0) : block.length = 6 := by
  obtain ⟨g, owned⟩ := owned_of_mem member
  obtain null | ⟨freed, -⟩ | ⟨s, holds⟩ := sources.gps
  · exact absurd (owned.symm.trans null) (Pointer.owned_ne_null)
  · exact absurd (owned.symm.trans freed) (Pointer.owned_ne_freed)
  · rw [holds.queue] at member
    exact whole_gpsBlocks _ s block member

/-- The blocks of the array with text and GPS data. -/
def layout (e : SlowEncoder) (m : Nat) : List Str :=
  schedule fillerBlock true m (e.textQueue 0) (e.gpsQueue 0) (e.headerQueue 0)

/-- Text and GPS data, and the header where it is set. -/
theorem Sources.scheduled (sources : e.Sources) (text : e.textData.isSet) (gps : e.gpsData.isSet)
    (built : e.interleave = .ok b) : ∃ m, 10 ≤ m ∧ e.interleavedSize = 6 * m ∧ blocks b = e.layout m := by
  have fits : e.BuildFits := (exactly_iff.mp (interleave_exactly sources)).1.mp ⟨b, built⟩
  obtain ⟨m, some, size⟩ | wrapped := e.interleavedSize_cases
  · refine ⟨m, some, size, ?_⟩
    rw [interleave_both (sources.readable (Pointer.isSet_iff.mp text) (Pointer.isSet_iff.mp gps)) gps size] at built
    cases built
    refine cut_flatten (by decide) fun block member => ?_
    rcases mem_schedule member with here | here | here | rfl
    · exact sources.length_text here
    · exact sources.length_gps here
    · exact sources.length_header here
    · rfl
  · exact absurd wrapped (fits.1 text gps)

/-- Text and header, each with its filler. -/
theorem Sources.text_header (sources : e.Sources) (text : e.textData.isSet) (gps : ¬e.gpsData.isSet)
    (header : e.headerData.isSet) (built : e.interleave = .ok b) :
    blocks b = e.textQueue 0 ++ List.replicate 6 fillerBlock ++ (e.headerQueue 0 ++ [fillerBlock]) := by
  obtain ⟨t, owned, full⟩ := sources.text_owned text
  obtain ⟨h, owned', full'⟩ := sources.header_owned header
  have size : (List.replicate e.interleavedSize (102 : UInt8)).length = 120 := by
    rw [List.length_replicate, interleavedSize_text_header text (absurd · gps) header]
  rw [interleave_text_header text gps header, owned, owned', twoBlocks_ok full.ge full'.ge size.ge,
    List.take_of_length_le full.le, List.take_of_length_le full'.le, List.drop_eq_nil_of_le size.le, List.append_nil]
    at built
  rw [← Except.ok.inj built, blocks_append (k := 10) full, sources.text_parts owned, (sources.header_parts owned').1]

theorem HoldsGPS.isSet {s : Str} (holds : e.HoldsGPS s) : e.gpsData.isSet := by
  rw [holds.2.2.2.2]
  rfl

theorem HoldsGPS.array {s : Str} (holds : e.HoldsGPS s) :
    ∃ count, 10 ≤ count ∧ e.gpsData = .owned (gpsBlocks count s).flatten := by
  obtain ⟨some, -, -⟩ := holds.full
  exact ⟨10 * ((gpsSizeOf s + 59) / 60), by omega, holds.2.2.2.2⟩

/-- GPS data, of which ten blocks are copied, and the header. -/
theorem Sources.gps_header {s : Str} (sources : e.Sources) (text : ¬e.textData.isSet) (holds : e.HoldsGPS s)
    (header : e.headerData.isSet) (built : e.interleave = .ok b) : 120 ≤ e.interleavedSize ∧
      ∃ rest, blocks b = gpsBlocks 10 s ++ rest ∧ ∀ block ∈ rest, kind block ≠ 0x30 := by
  obtain ⟨h, owned, full⟩ := sources.header_owned header
  have fits : e.BuildFits := (exactly_iff.mp (interleave_exactly sources)).1.mp ⟨b, built⟩
  have gps := holds.isSet
  have room := (fits.2 text gps header).2
  obtain ⟨count, ten, array⟩ := holds.array
  have front : (gpsBlocks count s).flatten.take 60 = (gpsBlocks 10 s).flatten := by
    have parted := List.take_append_drop 10 (gpsBlocks count s)
    rw [take_gpsBlocks, Nat.min_eq_left ten] at parted
    rw [← parted, List.flatten_append, List.take_left' (length_gpsArray 10 s)]
  have long : 60 ≤ (gpsBlocks count s).flatten.length := by
    rw [length_gpsArray]
    omega
  have fits : 120 ≤ (List.replicate e.interleavedSize (102 : UInt8)).length := by
    rwa [List.length_replicate]
  rw [interleave_gps_header text gps header, array, owned, twoBlocks_ok long full.ge fits, front] at built
  cases built
  refine ⟨room, blocks h ++ blocks ((List.replicate e.interleavedSize 102).drop 120), ?_, ?_⟩
  · rw [List.take_of_length_le full.le, blocks_append (k := 10) (length_gpsArray 10 s), blocks_append (k := 10) full,
      blocks, cut_flatten (by decide) (whole_gpsBlocks 10 s)]
  · obtain ⟨parted, -, each⟩ := sources.header_parts owned
    intro block member
    rw [parted, List.mem_append, List.mem_append, List.mem_singleton] at member
    rcases member with (in_header | rfl) | behind
    · exact kind_ne (each block in_header).2 (by decide)
    · exact kind_ne kind_filler (by decide)
    · obtain ⟨m, -, size⟩ | wrapped := e.interleavedSize_cases
      · rw [size, List.drop_replicate, show 6 * m - 120 = 6 * (m - 20) by omega, blocks_filler] at behind
        exact kind_ne (List.eq_of_mem_replicate behind ▸ kind_filler) (by decide)
      · omega

/-! Which blocks of a kind stand in the slots. -/

section
variable {m : Nat} (sources : e.Sources)
include sources

theorem Sources.not_text {k : UInt8} (apart : (0x40 : UInt8) ≠ k) : ∀ block ∈ e.textQueue 0, ¬ofKind k block :=
  fun _ member => not_ofKind (sources.kind_text member) apart

theorem Sources.not_gps {k : UInt8} (apart : (0x30 : UInt8) ≠ k) : ∀ block ∈ e.gpsQueue 0, ¬ofKind k block :=
  fun _ member => not_ofKind (sources.kind_gps member) apart

theorem Sources.not_header {k : UInt8} (apart : (0x50 : UInt8) ≠ k) : ∀ block ∈ e.headerQueue 0, ¬ofKind k block :=
  fun _ member => not_ofKind (sources.kind_header member) apart

theorem Sources.layout_text (enough : 8 ≤ m) : (e.layout m).filter isText = e.textQueue 0 := by
  have four : (e.textQueue 0).length ≤ 4 := List.length_take_le 4 _
  exact filter_first (by rw [Bool.toNat_true]; omega) (fun _ member => ofKind_iff.mpr (sources.kind_text member))
    (sources.not_gps (by decide)) (sources.not_header (by decide)) (not_ofKind kind_filler (by decide))

theorem Sources.layout_gps (enough : 4 + (e.gpsQueue 0).length ≤ m) :
    (e.layout m).filter (ofKind 0x30) = e.gpsQueue 0 := by
  have four : (e.textQueue 0).length ≤ 4 := List.length_take_le 4 _
  exact filter_second (by omega) (sources.not_text (by decide))
    (fun _ member => ofKind_iff.mpr (sources.kind_gps member)) (sources.not_header (by decide))
    (not_ofKind kind_filler (by decide))

theorem Sources.layout_header (enough : 13 + (e.gpsQueue 0).length ≤ m) :
    (e.layout m).filter isHeader = e.headerQueue 0 := by
  have four : (e.textQueue 0).length ≤ 4 := List.length_take_le 4 _
  have nine : (e.headerQueue 0).length ≤ 9 := List.length_take_le 9 _
  exact filter_third (by omega) (sources.not_text (by decide)) (sources.not_gps (by decide))
    (fun _ member => ofKind_iff.mpr (sources.kind_header member)) (not_ofKind kind_filler (by decide))

/-- The blocks of the string that are copied. -/
theorem Sources.layout_isGPS {s : Str} (holds : e.HoldsGPS s) (enough : 4 + (e.gpsDataSize + 5) / 6 ≤ m) :
    (e.layout m).filter isGPS = gpsBlocks (min ((e.gpsDataSize + 5) / 6) (gpsCount s)) s := by
  have all : (e.gpsQueue 0).filter (ofKind 0x30) = e.gpsQueue 0 :=
    List.filter_eq_self.mpr fun block member => ofKind_iff.mpr (sources.kind_gps member)
  calc
    (e.layout m).filter isGPS = ((e.layout m).filter (ofKind 0x30)).filter fun b => payload b ≠ [] := filter_isGPS _
    _ = ((e.gpsQueue 0).filter (ofKind 0x30)).filter fun b => payload b ≠ [] := by
      rw [sources.layout_gps (by rwa [holds.queue, length_gpsBlocks]), all]
    _ = (e.gpsQueue 0).filter isGPS := (filter_isGPS _).symm
    _ = gpsBlocks (min ((e.gpsDataSize + 5) / 6) (gpsCount s)) s := by rw [holds.queue, filter_gpsBlocks]

/-- Where the header has begun the GPS data is through. -/
theorem Sources.layout_gps_of_header (begun : (e.layout m).filter isHeader ≠ []) :
    (e.layout m).filter (ofKind 0x30) = e.gpsQueue 0 :=
  filter_second_of_third begun
    (fun block member => ⟨sources.not_text (by decide) block member, sources.not_text (by decide) block member⟩)
    (fun block member => ⟨ofKind_iff.mpr (sources.kind_gps member), sources.not_gps (by decide) block member⟩)
    (sources.not_header (by decide)) ⟨not_ofKind kind_filler (by decide), not_ofKind kind_filler (by decide)⟩

end

/-- Without GPS data all of the text and of the header is there, whether its pointer is
null or dangles. -/
theorem Sources.filter_text_header (sources : e.Sources) (text : e.textData.isSet) (header : e.headerData.isSet)
    (unheld : ∀ g, e.gpsData ≠ .owned g) (size : e.interleavedSize = 120) (built : e.interleave = .ok b) :
    (blocks b).filter isText = e.textQueue 0 ∧ (blocks b).filter isHeader = e.headerQueue 0 := by
  by_cases gps : e.gpsData.isSet
  · obtain ⟨m, -, slots, parted⟩ := sources.scheduled text gps built
    have none : e.gpsQueue 0 = [] := by
      refine List.eq_nil_iff_forall_not_mem.mpr fun block member => ?_
      obtain ⟨g, owned⟩ := owned_of_mem member
      exact unheld g owned
    have enough : 13 + (e.gpsQueue 0).length ≤ m := by
      rw [none, List.length_nil]
      omega
    rw [parted]
    exact ⟨sources.layout_text (by omega), sources.layout_header enough⟩
  · have texts : (e.textQueue 0).filter isText = e.textQueue 0 :=
      List.filter_eq_self.mpr fun block member => ofKind_iff.mpr (sources.kind_text member)
    have headers : (e.headerQueue 0).filter isHeader = e.headerQueue 0 :=
      List.filter_eq_self.mpr fun block member => ofKind_iff.mpr (sources.kind_header member)
    have text_header : (e.headerQueue 0).filter isText = [] :=
      List.filter_eq_nil_iff.mpr (sources.not_header (by decide))
    have header_text : (e.textQueue 0).filter isHeader = [] := List.filter_eq_nil_iff.mpr (sources.not_text (by decide))
    have fillers : (List.replicate 6 fillerBlock).filter isText = [] ∧ [fillerBlock].filter isText = [] := by decide
    have fillers' : (List.replicate 6 fillerBlock).filter isHeader = [] ∧ [fillerBlock].filter isHeader = [] := by decide
    rw [sources.text_header text gps header built]
    simp only [List.filter_append, texts, headers, text_header, header_text, fillers, fillers', List.append_nil,
      List.nil_append, and_self]

/-- With text the array begins with the text's first block, and no other has its type byte. -/
theorem Sources.first_text (sources : e.Sources) (text : e.textData.isSet) (several : e.gpsData.isSet ∨ e.headerData.isSet)
    (built : e.interleave = .ok b) : ∃ first rest, blocks b = first :: rest ∧ first.headD 0 = 0x40 ∧
      ∀ block ∈ rest, block.headD 0 ≠ 0x40 := by
  obtain null | ⟨t, owned⟩ := sources.text
  · exact absurd null (Pointer.isSet_iff.mp text)
  obtain ⟨first, others, cut, type, apart⟩ := SlowDataEncoder.textBlocks_cons t
  have queued : e.textQueue 0 = first :: others := (textQueue_owned owned).trans cut
  have filler : fillerBlock.headD 0 ≠ 0x40 := by decide
  have of_header {block : Str} (member : block ∈ e.headerQueue 0) : block.headD 0 ≠ 0x40 :=
    ne_of_kind (sources.kind_header member) (by decide)
  by_cases gps : e.gpsData.isSet
  · obtain ⟨m, some, -, parted⟩ := sources.scheduled text gps built
    obtain ⟨m, rfl⟩ : ∃ n, m = n + 1 := ⟨m - 1, by omega⟩
    rw [layout, queued, schedule_first] at parted
    refine ⟨first, _, parted, type, fun block member => ?_⟩
    rcases mem_schedule member with here | here | here | rfl
    · exact apart block here
    · exact ne_of_kind (sources.kind_gps here) (by decide)
    · exact of_header here
    · exact filler
  · have header : e.headerData.isSet := several.resolve_left gps
    have parted := sources.text_header text gps header built
    rw [queued, List.cons_append, List.cons_append] at parted
    refine ⟨first, _, parted, type, fun block member => ?_⟩
    simp only [List.mem_append, List.mem_replicate, List.mem_singleton] at member
    rcases member with (here | ⟨-, rfl⟩) | here | rfl
    · exact apart block here
    · exact filler
    · exact of_header here
    · exact filler

end SlowEncoder
end SmartGroup
