import SmartGroup.Slow.Reading

/-! The blocks of the sources and of the interleaved array, told apart by their kinds. -/
namespace SmartGroup
open Bytes Blocks

/-! The blocks that carry something. -/

def ofKind (k : UInt8) (block : Str) : Bool := kind block = k

abbrev isText : Str → Bool := ofKind 0x40

def isGPS (block : Str) : Bool := ofKind 0x30 block && decide (payload block ≠ [])

abbrev isHeader : Str → Bool := ofKind 0x50

theorem ofKind_iff {k : UInt8} {block : Str} : ofKind k block ↔ kind block = k := decide_eq_true_iff

theorem not_ofKind {k other : UInt8} {block : Str} (here : kind block = k) (apart : k ≠ other) : ¬ofKind other block :=
  fun there => apart (here.symm.trans (ofKind_iff.mp there))

theorem kind_filler : kind fillerBlock = 0x60 := by decide

/-- The blocks of GPS data are looked for among those of their kind. -/
theorem filter_isGPS (l : List Str) :
    l.filter isGPS = (l.filter (ofKind 0x30)).filter fun b => payload b ≠ [] := by
  rw [List.filter_filter]
  apply List.filter_congr
  intro b _
  exact Bool.and_comm _ _

namespace SlowDataEncoder

def textBlocks (text : Str) : List Str := (List.range 4).map (textBlock (padTo 20 text))

theorem length_textBlocks (text : Str) : (textBlocks text).length = 4 := rfl

/-- Four blocks and six of filler. -/
theorem blocks_blockOf (text : Str) : blocks (blockOf text) = textBlocks text ++ List.replicate 6 fillerBlock := by
  have whole : ∀ block ∈ textBlocks text ++ List.replicate 6 fillerBlock, block.length = 6 := by
    intro block member
    rcases List.mem_append.mp member with of_text | filler
    · obtain ⟨n, inside, rfl⟩ := List.mem_map.mp of_text
      exact length_textBlock (length_padTo 20 text) (List.mem_range.mp inside)
    · rw [List.eq_of_mem_replicate filler]
      rfl
  have joined : blockOf text = (textBlocks text ++ List.replicate 6 fillerBlock).flatten := by
    rw [blockOf_eq, List.flatten_append, textBlocks, List.flatMap_def]
    rfl
  rw [joined]
  exact cut_flatten (by decide) whole

theorem type_textBlock {n : Nat} (inside : n < 4) :
    (0x40 ||| UInt8.ofNat n) &&& 0xF0 = 0x40 ∧ ((0x40 ||| UInt8.ofNat n) = 0x40 ↔ n = 0) := by
  have cases : n = 0 ∨ n = 1 ∨ n = 2 ∨ n = 3 := by omega
  rcases cases with rfl | rfl | rfl | rfl <;> decide

theorem kind_textBlocks {text block : Str} (member : block ∈ textBlocks text) : kind block = 0x40 := by
  obtain ⟨n, inside, rfl⟩ := List.mem_map.mp member
  exact (type_textBlock (List.mem_range.mp inside)).1

/-- The number in the type byte of the first block is none of the others'. -/
theorem textBlocks_cons (text : Str) : ∃ first rest, textBlocks text = first :: rest ∧ first.headD 0 = 0x40 ∧
    ∀ block ∈ rest, block.headD 0 ≠ 0x40 := by
  let padded := padTo 20 text
  refine ⟨textBlock padded 0, [textBlock padded 1, textBlock padded 2, textBlock padded 3], rfl,
    (type_textBlock (n := 0) (by decide)).2.mpr rfl, ?_⟩
  intro block member
  simp only [List.mem_cons, List.not_mem_nil, or_false] at member
  rcases member with rfl | rfl | rfl
  · exact fun zero => absurd ((type_textBlock (n := 1) (by decide)).2.mp zero) (by decide)
  · exact fun zero => absurd ((type_textBlock (n := 2) (by decide)).2.mp zero) (by decide)
  · exact fun zero => absurd ((type_textBlock (n := 3) (by decide)).2.mp zero) (by decide)

end SlowDataEncoder

/-! GPS data. -/

theorem kind_gpsBlock (rest : Str) : kind (gpsBlock rest) = 0x30 := (gpsType (List.length_take_le 5 rest)).2

theorem kind_gpsBlocks {count : Nat} {rest block : Str} (member : block ∈ gpsBlocks count rest) : kind block = 0x30 := by
  induction count generalizing rest with
  | zero => cases member
  | succ count ih =>
      rcases List.mem_cons.mp member with rfl | later
      · exact kind_gpsBlock rest
      · exact ih later

theorem take_gpsBlocks (k count : Nat) (rest : Str) : (gpsBlocks count rest).take k = gpsBlocks (min k count) rest := by
  induction count generalizing k rest with
  | zero => rw [Nat.min_zero, gpsBlocks, List.take_nil]
  | succ count ih =>
      cases k with
      | zero => rw [List.take_zero, Nat.zero_min, gpsBlocks]
      | succ k => rw [gpsBlocks, List.take_succ_cons, ih, Nat.succ_min_succ, gpsBlocks]

/-- The number of the blocks that the characters need. -/
def gpsCount (s : Str) : Nat := (s.length + 4) / 5

theorem filter_gpsBlocks (count : Nat) (rest : Str) :
    (gpsBlocks count rest).filter isGPS = gpsBlocks (min count (gpsCount rest)) rest := by
  have carries (rest : Str) : isGPS (gpsBlock rest) = decide (rest ≠ []) := by
    rw [isGPS, ofKind, kind_gpsBlock, payload_gpsBlock]
    cases rest <;> rfl
  induction count generalizing rest with
  | zero => rw [Nat.zero_min]; rfl
  | succ count ih =>
      rw [gpsBlocks]
      cases rest with
      | nil =>
          have none : ¬isGPS (gpsBlock []) := by rw [carries]; decide
          have last : gpsCount [] = 0 := rfl
          rw [List.filter_cons_of_neg none, List.drop_nil, ih, last, Nat.min_zero, Nat.min_zero]
      | cons a rest =>
          have some : isGPS (gpsBlock (a :: rest)) := by rw [carries]; exact decide_eq_true (List.cons_ne_nil a rest)
          have count' : gpsCount (a :: rest) = gpsCount ((a :: rest).drop 5) + 1 := by
            simp only [gpsCount, List.length_drop, List.length_cons]
            omega
          rw [List.filter_cons_of_pos some, ih, count', Nat.succ_min_succ, gpsBlocks]

/-! The queues of an encoder. -/

namespace SlowEncoder

variable {e : SlowEncoder}

/-- Only of an array are there blocks. -/
theorem owned_of_mem {p : Pointer} {count ptr : Nat} {block : Str} (member : block ∈ queue p.bytes count ptr) :
    ∃ b, p = .owned b := by
  cases p with
  | owned b => exact ⟨b, rfl⟩
  | null | freed =>
      have none : queue [] count ptr = [] := queue_empty count ptr
      exact absurd (none ▸ member) List.not_mem_nil

theorem textQueue_owned {text : Str} (owned : e.textData = .owned (SlowDataEncoder.blockOf text)) :
    e.textQueue 0 = SlowDataEncoder.textBlocks text := by
  rw [textQueue, queue, owned, Pointer.bytes, SlowDataEncoder.blocks_blockOf, Nat.zero_div, List.drop_zero]
  exact List.take_left' (SlowDataEncoder.length_textBlocks text)

theorem Sources.kind_text (sources : e.Sources) {block : Str} (member : block ∈ e.textQueue 0) : kind block = 0x40 := by
  obtain ⟨b, owned⟩ := owned_of_mem member
  obtain null | ⟨text, owned'⟩ := sources.text
  · exact absurd (owned.symm.trans null) (Pointer.owned_ne_null)
  · rw [textQueue_owned owned'] at member
    exact SlowDataEncoder.kind_textBlocks member

theorem Sources.text_parts (sources : e.Sources) {b : Str} (owned : e.textData = .owned b) :
    blocks b = e.textQueue 0 ++ List.replicate 6 fillerBlock := by
  obtain null | ⟨text, owned'⟩ := sources.text
  · exact absurd (owned.symm.trans null) (Pointer.owned_ne_null)
  · cases owned.symm.trans owned'
    rw [textQueue_owned owned, SlowDataEncoder.blocks_blockOf]

theorem Sources.filter_text (sources : e.Sources) {b : Str} (owned : e.textData = .owned b) :
    (blocks b).filter isText = e.textQueue 0 := by
  have filler : (List.replicate 6 fillerBlock).filter isText = [] := by decide
  rw [sources.text_parts owned, List.filter_append, filler, List.append_nil]
  exact List.filter_eq_self.mpr fun block member => ofKind_iff.mpr (sources.kind_text member)

/-- What the header's array is made of. -/
theorem Sources.header_parts (sources : e.Sources) {b : Str} (owned : e.headerData = .owned b) :
    blocks b = e.headerQueue 0 ++ [fillerBlock] ∧ (e.headerQueue 0).length = 9 ∧
      ∀ part ∈ e.headerQueue 0, part.length = 6 ∧ kind part = 0x50 := by
  obtain null | ⟨h, b', built, owned'⟩ := sources.header
  · exact absurd (owned.symm.trans null) (Pointer.owned_ne_null)
  · cases owned.symm.trans owned'
    obtain ⟨parts, built', nine, each, -⟩ := headerBlock_parts h
    cases Except.ok.inj (built.symm.trans built')
    have whole : ∀ part ∈ parts ++ [fillerBlock], part.length = 6 := by
      intro part member
      rcases List.mem_append.mp member with header | filler
      · exact (each part header).1
      · rw [List.mem_singleton.mp filler]
        rfl
    have parted : blocks (parts ++ [fillerBlock]).flatten = parts ++ [fillerBlock] := cut_flatten (by decide) whole
    have queued : e.headerQueue 0 = parts := by
      rw [headerQueue, queue, owned, Pointer.bytes, parted, Nat.zero_div, List.drop_zero, List.take_left' nine]
    rw [queued]
    exact ⟨parted, nine, each⟩

theorem Sources.kind_header (sources : e.Sources) {block : Str} (member : block ∈ e.headerQueue 0) :
    kind block = 0x50 := by
  obtain ⟨b, owned⟩ := owned_of_mem member
  exact ((sources.header_parts owned).2.2 block member).2

theorem Sources.filter_header (sources : e.Sources) {b : Str} (owned : e.headerData = .owned b) :
    (blocks b).filter isHeader = e.headerQueue 0 := by
  obtain ⟨parted, -, each⟩ := sources.header_parts owned
  have filler : [fillerBlock].filter isHeader = [] := by decide
  rw [parted, List.filter_append, filler, List.append_nil]
  exact List.filter_eq_self.mpr fun block member => ofKind_iff.mpr (each block member).2

variable {s : Str}

theorem HoldsGPS.queue (holds : e.HoldsGPS s) : e.gpsQueue 0 = gpsBlocks ((e.gpsDataSize + 5) / 6) s := by
  obtain ⟨-, -, size, -, owned⟩ := holds
  have room : (e.gpsDataSize + 5) / 6 ≤ 10 * ((gpsSizeOf s + 59) / 60) := by omega
  have cuts : blocks (gpsBlocks (10 * ((gpsSizeOf s + 59) / 60)) s).flatten = _ :=
    cut_flatten (by decide) (whole_gpsBlocks _ s)
  rw [gpsQueue, SmartGroup.queue, owned, Pointer.bytes, cuts, Nat.zero_div, List.drop_zero, take_gpsBlocks,
    Nat.min_eq_left room]

theorem Sources.kind_gps (sources : e.Sources) {block : Str} (member : block ∈ e.gpsQueue 0) : kind block = 0x30 := by
  obtain ⟨b, owned⟩ := owned_of_mem member
  obtain null | ⟨freed, -⟩ | ⟨s, holds⟩ := sources.gps
  · exact absurd (owned.symm.trans null) (Pointer.owned_ne_null)
  · exact absurd (owned.symm.trans freed) (Pointer.owned_ne_freed)
  · rw [holds.queue] at member
    exact kind_gpsBlocks member

/-- The blocks of the string that the array has room for. -/
theorem HoldsGPS.filter_gps (holds : e.HoldsGPS s) {b : Str} (owned : e.gpsData = .owned b) :
    (blocks b).filter isGPS = gpsBlocks (min (10 * ((e.gpsDataSize + 59) / 60)) (gpsCount s)) s := by
  obtain ⟨-, -, size, -, owned'⟩ := holds
  cases owned.symm.trans owned'
  rw [blocks, cut_flatten (by decide) (whole_gpsBlocks _ s), filter_gpsBlocks, size]

end SlowEncoder
end SmartGroup
