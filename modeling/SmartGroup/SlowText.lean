import SmartGroup.GroupHandler
import SmartGroup.Support.Memory

/-! The text of a group in the slow data of its voice frames. Two frames make a block of a
type byte and five characters; a receiver puts the characters where the type byte says. -/
namespace SmartGroup
open Bytes

namespace SlowDataEncoder

/-- The scrambler's bytes are added once more. -/
def unscramble (frame : Str) : Str := frame.zipWith (· ^^^ ·) [0x70, 0x4F, 0x93]

/-- The blocks of successive frames. -/
def blocksOf : List Str → List Str
  | first :: second :: frames => (first ++ second) :: blocksOf frames
  | _ => []

/-- What a receiver does with a block: those of other types than text it passes over. -/
def takeBlock (text : Str) : Str → Str
  | type :: characters =>
      if type &&& 0xF0 = 0x40 then put text (5 * (type &&& 0x0F).toNat) characters else text
  | [] => text

/-- The text that a receiver has when the frames have come. -/
def decodeText (frames : List Str) : Str :=
  (blocksOf (frames.map unscramble)).foldl takeBlock (List.replicate 20 0)

/-- The sixty bytes that `setTextData` fills. -/
def blockOf (text : Str) : Str := (setTextData text).textData.getD []

theorem length_textBlock {padded : Str} (twenty : padded.length = 20) {n : Nat} (inside : n < 4) :
    (textBlock padded n).length = 6 := by
  rw [textBlock, List.length_cons, List.length_take, List.length_drop]
  omega

/-- The text's blocks stand before the filler. -/
theorem blockOf_eq (text : Str) :
    blockOf text = ((List.range 4).flatMap fun n => textBlock (padTo 20 text) n) ++ List.replicate 36 102 := by
  have size {n : Nat} := length_textBlock (length_padTo 20 text) (n := n)
  simp only [blockOf, setTextData, Option.getD_some, List.length_append, size (show 0 < 4 by decide),
    size (show 1 < 4 by decide), size (show 2 < 4 by decide), size (show 3 < 4 by decide)]
  simp [List.range_succ, slowDataFullBlockSize]


theorem length_blockOf (text : Str) : (blockOf text).length = 60 := by
  have size {n : Nat} := length_textBlock (length_padTo 20 text) (n := n)
  simp [blockOf_eq, List.range_succ, size]

/-! What the calls return. -/

theorem unscramble_getData {block : Str} {start : Nat} (inside : start + 3 ≤ block.length) (length : Nat) :
    unscramble (getData (some block) start length).1 = (block.drop start).take 3 := by
  have again (b key : UInt8) : b ^^^ key ^^^ key = b := by
    rw [UInt8.xor_assoc, UInt8.xor_self, UInt8.xor_zero]
  have first : start < block.length := by omega
  have second : start + 1 < block.length := by omega
  have third : start + 2 < block.length := by omega
  have plain : unscramble (getData (some block) start length).1 =
      [block[start], block[start + 1], block[start + 2]] := by
    simp [getData, unscramble, again, first, second, third]
  rw [plain, List.drop_eq_getElem_cons first, List.drop_eq_getElem_cons second,
    List.drop_eq_getElem_cons third]
  rfl

/-- The call at the `m`-th place of the block and the ones behind it. -/
theorem unscramble_getTexts {block : Str} (full : block.length = 60) (n m : Nat) :
    (getTexts ⟨some block, 3 * (m % 20)⟩ n).map unscramble =
      (List.range' m n).map fun k => (block.drop (3 * (k % 20))).take 3 := by
  induction n generalizing m with
  | zero => rfl
  | succ n ih =>
      have inside : 3 * (m % 20) + 3 ≤ block.length := by omega
      have wrap : (if 60 ≤ 3 * (m % 20) + 3 then 0 else 3 * (m % 20) + 3) = 3 * ((m + 1) % 20) := by
        split <;> omega
      have next : (getTextData ⟨some block, 3 * (m % 20)⟩).2 = ⟨some block, 3 * ((m + 1) % 20)⟩ :=
        congrArg (SlowDataEncoder.mk (some block)) wrap
      rw [getTexts, List.map_cons, next, ih, List.range'_succ, List.map_cons]
      exact congrArg (· :: _) (unscramble_getData inside slowDataFullBlockSize)

theorem blocksOf_range' (frame : Nat → Str) (n : Nat) : ∀ m,
    blocksOf ((List.range' (2 * m) n).map frame) =
      (List.range' m (n / 2)).map fun j => frame (2 * j) ++ frame (2 * j + 1) := by
  induction n using Nat.twoStepInduction with
  | zero => intro m; rfl
  | one => intro m; rfl
  | more n ih _ =>
      intro m
      have half : (n + 2) / 2 = n / 2 + 1 := by omega
      rw [half, List.range'_succ, List.range'_succ, List.range'_succ]
      simp only [List.map_cons, blocksOf]
      rw [show 2 * m + 1 + 1 = 2 * (m + 1) by omega, ih]

/-- Two frames make six bytes of the text block. -/
theorem two_frames (block : Str) (j : Nat) :
    (block.drop (3 * ((2 * j) % 20))).take 3 ++ (block.drop (3 * ((2 * j + 1) % 20))).take 3 =
      (block.drop (6 * (j % 10))).take 6 := by
  have front : 3 * ((2 * j) % 20) = 6 * (j % 10) := by omega
  have rear : 3 * ((2 * j + 1) % 20) = 6 * (j % 10) + 3 := by omega
  rw [front, rear, ← List.drop_drop]
  exact (List.take_add (i := 3) (j := 3)).symm

theorem blocksOf_getTexts (text : Str) (n : Nat) :
    blocksOf (((setTextData text).getTexts n).map unscramble) =
      (List.range (n / 2)).map fun j => ((blockOf text).drop (6 * (j % 10))).take 6 := by
  have frames := unscramble_getTexts (length_blockOf text) n 0
  have blocks := blocksOf_range' (fun k => ((blockOf text).drop (3 * (k % 20))).take 3) n 0
  have start : setTextData text = ⟨some (blockOf text), 3 * (0 % 20)⟩ := rfl
  rw [start, frames, ← Nat.mul_zero 2, blocks, List.range_eq_range']
  exact List.map_congr_left fun j _ => two_frames (blockOf text) j

/-! What a receiver makes of them. -/

theorem textBlock_at (text : Str) {j : Nat} (inside : j < 4) :
    ((blockOf text).drop (6 * j)).take 6 = textBlock (padTo 20 text) j := by
  have size {n : Nat} := length_textBlock (length_padTo 20 text) (n := n)
  have cases : j = 0 ∨ j = 1 ∨ j = 2 ∨ j = 3 := by omega
  rw [blockOf_eq]
  rcases cases with rfl | rfl | rfl | rfl <;>
    simp [List.range_succ, size, List.drop_append, List.drop_eq_nil_of_le]

theorem filler_at (text : Str) {j : Nat} (behind : 4 ≤ j) (inside : j < 10) :
    ((blockOf text).drop (6 * j)).take 6 = List.replicate 6 102 := by
  have size {n : Nat} := length_textBlock (length_padTo 20 text) (n := n)
  have front : ((List.range 4).flatMap fun n => textBlock (padTo 20 text) n).length = 24 := by
    simp [List.range_succ, size]
  rw [blockOf_eq, List.drop_append, List.drop_eq_nil_of_le (by omega), front, List.nil_append,
    List.drop_replicate, List.take_replicate]
  congr 1
  omega

/-- Text blocks are taken, at their place. -/
theorem takeBlock_textBlock (padded seen : Str) {j : Nat} (inside : j < 4) :
    takeBlock seen (textBlock padded j) = put seen (5 * j) ((padded.drop (5 * j)).take 5) := by
  have cases : j = 0 ∨ j = 1 ∨ j = 2 ∨ j = 3 := by omega
  rcases cases with rfl | rfl | rfl | rfl <;> rfl

theorem takeBlock_filler (seen : Str) : takeBlock seen (List.replicate 6 102) = seen := rfl

/-- The characters of the first `5 * m` places have come. -/
def Seen (padded : Str) (m : Nat) (seen : Str) : Prop :=
  seen.length = 20 ∧ ∀ place < 20, place < 5 * m → seen[place]? = padded[place]?

/-- The next block brings five characters more, or what is known already. -/
theorem Seen.takeBlock {text seen : Str} {m : Nat} (held : Seen (padTo 20 text) m seen) :
    Seen (padTo 20 text) (m + 1) (takeBlock seen (((blockOf text).drop (6 * (m % 10))).take 6)) := by
  obtain ⟨length, known⟩ := held
  by_cases filler : 4 ≤ m % 10
  · rw [filler_at text filler (by omega), takeBlock_filler]
    exact ⟨length, fun place inside _ => known place inside (by omega)⟩
  · have early : m % 10 < 4 := by omega
    rw [textBlock_at text early, takeBlock_textBlock _ seen early]
    have five : (((padTo 20 text).drop (5 * (m % 10))).take 5).length = 5 := by
      rw [List.length_take, List.length_drop, length_padTo]
      omega
    refine ⟨by rw [length_put, length], fun place inside before => ?_⟩
    by_cases written : 5 * (m % 10) ≤ place ∧ place < 5 * (m % 10) + 5
    · have fits : Field.Fits seen (5 * (m % 10), ((padTo 20 text).drop (5 * (m % 10))).take 5) := by
        rw [Field.Fits, five, length]
        omega
      have here := holds_put fits (place - 5 * (m % 10)) (by rw [five]; omega)
      rw [show 5 * (m % 10) + (place - 5 * (m % 10)) = place by omega] at here
      rw [here, ← List.getElem?_eq_getElem, List.getElem?_take, if_pos (by omega), List.getElem?_drop]
      congr 1
      omega
    · rw [getElem?_put_outside (g := (5 * (m % 10), _)) (by rw [five]; omega)]
      exact known place inside (by omega)

theorem seen_run (text : Str) (m : Nat) :
    Seen (padTo 20 text) m (((List.range m).map fun j =>
      ((blockOf text).drop (6 * (j % 10))).take 6).foldl takeBlock (List.replicate 20 0)) := by
  induction m with
  | zero => exact ⟨List.length_replicate, fun _ _ none => absurd none (Nat.not_lt_zero _)⟩
  | succ m ih =>
      rw [List.range_succ, List.map_append, List.foldl_append]
      exact ih.takeBlock

theorem decodeText_getTexts (text : Str) {n : Nat} (enough : 8 ≤ n) :
    decodeText ((setTextData text).getTexts n) = padTo 20 text := by
  obtain ⟨length, known⟩ := seen_run text (n / 2)
  rw [decodeText, blocksOf_getTexts]
  apply List.ext_getElem?
  intro place
  by_cases inside : place < 20
  · exact known place inside (by omega)
  · rw [List.getElem?_eq_none (by omega), List.getElem?_eq_none (by rw [length_padTo]; omega)]

end SlowDataEncoder

/-! The frames that a group sends. -/

/-- The slow data of a voice frame. -/
def AMBEData.slowData (d : AMBEData) : Str := d.data.drop 9

namespace GroupHandler
open SlowDataEncoder

theorem getTexts_length (e : SlowDataEncoder) (n : Nat) : (e.getTexts n).length = n := by
  induction n generalizing e with
  | zero => rfl
  | succ n ih => rw [getTexts, List.length_cons, ih]

theorem getTexts_three (e : SlowDataEncoder) (n : Nat) : ∀ frame ∈ e.getTexts n, frame.length = 3 := by
  induction n generalizing e with
  | zero => exact List.forall_mem_nil _
  | succ n ih => exact List.forall_mem_cons.mpr ⟨rfl, ih _⟩

/-- Behind the sync frame the slow data is what the encoder gave. -/
theorem slowData_textFrames (id : Nat) (text : Str) (n : Nat) :
    ((textFrames id text n).drop 1).map AMBEData.slowData = (setTextData text).getTexts n := by
  have three := getTexts_three (setTextData text) n
  rw [textFrames, List.mapIdx_cons, List.drop_one, List.tail_cons]
  apply List.ext_getElem?
  intro k
  rw [List.getElem?_map, List.getElem?_mapIdx]
  cases found : ((setTextData text).getTexts n)[k]? with
  | none => rfl
  | some frame =>
      have size := three frame (List.mem_of_getElem? found)
      simp [AMBEData.slowData, AMBEData.setSeq, AMBEData.setData, nullAMBEDataBytes,
        AMBEData.dvFrameLength, List.take_of_length_le, size]

theorem length_textFrames (id : Nat) (text : Str) (n : Nat) : (textFrames id text n).length = n + 1 := by
  rw [textFrames, List.length_mapIdx, List.length_cons, getTexts_length]

theorem decodeText_textFrames (id : Nat) (text : Str) {n : Nat} (enough : 8 ≤ n) :
    decodeText (((textFrames id text n).drop 1).map AMBEData.slowData) = padTo 20 text := by
  rw [slowData_textFrames, decodeText_getTexts text enough]

theorem sendFromText_carries (env : Env) (g : GroupHandler) :
    ∃ frames : List AMBEData, g.sendFromText env = frames.flatMap (g.sendAMBEToRepeaters env) ∧ frames.length = 21 ∧
      decodeText ((frames.drop 1).map AMBEData.slowData) =
        padTo 20 (str "VIA SMARTGP " ++ g.groupCallsign) :=
  ⟨_, rfl, length_textFrames _ _ _, decodeText_textFrames _ _ (by decide)⟩

theorem sendAck_carries (env : Env) (g : GroupHandler) (i : Nat) (irc : IRCDDB) (user text : Str)
    (draw : Nat) :
    ∃ (index : Nat) (header : HeaderData) (frames : List AMBEData), g.sendAck env i irc user text draw =
        .ack i user text :: .writeHeader index header :: frames.map (.writeAMBE index) ∧
      frames.length = 20 ∧
      decodeText (((frames.drop 1).take 18).map AMBEData.slowData) = padTo 20 text := by
  let data := irc.cache.findUserData user
  let header := ((HeaderData.ofCalls g.groupCallsign (str "    ") user data.gate data.rptr).setDestination
    data.addr (g2Port data.addr)).setId (createId draw)
  let last := (((AMBEData.blank.setId (createId draw)).setData
    (nullAMBEDataBytes ++ endPatternBytes.take 6)).setSeq 19).setEnd
  let send := fun frame : AMBEData => frame.setDestination data.addr (g2Port data.addr)
  have size := length_textFrames (createId draw) text 18
  have same (frames : List AMBEData) :
      (frames.map send).map AMBEData.slowData = frames.map AMBEData.slowData := by
    rw [List.map_map]
    rfl
  refine ⟨env.server (isIPv4 data.addr), header, (textFrames (createId draw) text 18 ++ [last]).map send, ?_, ?_, ?_⟩
  · rw [List.map_map]
    rfl
  · rw [List.length_map, List.length_append, size]
    rfl
  · rw [← List.map_drop, ← List.map_take, same, List.drop_append_of_le_length (by omega),
      List.take_append_of_le_length (by rw [List.length_drop]; omega), List.take_of_length_le (by
        rw [List.length_drop]; omega)]
    exact decodeText_textFrames _ text (by decide)

/-- The encoder's calls give the text's block in threes, for ever; the blocks carry the
text in twenty characters; and so do the frames of both announcements. -/
theorem text_carried :
    (∀ text n k, k < n → ((setTextData text).getTexts n)[k]?.map unscramble =
      some (((blockOf text).drop (3 * (k % 20))).take 3)) ∧
    (∀ text, (blockOf text).length = 60) ∧
    (∀ text n, 8 ≤ n → decodeText ((setTextData text).getTexts n) = padTo 20 text) ∧
    (∀ env (g : GroupHandler), ∃ frames : List AMBEData,
      g.sendFromText env = frames.flatMap (g.sendAMBEToRepeaters env) ∧ frames.length = 21 ∧
      decodeText ((frames.drop 1).map AMBEData.slowData) =
        padTo 20 (str "VIA SMARTGP " ++ g.groupCallsign)) ∧
    ∀ env (g : GroupHandler) i irc user text draw, ∃ (index : Nat) (header : HeaderData) (frames : List AMBEData),
      g.sendAck env i irc user text draw =
        .ack i user text :: .writeHeader index header :: frames.map (.writeAMBE index) ∧
      frames.length = 20 ∧
      decodeText (((frames.drop 1).take 18).map AMBEData.slowData) = padTo 20 text := by
  refine ⟨fun text n k inside => ?_, length_blockOf, fun text n enough => decodeText_getTexts text enough,
    sendFromText_carries, sendAck_carries⟩
  have all := unscramble_getTexts (length_blockOf text) n 0
  have start : setTextData text = ⟨some (blockOf text), 3 * (0 % 20)⟩ := rfl
  rw [← List.getElem?_map, start, all, List.getElem?_map, List.getElem?_range' inside]
  simp

end GroupHandler
end SmartGroup
