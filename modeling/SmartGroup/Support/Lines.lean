/-! Lines of a bounded length and the words in them, as `istream::getline` and `strtok` cut a text. -/
namespace Lines

variable {α : Type}

/-- `getline` until the stream is no longer good: a line without its end is lost, and so is all that comes
from the first line on that is longer than the limit. -/
def readFrom [DecidableEq α] (newline : α) (limit : Nat) : List α → List α → List (List α)
  | _, [] => []
  | line, c :: text =>
      if c = newline then line :: readFrom newline limit [] text
      else if line.length = limit then []
      else readFrom newline limit (line ++ [c]) text

def read [DecidableEq α] (newline : α) (limit : Nat) (text : List α) : List (List α) := readFrom newline limit [] text

/-- `strtok`: the first word and what stands behind the character that ends it. -/
def strtok (space : α → Bool) (text : List α) : Option (List α × List α) :=
  match text.dropWhile space with
  | [] => none
  | c :: rest => some (c :: rest.takeWhile (fun b => !space b), (rest.dropWhile fun b => !space b).drop 1)

/-- The words of a text. -/
def words (space : α → Bool) (text : List α) : List (List α) := (text.splitOnP space).filter fun word => !word.isEmpty

section
variable [DecidableEq α] {newline : α} {limit : Nat}

theorem readFrom_eq (line text : List α) (fits : line.length ≤ limit) :
    readFrom newline limit line text =
      ((text.splitOn newline).modifyHead (line ++ ·)).dropLast.takeWhile (·.length ≤ limit) := by
  induction text generalizing line with
  | nil => simp [readFrom, List.splitOn_nil]
  | cons c text ih =>
      rw [readFrom, List.splitOn_cons_eq_if_modifyHead]
      by_cases ends : c = newline
      · have more : text.splitOn newline ≠ [] := List.splitOn_ne_nil newline text
        rw [if_pos ends, if_pos (show (c == newline) = true by simpa using ends), ih [] (Nat.zero_le _), List.modifyHead_cons,
          List.append_nil, List.dropLast_cons_of_ne_nil more, List.takeWhile_cons_of_pos (by simpa using fits)]
        congr 4
        exact congrFun List.modifyHead_id _
      · have shifted : ((text.splitOn newline).modifyHead (List.cons c)).modifyHead (line ++ ·) =
            (text.splitOn newline).modifyHead ((line ++ [c]) ++ ·) := by
          rw [List.modifyHead_modifyHead]
          congr 1
          funext rest
          simp
        rw [if_neg ends, if_neg (show ¬(c == newline) = true by simpa using ends), shifted]
        by_cases full : line.length = limit
        · rw [if_pos full]
          cases text.splitOn newline with
          | nil => rfl
          | cons first rest =>
              rw [List.modifyHead_cons]
              cases rest with
              | nil => rfl
              | cons second rest =>
                  rw [List.dropLast_cons_cons, List.takeWhile_cons_of_neg]
                  simp [full]
        · rw [if_neg full]
          apply ih
          rw [List.length_append, List.length_singleton]
          omega

/-- The lines that are read are the ended ones, up to the first that is too long. -/
theorem read_eq (text : List α) :
    read newline limit text = (text.splitOn newline).dropLast.takeWhile (·.length ≤ limit) := by
  rw [read, readFrom_eq [] text (Nat.zero_le _)]
  congr 2
  exact congrFun List.modifyHead_id _

/-- Lines that were written come back. -/
theorem read_flatMap {β : Type} (line : β → List α) (items : List β)
    (plain : ∀ x ∈ items, newline ∉ line x ∧ (line x).length ≤ limit) (rest : List α) :
    read newline limit (items.flatMap (fun x => line x ++ [newline]) ++ rest) =
      items.map line ++ read newline limit rest := by
  induction items with
  | nil => rfl
  | cons x items ih =>
      obtain ⟨single, fits⟩ := plain x List.mem_cons_self
      have later := ih fun y member => plain y (List.mem_cons_of_mem x member)
      have front : (x :: items).flatMap (fun x => line x ++ [newline]) ++ rest =
          line x ++ newline :: (items.flatMap (fun x => line x ++ [newline]) ++ rest) := by simp
      rw [read_eq] at later ⊢
      rw [front, List.splitOn_append_cons_self_of_not_mem single,
        List.dropLast_cons_of_ne_nil (List.splitOn_ne_nil newline _),
        List.takeWhile_cons_of_pos (by simpa using fits), later]
      rfl

/-- A line that is not ended is lost. -/
theorem read_unended {text : List α} (unended : newline ∉ text) : read newline limit text = [] := by
  rw [read_eq, List.splitOn_eq_singleton unended]
  rfl

theorem readFrom_long (line long text : List α) (unended : newline ∉ long) (fits : line.length ≤ limit)
    (exceeds : limit < line.length + long.length) : readFrom newline limit line (long ++ text) = [] := by
  induction long generalizing line with
  | nil =>
      rw [List.length_nil] at exceeds
      omega
  | cons c long ih =>
      obtain ⟨other, later⟩ : newline ≠ c ∧ newline ∉ long := by simpa using unended
      rw [List.cons_append, readFrom, if_neg (Ne.symm other)]
      by_cases full : line.length = limit
      · exact if_pos full
      · rw [if_neg full]
        rw [List.length_cons] at exceeds
        apply ih _ later <;> rw [List.length_append, List.length_singleton] <;> omega

/-- With a line that is too long the rest of the text is lost. -/
theorem read_long {long : List α} (unended : newline ∉ long) (exceeds : limit < long.length) (text : List α) :
    read newline limit (long ++ text) = [] :=
  readFrom_long [] long text unended (Nat.zero_le _) (by simpa using exceeds)

end

section
variable {space : α → Bool}

theorem words_cons_space {c : α} (blank : space c) (text : List α) : words space (c :: text) = words space text := by
  simp [words, List.splitOnP_cons_eq_if_modifyHead, blank]

theorem words_dropWhile (text : List α) : words space (text.dropWhile space) = words space text := by
  induction text with
  | nil => rfl
  | cons c text ih =>
      by_cases blank : space c
      · rw [List.dropWhile_cons_of_pos blank, ih, words_cons_space blank]
      · rw [List.dropWhile_cons_of_neg blank]

theorem words_spaces {gap : List α} (blank : ∀ b ∈ gap, space b) (text : List α) :
    words space (gap ++ text) = words space text := by
  induction gap with
  | nil => rfl
  | cons c gap ih =>
      rw [List.cons_append, words_cons_space (blank c List.mem_cons_self)]
      exact ih fun b member => blank b (List.mem_cons_of_mem c member)

/-- A word, and the words behind it. -/
theorem words_word {word : List α} (some_letter : word ≠ []) (solid : ∀ b ∈ word, space b = false) :
    words space word = [word] ∧
      ∀ c text, space c → words space (word ++ c :: text) = word :: words space text := by
  constructor
  · simp [words, List.splitOnP_eq_singleton solid, some_letter]
  · intro c text blank
    simp [words, List.splitOnP_append_cons_of_forall_mem solid c blank, some_letter]

/-- `strtok` takes the words one by one. -/
theorem words_of_strtok {text word rest : List α} (cut : strtok space text = some (word, rest)) :
    words space text = word :: words space rest := by
  rw [← words_dropWhile]
  unfold strtok at cut
  split at cut
  · cases cut
  · rename_i c text' front
    have head : ¬space c := by
      have first := List.head?_dropWhile_not space text
      rw [front] at first
      simpa using first
    rw [front]
    cases cut
    have solid : ∀ b ∈ c :: text'.takeWhile (fun b => !space b), space b = false := by
      intro b member
      rcases List.mem_cons.mp member with rfl | inside
      · simpa using head
      · simpa using List.all_eq_true.mp List.all_takeWhile b inside
    have whole : c :: text' = (c :: text'.takeWhile fun b => !space b) ++ text'.dropWhile fun b => !space b := by
      rw [List.cons_append, List.takeWhile_append_dropWhile]
    obtain ⟨last, more⟩ := words_word (List.cons_ne_nil _ _) solid
    cases behind : text'.dropWhile fun b => !space b with
    | nil =>
        rw [whole, behind, List.append_nil, last]
        rfl
    | cons d rest =>
        have blank : space d = true := by
          have first := List.head?_dropWhile_not (fun b => !space b) text'
          rw [behind] at first
          simpa using first
        rw [whole, behind, more d rest blank]
        rfl

theorem words_of_strtok_none {text : List α} (cut : strtok space text = none) : words space text = [] := by
  rw [← words_dropWhile]
  unfold strtok at cut
  split at cut
  · rename_i front
    rw [front]
    rfl
  · cases cut

end
end Lines
