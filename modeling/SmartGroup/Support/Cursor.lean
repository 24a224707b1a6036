import SmartGroup.Support.Registry
import SmartGroup.Support.Sweep

/-! Containers with iterators, as `std::list` and `std::map` have them, and loops that erase
elements while they iterate. An element is known by its key; an iterator is the key of an
element or, as `none`, the end. -/
namespace Cursor
open Sweep

/-- The uses of an iterator that have no defined behaviour. -/
inductive Misuse where
  | erased
  | beforeFirst
  | pastEnd
  deriving DecidableEq, Repr

/-- Why a loop does not come to its end. -/
inductive Stop (φ : Type*) where
  | misuse (m : Misuse)
  | endless
  | fault (f : φ)

section
variable {κ β : Type*}

def keys (l : List (κ × β)) : List κ := l.map Prod.fst

/-- `begin()`. -/
def first (l : List (κ × β)) : Option κ := l.head?.map Prod.fst

theorem keys_append (l l' : List (κ × β)) : keys (l ++ l') = keys l ++ keys l' := List.map_append

theorem mem_keys_cut (kept : List (κ × β)) (k : κ) (v : β) (rest : List (κ × β)) :
    k ∈ keys (kept ++ (k, v) :: rest) := by
  simp [keys]

/-- Distinct keys: those around the element are others. -/
theorem apart_of_nodup {kept rest : List (κ × β)} {k : κ} {v : β}
    (distinct : (keys (kept ++ (k, v) :: rest)).Nodup) :
    k ∉ keys kept ∧ k ∉ keys rest := by
  rw [keys_append, List.nodup_append] at distinct
  obtain ⟨-, later, apart⟩ := distinct
  exact ⟨fun there => apart k there k List.mem_cons_self rfl, (List.nodup_cons.mp later).1⟩

end

variable {σ κ β ω φ : Type*} [DecidableEq κ]

/-- `find(k)`, the end where there is no such element. -/
def find (l : List (κ × β)) (k : κ) : Option κ := if k ∈ keys l then some k else none

/-- `*it`. -/
def read (l : List (κ × β)) : Option κ → Except Misuse β
  | none => .error .pastEnd
  | some k =>
      match l.lookup k with
      | none => .error .erased
      | some v => .ok v

/-- `it++`; also what `erase(it)` returns. -/
def next (l : List (κ × β)) : Option κ → Except Misuse (Option κ)
  | none => .error .pastEnd
  | some k =>
      match l.dropWhile (·.1 ≠ k) with
      | [] => .error .erased
      | _ :: rest => .ok (first rest)

/-- `it--`. -/
def prev (l : List (κ × β)) (it : Option κ) : Except Misuse (Option κ) :=
  if ∃ k ∈ it, k ∉ keys l then .error .erased
  else
    match (l.takeWhile fun e => it ≠ some e.1).getLast? with
    | none => .error .beforeFirst
    | some e => .ok (some e.1)

/-- The container with another value for the key, or without the element. -/
def put (l : List (κ × β)) (k : κ) (u : Option β) : List (κ × β) :=
  l.filterMap fun e => (if k = e.1 then u else some e.2).map (e.1, ·)

/-- What a loop does with its iterator after an erasure; otherwise the turn ends in `it++`. -/
inductive Idiom where
  /-- `it = erase(it)`. -/
  | assign
  /-- `it = erase(it); it--`, with the `it++` of the loop. -/
  | assignBack
  /-- `erase(it); break`. -/
  | leave
  deriving DecidableEq, Repr

/-- The iterator after the turn at an element, in the container before and after it. -/
def advance (how : Idiom) (before after : List (κ × β)) (k : κ) : Except Misuse (Option κ) :=
  if k ∈ keys after then next after (some k)
  else
    match how, next before (some k) with
    | _, .error m => .error m
    | .assign, .ok it => .ok it
    | .leave, .ok _ => .ok none
    | .assignBack, .ok it =>
        match prev after it with
        | .error m => .error m
        | .ok it => next after it

/-- The loop from an iterator on, over the container in the state. It notes the keys of
the elements that it visits. -/
def scan (how : Idiom) (π : σ → List (κ × β)) (f : σ → κ × β → Except φ (σ × List ω)) :
    Nat → σ → Option κ → Except (Stop φ) (σ × List ω × List κ)
  | _, s, none => .ok (s, [], [])
  | 0, _, some _ => .error .endless
  | fuel + 1, s, some k =>
      match read (π s) (some k) with
      | .error m => .error (.misuse m)
      | .ok v =>
          match f s (k, v) with
          | .error e => .error (.fault e)
          | .ok (s', o) =>
              match advance how (π s) (π s') k with
              | .error m => .error (.misuse m)
              | .ok it =>
                  match scan how π f fuel s' it with
                  | .error e => .error e
                  | .ok (t, o', visited) => .ok (t, o ++ o', k :: visited)

/-- The loop over the whole container, with a turn for each element at most. -/
def run (how : Idiom) (π : σ → List (κ × β)) (f : σ → κ × β → Except φ (σ × List ω)) (s : σ) :
    Except (Stop φ) (σ × List ω × List κ) :=
  scan how π f (π s).length s (first (π s))

/-- A result is sound when it comes from no misuse of an iterator. -/
def Sound {α : Type*} (r : Except (Stop φ) α) : Prop := ∀ m, r ≠ .error (.misuse m)

theorem sound_ok {α : Type*} (a : α) : Sound (φ := φ) (.ok a) := by
  intro m same
  cases same

theorem sound_fault {α : Type*} (f : φ) : Sound (α := α) (.error (.fault f)) := by
  intro m same
  cases same

/-! A container cut at an element. -/

section
variable {kept rest : List (κ × β)} {k : κ} {v : β}

theorem read_cut (fresh : k ∉ keys kept) : read (kept ++ (k, v) :: rest) (some k) = .ok v := by
  have found : (kept ++ (k, v) :: rest).lookup k = some v := by
    induction kept with
    | nil => simp
    | cons e kept ih =>
        obtain ⟨other, later⟩ := not_or.mp (mt List.mem_cons.mpr fresh)
        rw [List.cons_append, List.lookup_cons, beq_false_of_ne other]
        exact ih later
  rw [read, found]

theorem next_cut (fresh : k ∉ keys kept) :
    next (kept ++ (k, v) :: rest) (some k) = .ok (first rest) := by
  have dropped : (kept ++ (k, v) :: rest).dropWhile (·.1 ≠ k) = (k, v) :: rest := by
    rw [List.dropWhile_append_of_pos]
    · simp
    · intro e member
      have other : e.1 ≠ k := fun same => fresh (same ▸ List.mem_map_of_mem member)
      exact decide_eq_true other
  rw [next, dropped]

/-- One step back from the first element of a part. -/
theorem prev_cut (distinct : (keys (kept ++ rest)).Nodup) :
    prev (kept ++ rest) (first rest) =
      match kept.getLast? with
      | none => .error .beforeFirst
      | some e => .ok (some e.1) := by
  have present : ¬∃ k ∈ first rest, k ∉ keys (kept ++ rest) := by
    intro ⟨k, here, absent⟩
    cases rest with
    | nil => cases here
    | cons e rest =>
        cases here
        exact absent (mem_keys_cut kept e.1 e.2 rest)
  have before : ((kept ++ rest).takeWhile fun e => first rest ≠ some e.1) = kept := by
    rw [List.takeWhile_append_of_pos]
    · cases rest with
      | nil => simp
      | cons e rest => simp [first]
    · intro e member
      cases rest with
      | nil => rfl
      | cons e' rest =>
          have fresh := (apart_of_nodup distinct).1
          have other : e'.1 ≠ e.1 := fun same => fresh (same ▸ List.mem_map_of_mem member)
          simpa [first] using other
  rw [prev, if_neg present, before]

theorem put_cut (distinct : (keys (kept ++ (k, v) :: rest)).Nodup) (u : Option β) :
    put (kept ++ (k, v) :: rest) k u = kept ++ (u.map (k, ·)).toList ++ rest := by
  have passed {l : List (κ × β)} (fresh : k ∉ keys l) : put l k u = l := by
    unfold put
    induction l with
    | nil => rfl
    | cons e l ih =>
        obtain ⟨other, later⟩ := not_or.mp (mt List.mem_cons.mpr fresh)
        rw [List.filterMap_cons, if_neg other]
        exact congrArg (e :: ·) (ih later)
  obtain ⟨before, after⟩ := apart_of_nodup distinct
  have here : put ((k, v) :: rest) k u = (u.map (k, ·)).toList ++ put rest k u := by
    unfold put
    rw [List.filterMap_cons, if_pos rfl]
    cases u <;> rfl
  have split : put (kept ++ (k, v) :: rest) k u = put kept k u ++ put ((k, v) :: rest) k u :=
    List.filterMap_append
  rw [split, here, passed before, passed after, List.append_assoc]

theorem not_mem_keys_put (l : List (κ × β)) (k : κ) : k ∉ keys (put l k none) := by
  intro there
  obtain ⟨e, member, same⟩ := List.mem_map.mp there
  obtain ⟨e', -, replaced⟩ := List.mem_filterMap.mp member
  split at replaced
  · cases replaced
  · rename_i other
    cases replaced
    exact other same.symm

theorem keys_put (l : List (κ × β)) (k : κ) (u : Option β) : (keys (put l k u)).Sublist (keys l) := by
  induction l with
  | nil => exact List.Sublist.refl []
  | cons e l ih =>
      unfold put at ih ⊢
      rw [List.filterMap_cons]
      split
      · exact ih.cons e.1
      · rename_i e' replaced
        have same : e'.1 = e.1 := by
          obtain ⟨v, -, rfl⟩ := Option.map_eq_some_iff.mp replaced
          rfl
        simp only [keys, List.map_cons, same]
        exact ih.cons_cons e.1

end

/-! The loops. -/

/-- A turn at an element replaces just that element or erases it. -/
def Own (π : σ → List (κ × β)) (f : σ → κ × β → Except φ (σ × List ω)) : Prop :=
  ∀ s k v s' o, (k, v) ∈ π s → f s (k, v) = .ok (s', o) → ∃ u, π s' = put (π s) k u

/-- The turns at the elements of a list, each in its order and once. -/
def swept (f : σ → κ × β → Except φ (σ × List ω)) (s : σ) (l : List (κ × β)) :
    Except (Stop φ) (σ × List ω × List κ) :=
  match tryEach f s l with
  | .error e => .error (.fault e)
  | .ok (t, o) => .ok (t, o, keys l)

section
variable {kept rest : List (κ × β)} {k : κ} {v : β} {how : Idiom}

theorem advance_kept (distinct : (keys (kept ++ (k, v) :: rest)).Nodup) (v' : β) :
    advance how (kept ++ (k, v) :: rest) (put (kept ++ (k, v) :: rest) k (some v')) k = .ok (first rest) := by
  have after : put (kept ++ (k, v) :: rest) k (some v') = kept ++ (k, v') :: rest := by
    rw [put_cut distinct, Option.map_some, Option.toList_some, List.append_assoc]
    rfl
  unfold advance
  rw [after, if_pos (mem_keys_cut kept k v' rest)]
  exact next_cut (apart_of_nodup distinct).1

theorem advance_erased (distinct : (keys (kept ++ (k, v) :: rest)).Nodup) :
    advance how (kept ++ (k, v) :: rest) (put (kept ++ (k, v) :: rest) k none) k =
      match how, kept.getLast? with
      | .assign, _ => .ok (first rest)
      | .leave, _ => .ok none
      | .assignBack, none => .error .beforeFirst
      | .assignBack, some _ => .ok (first rest) := by
  have after : put (kept ++ (k, v) :: rest) k none = kept ++ rest := by
    rw [put_cut distinct, Option.map_none, Option.toList_none, List.append_nil]
  have gone : k ∉ keys (kept ++ rest) := after ▸ not_mem_keys_put _ k
  have apart : (keys (kept ++ rest)).Nodup :=
    after ▸ (keys_put (kept ++ (k, v) :: rest) k none).nodup distinct
  unfold advance
  rw [after, if_neg gone, next_cut (apart_of_nodup distinct).1]
  cases how with
  | assign | leave => rfl
  | assignBack =>
      dsimp only
      rw [prev_cut apart]
      cases last : kept.getLast? with
      | none => rfl
      | some e =>
          obtain ⟨before, rfl⟩ := List.getLast?_eq_some_iff.mp last
          dsimp only
          rw [List.append_assoc] at apart ⊢
          exact next_cut (apart_of_nodup apart).1

end

section
variable {π : σ → List (κ × β)} {f : σ → κ × β → Except φ (σ × List ω)} {how : Idiom}

/-- The first element left may not be erased where the loop would step back before it. -/
def Steps (how : Idiom) (π : σ → List (κ × β)) (f : σ → κ × β → Except φ (σ × List ω)) (s : σ)
    (kept rest : List (κ × β)) : Prop :=
  how = .assign ∨ how = .assignBack ∧
    (kept = [] → ∀ e ∈ rest.head?, ∀ s' o, f s e = .ok (s', o) → e.1 ∈ keys (π s'))

theorem advance_turn {kept rest : List (κ × β)} {k : κ} {v : β} {s s' : σ} {o : List ω} {u : Option β}
    (split : π s = kept ++ (k, v) :: rest) (distinct : (keys (π s)).Nodup)
    (steps : Steps how π f s kept ((k, v) :: rest)) (turn : f s (k, v) = .ok (s', o))
    (left : π s' = put (π s) k u) :
    advance how (π s) (π s') k = .ok (first rest) ∧ Steps how π f s' (kept ++ (u.map (k, ·)).toList) rest := by
  rw [split] at distinct left
  cases u with
  | some v' =>
      rw [left, split]
      exact ⟨advance_kept distinct v', steps.imp_right fun both => ⟨both.1, fun empty => by simp at empty⟩⟩
  | none =>
      have gone : k ∉ keys (π s') := left ▸ not_mem_keys_put _ k
      rw [Option.map_none, Option.toList_none, List.append_nil]
      rcases steps with rfl | ⟨rfl, stays⟩
      · rw [left, split]
        exact ⟨advance_erased distinct, .inl rfl⟩
      · have before : kept ≠ [] := fun empty => gone (stays empty (k, v) rfl s' o turn)
        refine ⟨?_, .inr ⟨rfl, fun empty => absurd empty before⟩⟩
        rw [left, split, advance_erased distinct]
        cases last : kept.getLast? with
        | none => exact absurd (List.getLast?_eq_none_iff.mp last) before
        | some e => rfl

/-- The loop from an element on does what the turns at the elements left do. -/
theorem scan_eq_swept (own : Own π f) {rest kept : List (κ × β)} {s : σ} {fuel : Nat}
    (split : π s = kept ++ rest) (distinct : (keys (π s)).Nodup) (enough : rest.length ≤ fuel)
    (steps : Steps how π f s kept rest) : scan how π f fuel s (first rest) = swept f s rest := by
  induction rest generalizing kept s fuel with
  | nil => cases fuel <;> rfl
  | cons e rest ih =>
      obtain ⟨k, v⟩ := e
      cases fuel with
      | zero => cases enough
      | succ fuel =>
          have less : rest.length ≤ fuel := Nat.le_of_succ_le_succ enough
          have cut : (keys (kept ++ (k, v) :: rest)).Nodup := split ▸ distinct
          have here : read (π s) (some k) = .ok v := by
            rw [split]
            exact read_cut (apart_of_nodup cut).1
          have start : first ((k, v) :: rest) = some k := rfl
          rw [start, scan, here]
          dsimp only
          cases turn : f s (k, v) with
          | error e => simp only [swept, tryEach, turn]
          | ok result =>
              obtain ⟨s', o⟩ := result
              obtain ⟨u, left⟩ := own s k v s' o (by rw [split]; simp) turn
              obtain ⟨moved, steps'⟩ := advance_turn split distinct steps turn left
              have distinct' : (keys (π s')).Nodup := by
                rw [left]
                exact (keys_put (π s) k u).nodup distinct
              have split' : π s' = kept ++ (u.map (k, ·)).toList ++ rest := by
                rw [left, split]
                exact put_cut cut u
              dsimp only
              rw [moved]
              dsimp only
              rw [ih split' distinct' less steps']
              simp only [swept, tryEach, turn]
              cases tryEach f s' rest <;> rfl

/-- `it = erase(it)` is sound, and every element has its turn. -/
theorem run_assign (own : Own π f) (s : σ) (distinct : (keys (π s)).Nodup) :
    run .assign π f s = swept f s (π s) :=
  scan_eq_swept own (List.nil_append (π s)).symm distinct (Nat.le_refl _) (.inl rfl)

/-- The step back leaves the container when its first element is erased. -/
theorem run_assignBack_erased {e : κ × β} {rest : List (κ × β)} {s s' : σ} {o : List ω}
    (start : π s = e :: rest) (distinct : (keys (π s)).Nodup) (turn : f s e = .ok (s', o))
    (erased : π s' = put (π s) e.1 none) :
    run .assignBack π f s = .error (.misuse .beforeFirst) := by
  obtain ⟨k, v⟩ := e
  rw [start] at distinct erased
  have here : read (π s) (some k) = .ok v := by
    have whole : read ([] ++ (k, v) :: rest) (some k) = .ok v := read_cut List.not_mem_nil
    rw [start]
    exact whole
  have moved : advance .assignBack (π s) (π s') k = .error .beforeFirst := by
    have whole : advance .assignBack ([] ++ (k, v) :: rest) (put ([] ++ (k, v) :: rest) k none) k =
        .error .beforeFirst := advance_erased distinct
    rw [start, erased]
    exact whole
  have begins : first (π s) = some k := by rw [start]; rfl
  have length : (π s).length = rest.length + 1 := by rw [start]; rfl
  rw [run, begins, length, scan, here]
  dsimp only
  rw [turn]
  dsimp only
  rw [moved]

/-- Otherwise it is sound, and every element has its turn. -/
theorem run_assignBack_kept (own : Own π f) {s : σ} (distinct : (keys (π s)).Nodup)
    (stays : ∀ e ∈ (π s).head?, ∀ s' o, f s e = .ok (s', o) → e.1 ∈ keys (π s')) :
    run .assignBack π f s = swept f s (π s) :=
  scan_eq_swept own (List.nil_append (π s)).symm distinct (Nat.le_refl _) (.inr ⟨rfl, fun _ => stays⟩)

/-- The loop that leaves after its first erasure. -/
theorem run_leave {γ : Type*} {h : κ × β → Option γ} {r : γ → σ × List ω} {s : σ}
    (distinct : (keys (π s)).Nodup) (passes : ∀ e ∈ π s, h e = none → f s e = .ok (s, []))
    (leaves : ∀ e ∈ π s, ∀ c ∈ h e, f s e = .ok (r c) ∧ π (r c).1 = put (π s) e.1 none) :
    ∃ visited, run .leave π f s =
      .ok (((π s).findSome? h).elim (s, [], visited) fun c => ((r c).1, (r c).2, visited)) := by
  have go (rest kept : List (κ × β)) (split : π s = kept ++ rest) (fuel : Nat) (enough : rest.length ≤ fuel) :
      ∃ visited, scan .leave π f fuel s (first rest) =
        .ok ((rest.findSome? h).elim (s, [], visited) fun c => ((r c).1, (r c).2, visited)) := by
    induction rest generalizing kept fuel with
    | nil => cases fuel <;> exact ⟨[], rfl⟩
    | cons e rest ih =>
        obtain ⟨k, v⟩ := e
        cases fuel with
        | zero => cases enough
        | succ fuel =>
            have cut : (keys (kept ++ (k, v) :: rest)).Nodup := split ▸ distinct
            have fresh := (apart_of_nodup cut).1
            have member : (k, v) ∈ π s := by rw [split]; simp
            have here : read (π s) (some k) = .ok v := by
              rw [split]
              exact read_cut fresh
            have start : first ((k, v) :: rest) = some k := rfl
            rw [start, scan, here]
            dsimp only
            rw [List.findSome?_cons]
            cases stop : h (k, v) with
            | none =>
                have moved : advance .leave (π s) (π s) k = .ok (first rest) := by
                  unfold advance
                  rw [split, if_pos (mem_keys_cut kept k v rest)]
                  exact next_cut fresh
                obtain ⟨visited, later⟩ := ih (kept ++ [(k, v)]) (by simp [split]) fuel (Nat.le_of_succ_le_succ enough)
                rw [passes (k, v) member stop]
                dsimp only
                rw [moved]
                dsimp only
                rw [later]
                refine ⟨k :: visited, ?_⟩
                cases rest.findSome? h <;> rfl
            | some c =>
                obtain ⟨turn, erased⟩ := leaves (k, v) member c stop
                have moved : advance .leave (π s) (π (r c).1) k = .ok none := by
                  rw [erased, split]
                  exact advance_erased cut
                rw [turn]
                dsimp only
                rw [moved]
                refine ⟨[k], ?_⟩
                cases fuel <;> simp [scan]
  exact go (π s) [] rfl _ (Nat.le_refl _)

end

/-! Maps and lists of objects as containers. -/

section
variable {κ β : Type} [DecidableEq κ] [Ord κ] [Std.TransOrd κ] [Std.LawfulEqOrd κ]

omit [DecidableEq κ] in
theorem keys_toList (m : OrdMap κ β) : (keys m.toList).Nodup := List.pairwise_map.mpr (toList_distinct m)

omit [DecidableEq κ] in
theorem mem_keys_toList (m : OrdMap κ β) (k : κ) : k ∈ keys m.toList ↔ m[k]?.isSome := by
  rw [keys, List.mem_map, Option.isSome_iff_exists]
  constructor
  · intro ⟨e, member, same⟩
    exact ⟨e.2, same ▸ mem_toList.mp member⟩
  · intro ⟨v, held⟩
    exact ⟨(k, v), mem_toList.mpr held, rfl⟩

theorem find_toList (m : OrdMap κ β) (k : κ) : find m.toList k = if m[k]?.isSome then some k else none := by
  simp only [find, mem_keys_toList]

theorem read_toList (m : OrdMap κ β) (k : κ) :
    read m.toList (some k) = m[k]?.elim (.error .erased) .ok := by
  cases held : m[k]? with
  | some v =>
      obtain ⟨kept, rest, split⟩ := List.append_of_mem (mem_toList.mpr held)
      have distinct := keys_toList m
      rw [split] at distinct ⊢
      exact read_cut (apart_of_nodup distinct).1
  | none =>
      have absent : m.toList.lookup k = none := by
        rw [List.lookup_eq_none_iff]
        intro e member
        have there : e.1 ∈ keys m.toList := List.mem_map_of_mem member
        rw [mem_keys_toList] at there
        have other : k ≠ e.1 := by
          intro same
          rw [← same, held] at there
          cases there
        exact bne_iff_ne.mpr other
      rw [read, absent]
      rfl

/-- What keeps the other entries of a map replaces or erases one. -/
theorem toList_put {m m' : OrdMap κ β} {k : κ} (present : m[k]?.isSome) (others : ∀ k', k ≠ k' → m'[k']? = m[k']?) :
    m'.toList = put m.toList k m'[k]? := by
  have same : m' = m.filterMap fun k' v => if k = k' then m'[k]? else some v := by
    apply Std.ExtTreeMap.ext_getElem?
    intro k'
    rw [Std.ExtTreeMap.getElem?_filterMap']
    by_cases here : k = k'
    · obtain ⟨v, held⟩ := Option.isSome_iff_exists.mp present
      rw [← here, held, Option.bind_some, if_pos rfl]
    · simp only [if_neg here]
      rw [others k' here]
      cases m[k']? <;> rfl
  have entries := congrArg Std.ExtTreeMap.toList same
  rw [Std.ExtTreeMap.toList_filterMap] at entries
  exact entries

theorem own_map {π : σ → OrdMap κ β} {f : σ → κ × β → Except φ (σ × List ω)}
    (others : ∀ s k v s' o, (π s)[k]? = some v → f s (k, v) = .ok (s', o) →
      ∀ k', k ≠ k' → (π s')[k']? = (π s)[k']?) : Own (fun s => (π s).toList) f := by
  intro s k v s' o member turn
  have held : (π s)[k]? = some v := mem_toList.mp member
  exact ⟨_, toList_put (by rw [held]; rfl) (others s k v s' o held turn)⟩

/-- The same for turns that cannot fault. -/
theorem own_map_forEach {π : σ → OrdMap κ β} {f : σ → κ × β → σ × List ω}
    (others : ∀ s k v k', k ≠ k' → (π (f s (k, v)).1)[k']? = (π s)[k']?) :
    Own (φ := φ) (fun s => (π s).toList) fun s entry => .ok (f s entry) := by
  refine own_map ?_
  intro s k v s' o _ turn k' other
  have left : (f s (k, v)).1 = s' := congrArg Prod.fst (Except.ok.inj turn)
  rw [← left]
  exact others s k v k' other

end

section
variable {τ α : Type*}

/-- The turn of a loop over objects, in the list with what it leaves of the object. -/
def objectTurn (f : τ → Nat → α → τ × Option α × List ω) (s : τ × List (Nat × α)) (e : Nat × α) :
    Except φ ((τ × List (Nat × α)) × List (Nat × ω)) :=
  let turn := f s.1 e.1 e.2
  .ok ((turn.1, put s.2 e.1 turn.2.1), turn.2.2.map (e.1, ·))

theorem objectTurn_own (f : τ → Nat → α → τ × Option α × List ω) :
    Own (φ := φ) Prod.snd (objectTurn f) := by
  intro s k v s' o _ turn
  cases turn
  exact ⟨_, rfl⟩

theorem tryEach_objectTurn (f : τ → Nat → α → τ × Option α × List ω) {kept l : List (Nat × α)} {s : τ}
    (distinct : (keys (kept ++ l)).Nodup) :
    tryEach (φ := φ) (objectTurn f) (s, kept ++ l) l =
      .ok (((Registry.loop f s l).1, kept ++ (Registry.loop f s l).2.1), (Registry.loop f s l).2.2) := by
  induction l generalizing kept s with
  | nil => simp [Registry.loop]
  | cons e l ih =>
      obtain ⟨r, a⟩ := e
      have cut := put_cut distinct (f s r a).2.1
      have distinct' := (keys_put (kept ++ (r, a) :: l) r (f s r a).2.1).nodup distinct
      rw [cut] at distinct'
      have turn : objectTurn (φ := φ) f (s, kept ++ (r, a) :: l) (r, a) =
          .ok (((f s r a).1, kept ++ ((f s r a).2.1.map (r, ·)).toList ++ l), (f s r a).2.2.map (r, ·)) := by
        rw [objectTurn, cut]
      rw [tryEach, turn]
      dsimp only
      rw [ih distinct']
      simp only [Registry.loop, List.append_assoc]

end

end Cursor
