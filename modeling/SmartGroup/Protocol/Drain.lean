import Mathlib.Algebra.Order.BigOperators.Group.List
import SmartGroup.Protocol.Pool

/-! What the loop over the pool comes to. Before `m_index` every socket is empty, and that
stays so whatever is released, until the index comes to the end and the pool is read again. -/
namespace SmartGroup
open Bytes Cursor

namespace DExtraPool

/-- The pool is cut where the index stands. -/
structure At (p : DExtraPool) (done rest : List (Nat × PoolMember)) : Prop where
  cut : p.handlers = done ++ rest
  index : p.index = first rest

/-- `read` passed the handlers and found no packet at them. -/
abbrev Passed : List (Nat × PoolMember) → List (Nat × PoolMember) → Prop :=
  List.Forall₂ fun e e' => e'.1 = e.1 ∧ e.2.handler.Exhausted e.2.queue e'.2

theorem At.set {p : DExtraPool} {done tail : List (Nat × PoolMember)} {e : Nat × PoolMember}
    (here : p.At done (e :: tail)) (m : PoolMember) :
    (p.set e.1 (some m)).handlers = done ++ (e.1, m) :: tail := by
  have distinct := p.distinct
  rw [here.cut] at distinct
  change Cursor.put p.handlers e.1 (some m) = _
  rw [here.cut, put_cut distinct]
  simp

/-- The loop stops at the first handler that has a packet. -/
theorem readFrom_cases {p : DExtraPool} {done rest : List (Nat × PoolMember)} (here : p.At done rest)
    {fuel : Nat} (enough : rest.length ≤ fuel) :
    (∃ p₁ passed, readFrom fuel p = .ok (.none, p₁) ∧ Passed rest passed ∧ p₁.At (done ++ passed) []) ∨
    ∃ p₁ skipped e tail passed m, readFrom fuel p = .ok (m.handler.type, p₁) ∧
      rest = skipped ++ e :: tail ∧ Passed skipped passed ∧ e.2.handler.Found e.2.queue m ∧
      p₁.At (done ++ passed) ((e.1, m) :: tail) := by
  induction rest generalizing p done fuel with
  | nil =>
      have ended : p.index = none := here.index
      refine .inl ⟨p, [], ?_, .nil, by rwa [List.append_nil]⟩
      cases fuel <;> simp [readFrom, ended]
  | cons e tail ih =>
      obtain ⟨fuel, rfl⟩ : ∃ k, fuel = k + 1 := ⟨fuel - 1, by
        rw [List.length_cons] at enough
        omega⟩
      have started : p.index = some e.1 := here.index
      have distinct := p.distinct
      rw [here.cut] at distinct
      have fresh := (apart_of_nodup distinct).1
      have at_it : Cursor.read p.handlers (some e.1) = .ok e.2 := by
        rw [here.cut]
        exact read_cut fresh
      obtain ⟨m, left, outcome⟩ := e.2.handler.read_cases e.2.queue
      have stored := here.set m
      rcases outcome with exhausted | found
      · have moved : next (p.set e.1 (some m)).handlers (some e.1) = .ok (first tail) := by
          rw [stored]
          exact next_cut fresh
        have there : At { p.set e.1 (some m) with index := first tail } (done ++ [(e.1, m)]) tail :=
          ⟨by rw [List.append_assoc]; exact stored, rfl⟩
        have step : readFrom (fuel + 1) p =
            readFrom fuel { p.set e.1 (some m) with index := first tail } := by
          rw [readFrom, started]
          simp only [at_it, left, exhausted.type, ne_eq, not_true_eq_false, if_false, moved]
        rw [List.length_cons, Nat.succ_le_succ_iff] at enough
        rw [step]
        rcases ih there enough with ⟨p₁, passed, ended, all, last⟩ |
          ⟨p₁, skipped, e', tail', passed, m', stopped, rfl, all, found, last⟩
        · refine .inl ⟨p₁, (e.1, m) :: passed, ended, .cons ⟨rfl, exhausted⟩ all, ?_⟩
          rwa [List.append_assoc] at last
        · refine .inr ⟨p₁, e :: skipped, e', tail', (e.1, m) :: passed, m', stopped, rfl,
            .cons ⟨rfl, exhausted⟩ all, found, ?_⟩
          rwa [List.append_assoc] at last
      · refine .inr ⟨p.set e.1 (some m), [], e, tail, [], m, ?_, rfl, .nil, found, ?_⟩
        · rw [readFrom, started]
          simp only [at_it, left, found.type, ne_eq, not_false_eq_true, if_true]
        · exact ⟨by rw [List.append_nil]; exact stored, started⟩

theorem Passed.exists_left {skipped passed : List (Nat × PoolMember)} (all : Passed skipped passed) :
    ∀ e ∈ skipped, ∃ e' ∈ passed, e'.1 = e.1 ∧ e.2.handler.Exhausted e.2.queue e'.2 := by
  induction all with
  | nil => exact List.forall_mem_nil _
  | cons here later ih =>
      refine List.forall_mem_cons.mpr ⟨⟨_, List.mem_cons_self, here⟩, fun e member => ?_⟩
      obtain ⟨e', found, known⟩ := ih e member
      exact ⟨e', List.mem_cons_of_mem _ found, known⟩

theorem Passed.exists_right {skipped passed : List (Nat × PoolMember)} (all : Passed skipped passed) :
    ∀ e' ∈ passed, ∃ e ∈ skipped, e'.1 = e.1 ∧ e.2.handler.Exhausted e.2.queue e'.2 := by
  induction all with
  | nil => exact List.forall_mem_nil _
  | cons here later ih =>
      refine List.forall_mem_cons.mpr ⟨⟨_, List.mem_cons_self, here⟩, fun e' member => ?_⟩
      obtain ⟨e, found, known⟩ := ih e' member
      exact ⟨e, List.mem_cons_of_mem _ found, known⟩

/-- `read` begins where the index stands, or at the first handler. -/
theorem read_start {p : DExtraPool} {done rest : List (Nat × PoolMember)} (here : p.At done rest) :
    ∃ p₀ done₀ rest₀, p.read = readFrom p.handlers.length p₀ ∧ p₀.At done₀ rest₀ ∧
      p₀.handlers = p.handlers ∧
      (rest = [] ∧ done₀ = [] ∨ rest ≠ [] ∧ done₀ = done ∧ rest₀ = rest) := by
  cases rest with
  | nil =>
      have ended : p.index = none := here.index
      refine ⟨{ p with index := first p.handlers }, [], p.handlers, ?_, ⟨rfl, rfl⟩, rfl, .inl ⟨rfl, rfl⟩⟩
      simp only [read, ended, if_true]
  | cons e tail =>
      have started : p.index = some e.1 := here.index
      refine ⟨p, done, e :: tail, ?_, here, rfl, .inr ⟨List.cons_ne_nil _ _, rfl, rfl⟩⟩
      simp [read, started]

theorem newPacket_at {p : DExtraPool} {done tail : List (Nat × PoolMember)} {port : Nat} {m : PoolMember}
    (here : p.At done ((port, m) :: tail)) (type : DExtraType) :
    (∀ packet, m.handler.newPacket type = .ok packet → p.newPacket type = .ok packet) ∧
      ∀ e, m.handler.newPacket type = .error e → p.newPacket type = .error (.fault e) := by
  have started : p.index = some port := here.index
  have distinct := p.distinct
  rw [here.cut] at distinct
  have at_it : Cursor.read p.handlers p.index = .ok m := by
    rw [started, here.cut]
    exact read_cut (apart_of_nodup distinct).1
  constructor
  · intro packet decoded
    simp only [newPacket, at_it, decoded]
  · intro e failed
    simp only [newPacket, at_it, failed]

/-! A loop that releases nothing leaves what it has passed. -/

/-- Processing that releases nothing. -/
def keepAll (_ : Unit) (_ : DExtraData) : Unit × List Nat := ((), [])

theorem elim_keepAll (packet : Option DExtraData) : packet.elim ((), []) (keepAll ()) = ((), []) := by
  cases packet <;> rfl

def Readable (e : Nat × PoolMember) : Prop := DExtraProtocolHandler.Readable e.2.handler.buffer e.2.queue

theorem readable_of_keepAll {fuel n : Nat} {s' : Unit} {p p₀ p' : DExtraPool} {turns : List PoolTurn}
    {done rest : List (Nat × PoolMember)} (start : p.read = readFrom n p₀) (here : p₀.At done rest)
    (enough : rest.length ≤ n) (ran : processDExtra keepAll fuel () p = .ok (s', p', turns)) :
    ∃ left, p'.handlers = done ++ left ∧
      ((∀ e ∈ left, e.2.queue = []) → ∀ e ∈ rest, Readable e) := by
  induction fuel generalizing p p₀ done rest n turns with
  | zero => cases ran
  | succ fuel ih =>
      rw [processDExtra, start] at ran
      rcases readFrom_cases here enough with ⟨p₁, passed, ended, all, there⟩ |
        ⟨p₁, skipped, e, tail, passed, m, stopped, rfl, all, found, there⟩
      · simp only [ended, if_true, Except.ok.injEq, Prod.mk.injEq] at ran
        obtain ⟨-, rfl, -⟩ := ran
        refine ⟨passed, there.cut.trans (List.append_nil _), fun empty e member => ?_⟩
        obtain ⟨e', passed_by, -, exhausted⟩ := all.exists_left e member
        exact exhausted.readable.mpr (empty e' passed_by)
      · simp only [stopped, if_neg found.type] at ran
        obtain ⟨decoded, failed⟩ := newPacket_at there m.handler.type
        cases packet : m.handler.newPacket m.handler.type with
        | error e =>
            rw [failed e packet] at ran
            cases ran
        | ok packet' =>
            simp only [decoded packet' packet, elim_keepAll, releaseAll] at ran
            cases later : processDExtra keepAll fuel () p₁ with
            | error e =>
                rw [later] at ran
                cases ran
            | ok result =>
                obtain ⟨s'', p'', turns'⟩ := result
                simp only [later, Except.ok.injEq, Prod.mk.injEq] at ran
                obtain ⟨-, rfl, -⟩ := ran
                have restart : p₁.read = readFrom p₁.handlers.length p₁ := by
                  have started : p₁.index = some e.1 := there.index
                  simp [read, started]
                have room : ((e.1, m) :: tail).length ≤ p₁.handlers.length := by
                  rw [there.cut, List.length_append]
                  omega
                obtain ⟨left, same, readable⟩ := ih restart there room later
                refine ⟨passed ++ left, by rw [same, List.append_assoc], fun empty => ?_⟩
                obtain ⟨front, rear⟩ := List.forall_mem_append.mp empty
                obtain ⟨first_readable, tail_readable⟩ := List.forall_mem_cons.mp (readable rear)
                refine List.forall_mem_append.mpr ⟨fun e' member => ?_,
                  List.forall_mem_cons.mpr ⟨?_, tail_readable⟩⟩
                · obtain ⟨e'', passed_by, -, exhausted⟩ := all.exists_left e' member
                  exact exhausted.readable.mpr (front e'' passed_by)
                · exact found.readable.mpr ⟨⟨packet', packet⟩, first_readable⟩

/-! Releases. -/

def AllEmpty (l : List (Nat × PoolMember)) : Prop := ∀ e ∈ l, e.2.queue = []

/-- The sockets before the index are empty; at the end there may be packets again. -/
structure Swept (p : DExtraPool) (done rest : List (Nat × PoolMember)) : Prop extends p.At done rest where
  empty : rest ≠ [] → AllEmpty done

/-- `m_index` refers to a handler of the pool. -/
def Valid (p : DExtraPool) : Prop := ∀ port ∈ p.index, port ∈ keys p.handlers

theorem At.valid {p : DExtraPool} {done rest : List (Nat × PoolMember)} (here : p.At done rest) : p.Valid := by
  intro port stands
  rw [here.index] at stands
  rw [here.cut, keys_append]
  obtain ⟨e, head, rfl⟩ := Option.map_eq_some_iff.mp stands
  exact List.mem_append_right _ (List.mem_map_of_mem (List.mem_of_mem_head? head))

theorem put_none {κ β : Type} [DecidableEq κ] (l : List (κ × β)) (k : κ) :
    Cursor.put l k none = l.filter fun e => k ≠ e.1 := by
  rw [Cursor.put, ← List.filterMap_eq_filter]
  congr 1
  funext e
  by_cases here : k = e.1 <;> simp [here, Option.guard]

/-- A handler before the index goes, the one at it, or one behind. -/
theorem Swept.release {p : DExtraPool} {done rest : List (Nat × PoolMember)} (swept : p.Swept done rest)
    (port : Nat) :
    ∃ q done' rest', p.release port = .ok q ∧ q.Swept done' rest' ∧ q.handlers.Sublist p.handlers := by
  by_cases present : port ∈ keys p.handlers
  · have fewer : (Cursor.put p.handlers port none).Sublist p.handlers := by
      rw [put_none]
      exact List.filter_sublist
    have parts : Cursor.put p.handlers port none = Cursor.put done port none ++ Cursor.put rest port none := by
      rw [swept.cut, put_none, put_none, put_none, List.filter_append]
    have drained (some_left : rest ≠ []) : AllEmpty (Cursor.put done port none) := by
      intro e member
      rw [put_none] at member
      exact swept.empty some_left e (List.mem_of_mem_filter member)
    by_cases stands : p.index = some port
    · cases rest with
      | nil =>
          rw [swept.index] at stands
          cases stands
      | cons e tail =>
          have same : port = e.1 := by
            rw [swept.index] at stands
            exact (Option.some.inj stands).symm
          have distinct := p.distinct
          rw [swept.cut] at distinct
          have fresh := (apart_of_nodup distinct).1
          have moved : next p.handlers p.index = .ok (first tail) := by
            rw [stands, same, swept.cut]
            exact next_cut fresh
          have kept : Cursor.put p.handlers port none = done ++ tail := by
            rw [same, swept.cut, put_cut distinct]
            simp
          refine ⟨{ p.set port none with index := first tail }, done, tail, ?_,
            ⟨⟨kept, rfl⟩, fun _ => swept.empty (List.cons_ne_nil _ _)⟩, fewer⟩
          rw [DExtraPool.release, if_pos present, if_pos stands, moved]
          rfl
    · refine ⟨p.set port none, Cursor.put done port none, Cursor.put rest port none, ?_,
        ⟨⟨parts, ?_⟩, fun some_left => drained ?_⟩, fewer⟩
      · rw [DExtraPool.release, if_pos present, if_neg stands]
        rfl
      · cases rest with
        | nil => exact swept.index
        | cons e tail =>
            have other : port ≠ e.1 := by
              rintro rfl
              exact stands swept.index
            rw [put_none, List.filter_cons_of_pos (by simpa using other)]
            exact swept.index
      · rintro rfl
        exact some_left rfl
  · exact ⟨p, done, rest, if_neg present, swept, List.Sublist.refl _⟩

theorem Swept.releaseAll {p : DExtraPool} {done rest : List (Nat × PoolMember)} (swept : p.Swept done rest)
    (ports : List Nat) :
    ∃ q released done' rest', p.releaseAll ports = .ok (q, released) ∧ q.Swept done' rest' ∧
      q.handlers.Sublist p.handlers ∧ ∀ r ∈ released, r.Valid := by
  induction ports generalizing p done rest with
  | nil => exact ⟨p, [], done, rest, rfl, swept, List.Sublist.refl _, List.forall_mem_nil _⟩
  | cons port ports ih =>
      obtain ⟨q, done₁, rest₁, released₁, swept₁, fewer₁⟩ := swept.release port
      obtain ⟨q', released, done₂, rest₂, later, swept₂, fewer₂, valid⟩ := ih swept₁
      refine ⟨q', q :: released, done₂, rest₂, ?_, swept₂, fewer₂.trans fewer₁,
        List.forall_mem_cons.mpr ⟨swept₁.valid, valid⟩⟩
      rw [DExtraPool.releaseAll, released₁]
      simp only [bind, Except.bind, later]
      rfl

/-! Draining. -/

/-- What the handler at the port has decoded in the turns. -/
def decodedBy (port : Nat) (turns : List PoolTurn) : List (Option DExtraData) :=
  (turns.filter fun t => t.pool.index = some port).map (·.packet)

/-- The datagrams that wait. -/
def waiting (l : List (Nat × PoolMember)) : Nat := (l.map fun e => e.2.queue.length).sum

/-- What the loop ends with: the sockets of the handlers left are empty, `m_index` was never
that of a released handler, and each handler decoded its own packets in their order, all of
them where it is still in the pool. -/
structure Drained (p p' : DExtraPool) (turns : List PoolTurn) : Prop where
  empty : AllEmpty p'.handlers
  fewer : keys p'.handlers ⊆ keys p.handlers
  valid : p'.Valid
  steady : ∀ t ∈ turns, t.pool.Valid ∧ ∀ q ∈ t.released, q.Valid
  receivers : ∀ t ∈ turns, ∃ port ∈ t.pool.index, port ∈ keys p.handlers
  packets : ∀ e ∈ p.handlers, ∃ all, e.2.handler.packets e.2.queue = .ok all ∧
    decodedBy e.1 turns <+: all ∧ (e.1 ∈ keys p'.handlers → decodedBy e.1 turns = all)

theorem Passed.allEmpty {skipped passed : List (Nat × PoolMember)} (all : Passed skipped passed)
    (readable : ∀ e ∈ skipped, Readable e) : AllEmpty passed := by
  intro e' member
  obtain ⟨e, there, -, exhausted⟩ := all.exists_right e' member
  exact exhausted.readable.mp (readable e there)

theorem Passed.keys_eq {skipped passed : List (Nat × PoolMember)} (all : Passed skipped passed) :
    keys passed = keys skipped := by
  induction all with
  | nil => rfl
  | cons here later ih =>
      simp only [keys, List.map_cons] at ih ⊢
      rw [here.1, ih]

theorem Passed.waiting_le {skipped passed : List (Nat × PoolMember)} (all : Passed skipped passed) :
    waiting passed ≤ waiting skipped := by
  induction all with
  | nil => exact Nat.le_refl _
  | cons here later ih =>
      have fewer := here.2.fewer
      simp only [waiting, List.map_cons, List.sum_cons] at ih ⊢
      omega

theorem waiting_append (l l' : List (Nat × PoolMember)) : waiting (l ++ l') = waiting l + waiting l' := by
  simp [waiting]

theorem decodedBy_cons {port at_port : Nat} {t : PoolTurn} (stands : t.pool.index = some at_port)
    (turns : List PoolTurn) :
    decodedBy port (t :: turns) = (if port = at_port then [t.packet] else []) ++ decodedBy port turns := by
  unfold decodedBy
  by_cases here : port = at_port
  · rw [List.filter_cons_of_pos (by simp [stands, here])]
    simp [here]
  · rw [List.filter_cons_of_neg (by simpa [stands] using Ne.symm here)]
    simp [here]

/-- One call of `read` that finds a packet, with its decoding: what each handler still has to
decode. -/
theorem Passed.served {p p₁ : DExtraPool} {done skipped passed tail : List (Nat × PoolMember)}
    {e : Nat × PoolMember} {m : PoolMember} {packet : Option DExtraData}
    (all : Passed skipped passed) (cut : p.handlers = done ++ (skipped ++ e :: tail))
    (found : e.2.handler.Found e.2.queue m) (there : p₁.At (done ++ passed) ((e.1, m) :: tail))
    (decoded : m.handler.newPacket m.handler.type = .ok packet)
    (readable : ∀ e ∈ skipped, Readable e) :
    ∀ x ∈ p.handlers, ∃ m₁, (x.1, m₁) ∈ p₁.handlers ∧
      ∀ rest, m₁.handler.packets m₁.queue = .ok rest →
        x.2.handler.packets x.2.queue = .ok ((if x.1 = e.1 then [packet] else []) ++ rest) := by
  have distinct := p.distinct
  rw [cut, ← List.append_assoc] at distinct
  obtain ⟨before, behind⟩ := apart_of_nodup distinct
  have other {x : Nat × PoolMember} {l : List (Nat × PoolMember)} (member : x ∈ l) (fresh : e.1 ∉ keys l) :
      x.1 ≠ e.1 := fun same => fresh (same ▸ List.mem_map_of_mem member)
  intro x member
  rw [cut] at member
  rw [there.cut]
  rcases List.mem_append.mp member with early | late
  · have apart := other (List.mem_append_left skipped early) before
    exact ⟨x.2, by simp [early], fun rest known => by rw [if_neg apart]; exact known⟩
  · rcases List.mem_append.mp late with passing | here
    · have apart := other (List.mem_append_right done passing) before
      obtain ⟨x', passed_by, same, exhausted⟩ := all.exists_left x passing
      have drained := exhausted.readable.mp (readable x passing)
      refine ⟨x'.2, by simp [← same, passed_by], fun rest known => ?_⟩
      rw [drained] at known
      cases known
      rw [if_neg apart]
      exact exhausted.packets drained
    · rcases List.mem_cons.mp here with rfl | later
      · refine ⟨m, by simp, fun rest known => ?_⟩
        rw [if_pos rfl, found.packets, decoded, ok_bind, known]
        rfl
      · have apart := other later behind
        exact ⟨x.2, by simp [later], fun rest known => by rw [if_neg apart]; exact known⟩

theorem eq_of_keys {l : List (Nat × PoolMember)} (distinct : (keys l).Nodup) {port : Nat} {m m' : PoolMember}
    (here : (port, m) ∈ l) (there : (port, m') ∈ l) : m = m' :=
  congrArg Prod.snd (List.inj_on_of_nodup_map distinct here there rfl)

/-- A turn before a run that drains the pool. -/
theorem Drained.turn {p p₁ q p' : DExtraPool} {turns : List PoolTurn} {t : PoolTurn} {at_port : Nat}
    (rest : Drained q p' turns) (pool : t.pool = p₁) (stands : p₁.index = some at_port) (valid : p₁.Valid)
    (released : ∀ r ∈ t.released, r.Valid) (same : keys p₁.handlers = keys p.handlers)
    (fewer : q.handlers.Sublist p₁.handlers) (readable : ∀ e ∈ p₁.handlers, Readable e)
    (served : ∀ x ∈ p.handlers, ∃ m₁, (x.1, m₁) ∈ p₁.handlers ∧
      ∀ later, m₁.handler.packets m₁.queue = .ok later →
        x.2.handler.packets x.2.queue = .ok ((if x.1 = at_port then [t.packet] else []) ++ later)) :
    Drained p p' (t :: turns) := by
  subst pool
  have ports : keys q.handlers ⊆ keys p.handlers := same ▸ (fewer.map Prod.fst).subset
  refine ⟨rest.empty, List.Subset.trans rest.fewer ports, rest.valid,
    List.forall_mem_cons.mpr ⟨⟨valid, released⟩, rest.steady⟩,
    List.forall_mem_cons.mpr ⟨⟨at_port, stands, same ▸ valid at_port stands⟩, ?_⟩, fun x member => ?_⟩
  · intro t' later
    obtain ⟨port, there, known⟩ := rest.receivers t' later
    exact ⟨port, there, ports known⟩
  · obtain ⟨m₁, here, continues⟩ := served x member
    rw [decodedBy_cons stands]
    by_cases stays : x.1 ∈ keys q.handlers
    · obtain ⟨e, there, key⟩ := List.mem_map.mp stays
      have kept : (x.1, e.2) ∈ q.handlers := key ▸ there
      obtain rfl := eq_of_keys t.pool.distinct here (fewer.subset kept)
      obtain ⟨all, decoded, front, complete⟩ := rest.packets _ kept
      exact ⟨_, continues all decoded, (List.prefix_append_right_inj _).mpr front,
        fun last => congrArg (_ ++ ·) (complete last)⟩
    · have silent : decodedBy x.1 turns = [] := by
        rw [decodedBy, List.map_eq_nil_iff, List.filter_eq_nil_iff]
        intro t' later stands'
        obtain ⟨port, there, known⟩ := rest.receivers t' later
        rw [of_decide_eq_true stands'] at there
        cases there
        exact stays known
      obtain ⟨all, decoded⟩ := DExtraProtocolHandler.completes_packets (readable _ here)
      refine ⟨_, continues all decoded, (List.prefix_append_right_inj _).mpr ?_, fun last => ?_⟩
      · rw [silent]
        exact List.nil_prefix
      · exact absurd (rest.fewer last) stays

/-- A round of the pool without a packet is the last. -/
theorem Drained.last {p p₁ : DExtraPool} {done rest passed : List (Nat × PoolMember)}
    (cut : p.handlers = done ++ rest) (there : p₁.At (done ++ passed) []) (empty : AllEmpty done)
    (all : Passed rest passed) (readable : ∀ e ∈ rest, Readable e) : Drained p p₁ [] := by
  have left : p₁.handlers = done ++ passed := there.cut.trans (List.append_nil _)
  refine ⟨?_, ?_, there.valid, List.forall_mem_nil _, List.forall_mem_nil _, ?_⟩
  · rw [left]
    exact List.forall_mem_append.mpr ⟨empty, all.allEmpty readable⟩
  · rw [left, cut, keys_append, keys_append, all.keys_eq]
    exact List.Subset.refl _
  · intro x member
    have nothing : x.2.handler.packets x.2.queue = .ok [] := by
      rw [cut] at member
      rcases List.mem_append.mp member with early | late
      · rw [empty x early]
        rfl
      · obtain ⟨x', -, -, exhausted⟩ := all.exists_left x late
        exact exhausted.packets (exhausted.readable.mp (readable x late))
    exact ⟨[], nothing, List.nil_prefix, fun _ => rfl⟩

theorem waiting_le_of_sublist {l l' : List (Nat × PoolMember)} (fewer : l.Sublist l') :
    waiting l ≤ waiting l' :=
  (fewer.map fun e : Nat × PoolMember => e.2.queue.length).sum_le_sum fun _ _ => Nat.zero_le _

/-- Every turn takes a datagram. -/
theorem Passed.waiting_lt {skipped passed tail : List (Nat × PoolMember)} {e : Nat × PoolMember}
    {m : PoolMember} (all : Passed skipped passed) (found : e.2.handler.Found e.2.queue m) :
    waiting (passed ++ (e.1, m) :: tail) < waiting (skipped ++ e :: tail) := by
  have read := all.waiting_le
  have one := found.fewer
  simp only [waiting_append]
  simp only [waiting, List.map_cons, List.sum_cons] at read ⊢
  omega

/-- Readable sockets are drained, whatever processing does. -/
theorem drained_of_readable {σ : Type} (process : σ → DExtraData → σ × List Nat) (s : σ) {p : DExtraPool}
    {done rest : List (Nat × PoolMember)} (swept : p.Swept done rest)
    (readable : ∀ e ∈ p.handlers, Readable e) :
    ∃ fuel s' p' turns, processDExtra process fuel s p = .ok (s', p', turns) ∧ Drained p p' turns := by
  induction size : waiting p.handlers using Nat.strong_induction_on generalizing s p done rest with
  | h size ih =>
      subst size
      obtain ⟨p₀, done₀, rest₀, start, here, same, place⟩ := read_start swept.toAt
      have cut : p.handlers = done₀ ++ rest₀ := same ▸ here.cut
      have enough : rest₀.length ≤ p.handlers.length := by
        rw [cut, List.length_append]
        omega
      have empty₀ : AllEmpty done₀ := by
        rcases place with ⟨-, rfl⟩ | ⟨some_left, rfl, -⟩
        · exact List.forall_mem_nil _
        · exact swept.empty some_left
      rw [cut] at readable
      obtain ⟨readable_done, readable_rest⟩ := List.forall_mem_append.mp readable
      rcases readFrom_cases here enough with ⟨p₁, passed, ended, all, there⟩ |
        ⟨p₁, skipped, e, tail, passed, m, stopped, rfl, all, found, there⟩
      · refine ⟨1, s, p₁, [], ?_, .last cut there empty₀ all readable_rest⟩
        rw [processDExtra, start]
        simp only [ended, if_true]
      · obtain ⟨readable_skipped, readable_here⟩ := List.forall_mem_append.mp readable_rest
        obtain ⟨readable_e, readable_tail⟩ := List.forall_mem_cons.mp readable_here
        obtain ⟨⟨packet, decoded⟩, readable_m⟩ := found.readable.mp readable_e
        have passed_empty := all.allEmpty readable_skipped
        have readable₁ : ∀ x ∈ p₁.handlers, Readable x := by
          rw [there.cut, List.append_assoc]
          refine List.forall_mem_append.mpr ⟨readable_done, List.forall_mem_append.mpr
            ⟨fun x member => ?_, List.forall_mem_cons.mpr ⟨readable_m, readable_tail⟩⟩⟩
          rw [Readable, passed_empty x member]
          trivial
        have swept₁ : p₁.Swept (done₀ ++ passed) ((e.1, m) :: tail) :=
          ⟨there, fun _ => List.forall_mem_append.mpr ⟨empty₀, passed_empty⟩⟩
        obtain ⟨q, released, done₂, rest₂, done_releasing, swept₂, fewer, valid⟩ :=
          swept₁.releaseAll (packet.elim (s, []) (process s)).2
        have less : waiting q.handlers < waiting p.handlers := by
          refine Nat.lt_of_le_of_lt (waiting_le_of_sublist fewer) ?_
          rw [cut, there.cut, List.append_assoc, waiting_append, waiting_append done₀]
          exact Nat.add_lt_add_left (all.waiting_lt found) _
        have same₁ : keys p₁.handlers = keys p.handlers := by
          rw [there.cut, cut, List.append_assoc]
          simp only [keys_append, all.keys_eq]
          rfl
        obtain ⟨fuel, s', p', turns, ran, drained⟩ := ih _ less (packet.elim (s, []) (process s)).1 swept₂
          (fun x member => readable₁ x (fewer.subset member)) rfl
        have stands : p₁.index = some e.1 := there.index
        refine ⟨fuel + 1, s', p', ⟨p₁, packet, released⟩ :: turns, ?_,
          drained.turn rfl stands swept₁.valid valid same₁ fewer readable₁
            (all.served cut found there decoded readable_skipped)⟩
        rw [processDExtra, start]
        simp only [stopped, if_neg found.type, (newPacket_at there _).1 packet decoded, done_releasing, ran]

theorem readable_of_drained {p : DExtraPool} (at_end : p.index = none)
    (drains : ∃ fuel s' p' turns, processDExtra keepAll fuel () p = .ok (s', p', turns) ∧ Drained p p' turns) :
    ∀ e ∈ p.handlers, Readable e := by
  obtain ⟨fuel, s', p', turns, ran, drained⟩ := drains
  have here : p.At p.handlers [] := ⟨(List.append_nil _).symm, at_end⟩
  obtain ⟨p₀, done₀, rest₀, start, there, same, ⟨-, rfl⟩ | ⟨more, -⟩⟩ := read_start here
  · have all : rest₀ = p.handlers := same ▸ there.cut.symm
    subst all
    obtain ⟨left, cut, readable⟩ := readable_of_keepAll start there (Nat.le_refl _) ran
    have empty := drained.empty
    rw [cut, List.nil_append] at empty
    exact readable empty
  · exact absurd rfl more

/-- The pool is drained under all processing exactly when every socket can be read to its end. -/
theorem pool_drained_iff (p : DExtraPool) (at_end : p.index = none) :
    (∀ (σ : Type) (process : σ → DExtraData → σ × List Nat) (s : σ), ∃ fuel s' p' turns,
      processDExtra process fuel s p = .ok (s', p', turns) ∧ Drained p p' turns) ↔
      ∀ e ∈ p.handlers, DExtraProtocolHandler.Readable e.2.handler.buffer e.2.queue := by
  constructor
  · intro drains
    exact readable_of_drained at_end (drains Unit keepAll ())
  · intro readable σ process s
    have swept : p.Swept p.handlers [] :=
      ⟨⟨(List.append_nil _).symm, at_end⟩, fun more => absurd rfl more⟩
    exact drained_of_readable process s swept readable

def pollPacket : Datagram := ⟨str "XRF001  " ++ [0], str "44.1.2.3", 30001⟩

/-- Two handlers, with packets at both sockets. -/
def busyPool : DExtraPool where
  handlers := [(40001, ⟨.init .inet 40001, [pollPacket, pollPacket]⟩),
    (40002, ⟨.init .inet 40002, [pollPacket]⟩)]
  index := none
  distinct := by decide

theorem busyPool_drained : ∃ fuel s' p' turns,
    processDExtra keepAll fuel () busyPool = .ok (s', p', turns) ∧ Drained busyPool p' turns :=
  (pool_drained_iff busyPool rfl).mpr (by decide +kernel) Unit keepAll ()

/-- An empty datagram stands before a poll. -/
def stuckPool : DExtraPool where
  handlers := [(40001, ⟨.init .inet 40001, [⟨[], str "44.1.2.3", 30001⟩, pollPacket]⟩)]
  index := none
  distinct := by decide

theorem stuckPool_not_drained : ¬∃ fuel s' p' turns,
    processDExtra keepAll fuel () stuckPool = .ok (s', p', turns) ∧ Drained stuckPool p' turns := by
  intro drains
  have stuck : ¬∀ e ∈ stuckPool.handlers, DExtraProtocolHandler.Readable e.2.handler.buffer e.2.queue := by
    decide +kernel
  exact stuck (readable_of_drained rfl drains)

end DExtraPool
end SmartGroup
