import SmartGroup.Group.StepCase
import SmartGroup.Group.Routing

/-! The current stream: `m_id` as its lock and `m_repeaters` as its list. -/
namespace SmartGroup
open Bytes Sweep Objects Machine

namespace GroupHandler

/-! The list of an idle group. -/

/-- An idle group has no list of repeaters. -/
def IdleClear (g : GroupHandler) : Prop := g.id = 0 → g.repeaters = ∅

/-- The first of the pending ids that a user owns. -/
def FirstId (g : GroupHandler) (r k : Nat) (tx : SGSId) : Prop :=
  g.Pending k tx ∧ tx.user = r ∧ ∀ k' tx', g.Pending k' tx' → tx'.user = r → k ≤ k'

theorem firstOwned_iff (g : GroupHandler) (r k : Nat) (tx : SGSId) :
    g.firstOwned r = some (k, tx) ↔ g.FirstId r k tx := by
  have least {k : Nat} {tx : SGSId} (found : g.firstOwned r = some (k, tx)) : g.FirstId r k tx := by
    obtain ⟨pending, owner⟩ := firstOwned_some found
    refine ⟨pending, owner, fun k' tx' pending' owner' => ?_⟩
    obtain ⟨skipped, entry, later, split, taken, before⟩ := List.findSome?_eq_some_iff.mp found
    have head : entry.1 = k := by
      obtain ⟨k₀, held⟩ := entry
      dsimp only at taken
      split at taken
      · split at taken
        · exact (Prod.mk.inj (Option.some.inj taken)).1
        · cases taken
      · cases taken
    have sorted := Std.ExtTreeMap.ordered_keys_toList (t := g.ids)
    rw [split, List.pairwise_append, List.pairwise_cons] at sorted
    have member : (k', some tx') ∈ g.ids.toList := mem_toList.mpr pending'
    rw [split, List.mem_append, List.mem_cons] at member
    rcases member with earlier | here | after
    · have passed := before _ earlier
      simp [owner'] at passed
    · rw [← head, ← here]
    · have above := sorted.2.1.1 _ after
      rw [head, Nat.compare_eq_lt] at above
      exact Nat.le_of_lt above
  refine ⟨least, fun first => ?_⟩
  obtain ⟨pending, owner, below⟩ := first
  cases found : g.firstOwned r with
  | none => exact absurd owner (firstOwned_none found pending)
  | some entry =>
      obtain ⟨k₁, tx₁⟩ := entry
      obtain ⟨pending₁, owner₁, below₁⟩ := least found
      have same : k₁ = k := Nat.le_antisymm (below₁ k tx pending owner) (below k₁ tx₁ pending₁ owner₁)
      subst same
      rw [Pending, pending₁] at pending
      cases pending
      rfl

/-- No header with stream id zero fills a list, and no user is logged off whose first
pending id is the current stream's while others stay and the list is not empty. -/
def ListKept : GroupHandler → GroupEvent → Prop
  | g, .g2Header env header => g.Accepts header → g.Opens header → header.getId = 0 →
      ∀ k, g.ListensAt env header k → k = env.findUserRepeater header.myCall1
  | g, .reflectorHeader env header => g.id = 0 → header.getId = 0 →
      ∀ c k, g.users.Subscribed c → ¬env.ReachedAt c k
  | g, .logoffUser c => c ≠ allUsers → ∀ r k tx, g.users.find c = some r →
      (∃ c', g.users.Subscribed c' ∧ c' ≠ c) → g.FirstId r k tx → tx.id = g.id → g.repeaters = ∅
  | _, _ => True

theorem idleClear_of_same {g g' : GroupHandler} (clear : g.IdleClear) (id : g'.id = g.id)
    (repeaters : g'.repeaters = g.repeaters) : g'.IdleClear := by
  intro idle
  rw [repeaters]
  exact clear (id.symm.trans idle)

theorem openStream_idleClear_iff {env : Env} {g g₁ : GroupHandler} {header : HeaderData}
    {islogin : Bool} (accepted : g.Accepts header) (opens : g.Opens header)
    (case : HeaderCase env g header (some islogin) g₁) (clear : g.IdleClear) :
    (g₁.openStream env header islogin).1.IdleClear ↔ ListKept g (.g2Header env header) := by
  have id : (g₁.openStream env header islogin).1.id = header.getId := rfl
  have keys := case.mem_openStream opens (clear opens.2.1) islogin
  simp only [IdleClear, ListKept, id, Std.ExtTreeMap.eq_empty_iff_forall_not_mem, keys, not_and,
    not_not, ne_eq, accepted, opens, forall_const]

theorem ReflectorHeaderCase.idleClear_iff {env : Env} {g g' : GroupHandler} {header : HeaderData}
    (case : ReflectorHeaderCase env g header g') (clear : g.IdleClear) :
    g'.IdleClear ↔ ListKept g (.reflectorHeader env header) := by
  cases case with
  | busy stream => exact iff_of_true clear fun idle => absurd idle stream
  | idle stream =>
      simp only [IdleClear, ListKept, stream, forall_const,
        Std.ExtTreeMap.eq_empty_iff_forall_not_mem, mem_fillRepeaters, clear stream,
        Std.ExtTreeMap.not_mem_empty, Bool.false_eq_true, not_false_eq_true, true_and, false_or,
        not_exists, not_and]
      exact forall_congr' fun _ => ⟨fun h c k => h k c, fun h k c => h c k⟩

theorem LogoffCase.idleClear_iff {g g' : GroupHandler} {c : Str} (case : LogoffCase g c g')
    (clear : g.IdleClear) : g'.IdleClear ↔ ListKept g (.logoffUser c) := by
  cases case with
  | all everyone => exact iff_of_true (fun _ => rfl) fun single => absurd everyone single
  | absent single absent =>
      exact iff_of_true clear fun _ r _ _ filed => by simp [absent] at filed
  | last r single filed alone =>
      refine iff_of_true (fun _ => rfl) ?_
      rintro - - - - - ⟨c', subscribed, other⟩
      exact absurd (alone c' subscribed) other
  | one r single filed others =>
      have kept : ListKept g (.logoffUser c) ↔
          ∀ k tx, g.firstOwned r = some (k, tx) → tx.id = g.id → g.repeaters = ∅ := by
        simp only [firstOwned_iff]
        constructor
        · exact fun h k tx first => h single r k tx filed others first
        · intro h _ r' k tx filed' _ first
          have own : r = r' := Option.some.inj (filed.symm.trans filed')
          exact h k tx (own ▸ first)
      rw [kept]
      unfold IdleClear dropFirstId
      split
      · rename_i k tx found
        simp only [found, Option.some.injEq, Prod.mk.injEq, and_imp]
        by_cases current : tx.id = g.id
        · simp only [current, if_true, forall_const]
          exact ⟨fun empty _ _ _ same _ => empty, fun h => h k tx rfl rfl current⟩
        · simp only [current, if_false]
          apply iff_of_true clear
          rintro _ _ - rfl same
          exact absurd same current
      · rename_i absent
        exact iff_of_true clear fun k tx found => by simp [absent] at found

/-- A step keeps the list of an idle group empty where and only where the condition holds. -/
theorem idleClear_turn {g g' : GroupHandler} {e : GroupEvent} {outs : List Output}
    (clear : g.IdleClear) (h : step g e = .ok (g', outs)) : g'.IdleClear ↔ ListKept g e := by
  cases step_case h with
  | refused env header refuses => exact iff_of_true clear fun accepted => absurd accepted refuses
  | opened env header islogin g₁ accepted opens case =>
      exact openStream_idleClear_iff accepted opens case clear
  | recorded env header go _ _ closed case =>
      refine iff_of_true ?_ fun _ opens => absurd opens closed
      exact idleClear_of_same clear case.frame.1 case.frame.2.1
  | skipped env data _ => exact iff_of_true clear trivial
  | voice env data _ _ _ case _ =>
      refine iff_of_true ?_ trivial
      cases case with
      | unknown _ => exact clear
      | going _ _ _ => exact idleClear_of_same clear rfl rfl
      | login _ _ _ _ | logoff _ _ _ _ _ _ _ | relay _ _ _ _ => exact fun _ => rfl
  | reflectorHeader env header _ case => exact case.idleClear_iff clear
  | reflectorAMBE env data _ _ case _ =>
      refine iff_of_true ?_ trivial
      cases case with
      | other _ => exact clear
      | going _ _ => exact idleClear_of_same clear rfl rfl
      | last _ _ => exact fun _ => rfl
  | logoffUser c _ _ case _ => exact case.idleClear_iff clear
  | clock env ms _ _ tick =>
      refine iff_of_true ?_ trivial
      rcases tick.stream with ⟨id, repeaters, -⟩ | ⟨-, repeaters, -⟩
      · exact idleClear_of_same clear id repeaters
      · exact fun _ => repeaters
  | relink info => exact iff_of_true clear trivial

/-- The list of a stream opened here holds only what the users now subscribed are
reached through, and not the sender's own repeater. -/
def FreshList : GroupEntry → Prop
  | ⟨g, .g2Header env header, _, g'⟩ => g.Accepts header → g.Opens header →
      ∀ k v, g'.repeaters[k]? = some v → k ≠ env.findUserRepeater header.myCall1 ∧
        ∃ c, g'.users.Subscribed c ∧ env.ReachedAt c k ∧ v = repeaterOf (env.findUserData c)
  | ⟨g, .reflectorHeader env _, _, g'⟩ => g.id = 0 →
      ∀ k v, g'.repeaters[k]? = some v →
        ∃ c, g'.users.Subscribed c ∧ env.ReachedAt c k ∧ v = repeaterOf (env.findUserData c)
  | _ => True

theorem freshList_of_clear {g g' : GroupHandler} {e : GroupEvent} {outs : List Output}
    (clear : g.IdleClear) (h : step g e = .ok (g', outs)) : FreshList ⟨g, e, outs, g'⟩ := by
  cases step_case h with
  | refused env header refuses => exact fun accepted => absurd accepted refuses
  | opened env header islogin g₁ _ _ case =>
      intro _ opens k v got
      have empty : g₁.repeaters = ∅ := case.frame.2.1.trans (clear opens.2.1)
      rcases get_fillRepeaters got with there | ⟨kept, c, subscribed, reached, entry⟩
      · rw [empty] at there
        simp at there
      · exact ⟨by simpa using kept, c, subscribed, reached, entry⟩
  | recorded env header go _ _ closed case => exact fun _ opens => absurd opens closed
  | reflectorHeader env header _ case =>
      intro idle k v got
      cases case with
      | busy stream => exact absurd idle stream
      | idle _ =>
          rcases get_fillRepeaters got with there | ⟨-, c, subscribed, reached, entry⟩
          · rw [clear idle] at there
            simp at there
          · exact ⟨c, subscribed, reached, entry⟩
  | skipped _ _ _ | voice _ _ _ _ _ _ _ | reflectorAMBE _ _ _ _ _ _ | logoffUser _ _ _ _ _
  | clock _ _ _ _ _ | relink _ => trivial

/-- An idle group has no list exactly when every step keeps it so, and then every
stream starts with a fresh list. -/
theorem list_cleared_iff {c : Config} {tr : List GroupEntry} {g : GroupHandler}
    (run : GroupRun c tr g) :
    ((∀ x ∈ tr, x.post.IdleClear) ↔ Under ListKept tr) ∧
      (Under ListKept tr → ∀ x ∈ tr, FreshList x) := by
  have start : (init c).IdleClear := fun _ => rfl
  refine ⟨run.all_post_iff (I := fun _ => True) trivial start (fun _ _ => trivial)
    fun _ clear h => idleClear_turn clear h, fun kept x member => ?_⟩
  obtain ⟨taken, before, isPrefix, reached⟩ := run.entry member
  have clear : x.pre.IdleClear :=
    reached.invariant start (fun clear met h => (idleClear_turn clear h).mpr met)
      fun y earlier => kept y (isPrefix.subset earlier)
  exact freshList_of_clear clear taken

section
open Sample

/-- Two users on known repeaters are subscribed, and a stream of one is relayed to the other and
ended. -/
theorem ended_stream_clear : ∃ tr g, GroupRun config tr g ∧
    (∃ x ∈ tr, x.post.id = 3 ∧ str "RPTR2  B" ∈ x.post.repeaters) ∧ g.id = 0 ∧
      ∀ x ∈ tr, x.post.IdleClear := by
  obtain ⟨tr, g, run, accepted⟩ := Sample.run
    [.g2Header knownEnv (call userA smart 1), .g2AMBE knownEnv (lastFrame 1),
      .g2Header knownEnv (call userB smart 2), .g2AMBE knownEnv (lastFrame 2),
      .clock knownEnv 5000, .g2Header knownEnv (call userA smart 3), .g2AMBE knownEnv (frame 3),
      .g2AMBE knownEnv (lastFrame 3)]
    (fun tr g => decide ((∃ x ∈ tr, x.post.id = 3 ∧ str "RPTR2  B" ∈ x.post.repeaters) ∧ g.id = 0) &&
      tr.all fun x =>
        match x.event with
        | .g2Header _ header => decide (header.getId ≠ 0)
        | .g2AMBE _ _ | .clock _ _ => true
        | _ => false) (by decide +kernel)
  rw [Bool.and_eq_true, decide_eq_true_eq, List.all_eq_true] at accepted
  obtain ⟨⟨relayed, idle⟩, checked⟩ := accepted
  refine ⟨tr, g, run, relayed, idle, (list_cleared_iff run).1.mpr fun x member => ?_⟩
  have ok := checked x member
  cases event : x.event with
  | g2Header env header =>
      rw [event, decide_eq_true_eq] at ok
      exact fun _ _ zero => absurd zero ok
  | g2AMBE _ _ | clock _ _ => exact trivial
  | reflectorHeader _ _ | reflectorAMBE _ _ | logoffUser _ | relink _ => simp [event] at ok

/-- The sender of the current stream is logged off while another user stays: the group
is idle and the stream's list is still there. -/
theorem logoff_keeps_list :
    ∃ tr g, GroupRun config tr g ∧ g.id = 0 ∧ str "RPTR2  B" ∈ g.repeaters := by
  obtain ⟨tr, g, run, accepted⟩ := Sample.run
    [.g2Header knownEnv (call userA smart 1), .g2AMBE knownEnv (lastFrame 1),
      .g2Header knownEnv (call userB smart 2), .g2AMBE knownEnv (lastFrame 2),
      .clock knownEnv 5000, .g2Header knownEnv (call userA smart 3), .logoffUser userA]
    (fun _ g => decide (g.id = 0 ∧ str "RPTR2  B" ∈ g.repeaters)) (by decide +kernel)
  exact ⟨tr, g, run, of_decide_eq_true accepted⟩

end

/-! One stream at a time. -/

/-- A header of stream `s` is passed to `sendToRepeaters`. -/
def Relays (s : Nat) (x : GroupEntry) : Prop := ∃ o ∈ x.outs, o.relayed = some s

instance (s : Nat) : DecidablePred (Relays s) := fun x =>
  inferInstanceAs (Decidable (∃ o ∈ x.outs, o.relayed = some s))

/-- The current stream `s` is closed by its last frame, a timer or the remote control. -/
def Closes (s : Nat) : GroupEntry → Prop
  | ⟨g, .g2AMBE _ data, _, g'⟩ | ⟨g, .reflectorAMBE _ data, _, g'⟩ =>
      g.id = s ∧ g'.id = 0 ∧ data.getId = s ∧ data.isEnd
  | ⟨g, .clock _ ms, _, g'⟩ => g.id = s ∧ g'.id = 0 ∧
      (g.linkTimer.fires ms ∨ ∃ k tx, g.Pending k tx ∧ tx.Stops ms ∧ tx.id = s)
  | ⟨g, .logoffUser _, _, g'⟩ => g.id = s ∧ g'.id = 0
  | _ => False

/-- Between the headers of two streams that are relayed the first stream is closed. -/
def OneStream (tr : List GroupEntry) : Prop :=
  ∀ before x middle y after s t, tr = before ++ x :: middle ++ y :: after → Relays s x →
    Relays t y → t ≠ s → ∃ z ∈ middle, Closes s z

/-- A header with stream id zero is relayed. -/
def RelaysZero : GroupHandler → GroupEvent → Prop
  | g, .g2Header _ header => g.Accepts header ∧ g.Opens header ∧
      g.users.Subscribed header.myCall1 ∧ ¬g.listenOnly ∧ header.getId = 0
  | g, .reflectorHeader _ header =>
      g.id = 0 ∧ header.getId = 0 ∧ ¬(g.ids[0]?.join.any (·.login))
  | _, _ => False

instance : ∀ (g : GroupHandler) (e : GroupEvent), Decidable (RelaysZero g e)
  | _, .g2Header _ _ => inferInstanceAs (Decidable (_ ∧ _ ∧ _ ∧ _ ∧ _))
  | _, .reflectorHeader _ _ => inferInstanceAs (Decidable (_ ∧ _ ∧ _))
  | _, .g2AMBE _ _ | _, .reflectorAMBE _ _ | _, .logoffUser _ | _, .clock _ _ | _, .relink _ =>
      inferInstanceAs (Decidable False)

theorem openStream_relayed {env : Env} {g : GroupHandler} {header : HeaderData} {islogin : Bool}
    {o : Output} {s : Nat} (member : o ∈ (g.openStream env header islogin).2)
    (relayed : o.relayed = some s) : islogin = false ∧ ¬g.listenOnly ∧ s = header.getId := by
  unfold openStream at member
  dsimp only at member
  rcases List.mem_append.mp member with linked | sent
  · split at linked
    · rw [List.mem_singleton.mp linked] at relayed
      cases relayed
    · cases linked
  · split at sent
    · cases sent
    · rename_i relays
      rw [not_or] at relays
      rcases List.mem_append.mp sent with header_sent | text
      · have ids := (sendToRepeaters_relayed env _ _).1 ▸
          List.mem_filterMap.mpr ⟨o, header_sent, relayed⟩
        rw [List.mem_singleton] at ids
        refine ⟨by simpa using relays.1, relays.2, ids.trans ?_⟩
        split <;> rfl
      · rw [(sendFromText_silent env _ o text).1] at relayed
        cases relayed

theorem not_relayed {outs more : List Output} {s : Nat}
    (silent : ∀ o ∈ outs, o.relayed = none ∧ o.lost = none)
    (relays : ∃ o ∈ outs ++ more, o.relayed = some s) : ∃ o ∈ more, o.relayed = some s := by
  obtain ⟨o, member, relayed⟩ := relays
  rcases List.mem_append.mp member with quiet | sent
  · rw [(silent o quiet).1] at relayed
    cases relayed
  · exact ⟨o, sent, relayed⟩

theorem HeaderCase.subscribed_of_open {env : Env} {g g₁ : GroupHandler} {header : HeaderData}
    (case : HeaderCase env g header (some false) g₁) : g.users.Subscribed header.myCall1 := by
  cases case with
  | again r _ filed _ => exact Users.subscribed_iff.mpr ⟨r, filed⟩

theorem processReflectorHeader_relayed {env : Env} {g : GroupHandler} {header : HeaderData} {s : Nat}
    (relays : ∃ o ∈ (g.processReflectorHeader env header).2.2, o.relayed = some s) :
    g.id = 0 ∧ s = header.getId ∧ ¬(g.ids[header.getId]?.join.any (·.login)) := by
  obtain ⟨o, member, relayed⟩ := relays
  unfold processReflectorHeader at member
  split at member
  · cases member
  · rename_i stream
    refine ⟨not_not.mp stream, ?_⟩
    rcases List.mem_append.mp member with sent | text
    · split at sent
      · cases sent
      · rename_i known
        have ids := (sendToRepeaters_relayed env _ _).1 ▸ List.mem_filterMap.mpr ⟨o, sent, relayed⟩
        refine ⟨List.mem_singleton.mp ids, ?_⟩
        cases held : g.ids[header.getId]? with
        | none => simp
        | some entry => simpa [held] using known
    · rw [(sendFromText_silent env _ o text).1] at relayed
      cases relayed

/-- A relayed header takes the idle group's lock with its own stream id. -/
theorem relays_spec {g g' : GroupHandler} {e : GroupEvent} {outs : List Output} {s : Nat}
    (h : step g e = .ok (g', outs)) (relays : Relays s ⟨g, e, outs, g'⟩) :
    g.id = 0 ∧ g'.id = s ∧ (s = 0 → RelaysZero g e) := by
  have silent (silent : ∀ o ∈ outs, o.relayed = none ∧ o.lost = none) : False := by
    obtain ⟨o, member, relayed⟩ := relays
    rw [(silent o member).1] at relayed
    cases relayed
  cases step_case h with
  | refused env header _ => exact (silent (by simp)).elim
  | opened env header islogin g₁ accepted opens case =>
      obtain ⟨o, sent, relayed⟩ := not_relayed (recordHeader_silent env g header) relays
      obtain ⟨rfl, talks, rfl⟩ := openStream_relayed sent relayed
      rw [case.frame.2.2.1] at talks
      exact ⟨opens.2.1, rfl, fun zero => ⟨accepted, opens, case.subscribed_of_open, talks, zero⟩⟩
  | recorded env header go _ _ _ _ => exact (silent (recordHeader_silent env g header)).elim
  | skipped env data _ => exact (silent (by simp)).elim
  | voice env data _ _ _ _ quiet => exact (silent quiet).elim
  | reflectorHeader env header _ case =>
      obtain ⟨idle, rfl, known⟩ := processReflectorHeader_relayed relays
      cases case with
      | busy stream => exact absurd idle stream
      | idle _ => exact ⟨idle, rfl, fun zero => ⟨idle, zero, zero ▸ known⟩⟩
  | reflectorAMBE env data _ _ _ quiet => exact (silent quiet).elim
  | logoffUser c _ _ _ quiet => exact (silent quiet).elim
  | clock env ms _ _ tick =>
      obtain ⟨o, member, relayed⟩ := relays
      rw [tick.silent o member] at relayed
      cases relayed
  | relink info => exact (silent (by simp)).elim

theorem dropFirstId_id (g : GroupHandler) (r : Nat) :
    (g.dropFirstId r).id = g.id ∨ (g.dropFirstId r).id = 0 := by
  unfold dropFirstId
  split
  · dsimp only
    split
    · exact .inr rfl
    · exact .inl rfl
  · exact .inl rfl

/-- A step leaves a running stream alone or closes it. -/
theorem stream_kept {g g' : GroupHandler} {e : GroupEvent} {outs : List Output}
    (h : step g e = .ok (g', outs)) (running : g.id ≠ 0) :
    g'.id = g.id ∨ Closes g.id ⟨g, e, outs, g'⟩ := by
  cases step_case h with
  | refused env header _ => exact .inl rfl
  | opened env header islogin g₁ _ opens _ => exact absurd opens.2.1 running
  | recorded env header go _ _ _ case => exact .inl case.frame.1
  | skipped env data _ => exact .inl rfl
  | voice env data _ _ current case _ =>
      cases case with
      | unknown _ | going _ _ _ => exact .inl rfl
      | login _ _ last _ | logoff _ _ _ last _ _ _ | relay _ _ last _ =>
          exact .inr ⟨rfl, rfl, current, last⟩
  | reflectorHeader env header _ case =>
      cases case with
      | busy _ => exact .inl rfl
      | idle stream => exact absurd stream running
  | reflectorAMBE env data _ _ case _ =>
      cases case with
      | other _ | going _ _ => exact .inl rfl
      | last current last => exact .inr ⟨rfl, rfl, current, last⟩
  | logoffUser c _ _ case _ =>
      cases case with
      | all _ | last _ _ _ _ => exact .inr ⟨rfl, rfl⟩
      | absent _ _ => exact .inl rfl
      | one r _ _ _ => exact (g.dropFirstId_id r).imp_right fun zero => ⟨rfl, zero⟩
  | clock env ms _ _ tick =>
      rcases tick.stream with ⟨id, -, -⟩ | ⟨id, -, ends⟩
      · exact .inl id
      · exact .inr ⟨rfl, id, ends⟩
  | relink info => exact .inl rfl

/-- Every stream relayed so far is the current one or closed since. -/
def Accounted (tr : List GroupEntry) (g : GroupHandler) : Prop :=
  ∀ before x after s, tr = before ++ x :: after → Relays s x →
    (g.id = s ∧ s ≠ 0) ∨ ∃ z ∈ after, Closes s z

theorem accounted_snoc {tr : List GroupEntry} {g g' : GroupHandler} {e : GroupEvent}
    {outs : List Output} (accounted : Accounted tr g) (named : ¬RelaysZero g e)
    (h : step g e = .ok (g', outs)) : Accounted (tr ++ [⟨g, e, outs, g'⟩]) g' := by
  intro before x after s split relays
  rcases Trace.snoc_split.mp split with ⟨-, rfl, -⟩ | ⟨rest, rfl, earlier⟩
  · obtain ⟨-, id, zero⟩ := relays_spec h relays
    exact .inl ⟨id, fun none => named (zero none)⟩
  · rcases accounted before x rest s earlier relays with ⟨rfl, running⟩ | ⟨z, member, closes⟩
    · rcases stream_kept h running with same | closes
      · exact .inl ⟨same, running⟩
      · exact .inr ⟨_, by simp, closes⟩
    · exact .inr ⟨z, by simp [member], closes⟩

theorem oneStream_snoc {tr : List GroupEntry} {g g' : GroupHandler} {e : GroupEvent}
    {outs : List Output} (accounted : Accounted tr g) (one : OneStream tr)
    (h : step g e = .ok (g', outs)) : OneStream (tr ++ [⟨g, e, outs, g'⟩]) := by
  intro before x middle y after s t split relays relays' other
  rcases Trace.snoc_split.mp split with ⟨earlier, rfl, -⟩ | ⟨rest, -, earlier⟩
  · obtain ⟨idle, -, -⟩ := relays_spec h relays'
    rcases accounted before x middle s earlier relays with ⟨current, running⟩ | closed
    · exact absurd (current.symm.trans idle) running
    · exact closed
  · exact one before x middle y rest s t earlier relays relays' other

/-- In a run that relays no header with stream id zero, one stream at a time is relayed. -/
theorem relays_one_stream {c : Config} {tr : List GroupEntry} {g : GroupHandler}
    (run : GroupRun c tr g) (named : Under (fun g e => ¬RelaysZero g e) tr) : OneStream tr := by
  have both : Accounted tr g ∧ OneStream tr := by
    refine run.history (H := fun tr g => Accounted tr g ∧ OneStream tr) ?_ ?_ named
    · constructor
      · intro before x after s split
        simp at split
      · intro before x middle y after s t split
        simp at split
    · rintro tr g e g' outs ⟨accounted, one⟩ met h
      exact ⟨accounted_snoc accounted met h, oneStream_snoc accounted one h⟩
  exact both.2

section
open Sample

/-- Two streams in a row. -/
theorem two_streams_relayed : ∃ tr g, GroupRun config tr g ∧ tr.length = 5 ∧ OneStream tr := by
  obtain ⟨tr, g, run, accepted⟩ := Sample.run
    [.g2Header env (call userA smart 1), .g2AMBE env (lastFrame 1),
      .g2Header env (call userA smart 2), .g2AMBE env (lastFrame 2),
      .g2Header env (call userA smart 3)]
    (fun tr _ => decide (tr.length = 5 ∧ Under (fun g e => ¬RelaysZero g e) tr)) (by decide +kernel)
  obtain ⟨length, named⟩ := of_decide_eq_true accepted
  exact ⟨tr, g, run, length, relays_one_stream run named⟩

/-- A stream with id zero does not keep another one out. -/
theorem stream_zero_overrun : ∃ tr g, GroupRun config tr g ∧ ¬OneStream tr := by
  obtain ⟨tr, g, run, accepted⟩ := Sample.run
    [.g2Header env (call userA smart 1), .g2AMBE env (lastFrame 1),
      .g2Header env (call userB smart 2), .g2AMBE env (lastFrame 2),
      .g2Header env (call userA smart 0), .g2Header env (call userB smart 7)]
    (fun tr _ => decide (∃ x ∈ tr[4]?, ∃ y ∈ tr[5]?, Relays 0 x ∧ Relays 7 y)) (by decide +kernel)
  refine ⟨tr, g, run, fun one => ?_⟩
  obtain ⟨x, fifth, y, last, relays, relays'⟩ := of_decide_eq_true accepted
  have split : tr = tr.take 4 ++ x :: [] ++ y :: tr.drop 6 := by
    calc tr = tr.take 4 ++ tr.drop 4 := (List.take_append_drop 4 tr).symm
      _ = tr.take 4 ++ x :: [] ++ y :: tr.drop 6 := by
        rw [List.drop_eq_getElem?_toList_append, Option.mem_def.mp fifth, List.drop_eq_getElem?_toList_append,
          Option.mem_def.mp last]
        simp
  obtain ⟨z, member, -⟩ := one _ x [] y _ 0 7 split relays relays' (by decide)
  cases member

end

end GroupHandler
end SmartGroup
