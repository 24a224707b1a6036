import Mathlib.Data.List.Forall2
import SmartGroup.Group.Timing
import SmartGroup.Group.Sent

/-! A group that is only ticked: how long its stream and its pending ids last, and
what it reports to their users. -/
namespace SmartGroup
open Bytes Sweep Objects Machine

/-- The objects are among the earlier ones and keep their callsigns. -/
def Users.Named (t t' : Users) : Prop :=
  ∀ r u', t'.heap.cell r = some u' → ∃ u, t.heap.cell r = some u ∧ u'.callsign = u.callsign

namespace Users.Named
variable {t t' t'' : Users}

theorem refl (t : Users) : t.Named t := fun _ u held => ⟨u, held, rfl⟩

theorem trans (first : t.Named t') (second : t'.Named t'') : t.Named t'' := by
  intro r u'' held
  obtain ⟨u', held', named'⟩ := second r u'' held
  obtain ⟨u, held₀, named⟩ := first r u' held'
  exact ⟨u, held₀, named'.trans named⟩

theorem of_heap (heap : t'.heap = t.heap) : t.Named t' := fun _ u held => ⟨u, heap ▸ held, rfl⟩

theorem of_like (like : t.Like t') : t.Named t' := by
  intro r u' held
  obtain ⟨u, held₀, named⟩ := (like.cell_iff r (·.1 = u'.callsign)).mp ⟨u', held, rfl⟩
  exact ⟨u, held₀, named.symm⟩

theorem clock (t : Users) (r ms : Nat) : t.Named (t.clock r ms) := by
  intro r' u' held
  simp only [Users.clock, Users.modify, Heap.modify_cell] at held
  split at held
  · rename_i same
    obtain ⟨u, held₀, rfl⟩ := Option.map_eq_some_iff.mp held
    exact ⟨u, same ▸ held₀, rfl⟩
  · exact ⟨u', held, rfl⟩

theorem delete (t : Users) (c : Str) : t.Named (t.delete c) := by
  cases filed : t.find c with
  | none =>
      rw [delete_of_absent filed]
      exact refl t
  | some r =>
      rw [delete_of_find filed]
      intro r' u' held
      simp only [deleteAt, Heap.free_cell] at held
      split at held
      · cases held
      · exact ⟨u', held, rfl⟩

end Users.Named

/-- A report to a user about his login or logoff: the text of an acknowledgement, or
none where no connection knows an address for him. -/
def Output.attempt : Output → Option (Str × Option Str)
  | .ack _ user text => some (user, some text)
  | .cannotFind user => some (user, none)
  | _ => none

/-- The text of the acknowledgement. -/
def SGSId.notice (tx : SGSId) : Str := if tx.login then str "Logged in" else str "Logged off"

namespace GroupHandler

/-- A login or logoff is pending under the id. -/
def Awaits (g : GroupHandler) (k : Nat) : Prop := ∃ tx, g.Pending k tx ∧ (tx.login ∨ tx.logoff)

/-- The report is for the user whose login or logoff is pending under the id. -/
def Answer (g : GroupHandler) (k : Nat) (report : Str × Option Str) : Prop :=
  ∃ tx u, g.Pending k tx ∧ (tx.login ∨ tx.logoff) ∧ g.users.heap.cell tx.user = some u ∧
    report.1 = u.callsign ∧ (report.2 = none ∨ report.2 = some tx.notice)

/-- The reports among the outputs are one for each of the ids, and no more. -/
def Answers (g : GroupHandler) (due : Nat → Prop) (outs : List Output) : Prop :=
  ∃ ks : List Nat, ks.Nodup ∧ (∀ k, k ∈ ks ↔ due k) ∧
    List.Forall₂ g.Answer ks (outs.filterMap Output.attempt)

/-! The reports of one tick. -/

theorem sendAck_attempts (env : Env) (g : GroupHandler) (i : Nat) (irc : IRCDDB) (user text : Str)
    (draw : Nat) :
    (g.sendAck env i irc user text draw).filterMap Output.attempt = [(user, some text)] := by
  simp only [sendAck, List.filterMap_cons, Output.attempt, List.filterMap_map]
  apply congrArg (List.cons _)
  exact List.filterMap_eq_nil_iff.mpr fun _ _ => rfl

theorem acknowledge_attempts (env : Env) (g : GroupHandler) {tx : SGSId}
    (special : tx.login ∨ tx.logoff) (c : Str) (draw : Nat) :
    ∃ text, (g.acknowledge env tx c draw).filterMap Output.attempt = [(c, text)] ∧
      (text = none ∨ text = some tx.notice) := by
  unfold acknowledge
  split
  · exact ⟨none, rfl, .inl rfl⟩
  · by_cases login : tx.login
    · rw [if_pos login, sendAck_attempts]
      exact ⟨_, rfl, .inr (by rw [SGSId.notice, if_pos login])⟩
    · rw [if_neg login, if_pos (special.resolve_left login), sendAck_attempts]
      exact ⟨_, rfl, .inr (by rw [SGSId.notice, if_neg login])⟩

/-- The tick reports on the entry. -/
def Reports (ms : Nat) (entry : Nat × Option SGSId) : Prop :=
  ∃ tx, entry.2 = some tx ∧ tx.ended ∧ (tx.clock ms).hasExpired

theorem clockId_attempts {env : Env} {ms : Nat} {g g' : GroupHandler} {k : Nat}
    {held : Option SGSId} {outs : List Output}
    (special : ∀ tx, held = some tx → tx.ended → tx.login ∨ tx.logoff)
    (h : g.clockId env ms (k, held) = .ok (g', outs)) :
    (¬Reports ms (k, held) ∧ outs.filterMap Output.attempt = []) ∨
      Reports ms (k, held) ∧ ∃ tx u text, held = some tx ∧ (tx.login ∨ tx.logoff) ∧
        g.users.heap.cell tx.user = some u ∧
        outs.filterMap Output.attempt = [(u.callsign, text)] ∧
        (text = none ∨ text = some tx.notice) := by
  cases held with
  | none =>
      cases h
      refine .inl ⟨?_, rfl⟩
      rintro ⟨tx, absent, -⟩
      cases absent
  | some tx =>
      have report_iff : Reports ms (k, some tx) ↔ tx.ended ∧ (tx.clock ms).hasExpired :=
        ⟨by rintro ⟨tx', same, report⟩; cases same; exact report, fun report => ⟨tx, rfl, report⟩⟩
      rw [report_iff]
      unfold clockId at h
      dsimp only at h
      split at h
      · rename_i waits
        cases h
        exact .inl ⟨fun report => waits report.2, rfl⟩
      · rename_i expired
        rw [not_not] at expired
        split at h
        · cases h
        · rename_i u owner
          split at h
          · rename_i ended
            cases h
            have special : (tx.clock ms).login ∨ (tx.clock ms).logoff := special tx rfl ended
            obtain ⟨text, sent, wording⟩ :=
              acknowledge_attempts env g special u.callsign (env.rand k)
            exact .inr ⟨⟨ended, expired⟩, tx, u, text, rfl, special, owner, sent, wording⟩
          · rename_i going
            refine .inl ⟨fun report => going report.1, ?_⟩
            split at h
            · cases h
              rfl
            · split at h <;> cases h <;> rfl

/-- The reports of the loop over the pending ids after the entries gone through. -/
structure ReportedIds (ms : Nat) (g : GroupHandler) (done : List (Nat × Option SGSId))
    (outs : List Output) (g' : GroupHandler) : Prop where
  heap : g'.users.heap = g.users.heap
  answers : ∃ ks, ks.Sublist (done.map Prod.fst) ∧
    (∀ k, k ∈ ks ↔ ∃ held, (k, held) ∈ done ∧ Reports ms (k, held)) ∧
    List.Forall₂ g.Answer ks (outs.filterMap Output.attempt)

theorem ReportedIds.turn {env : Env} {ms : Nat} {g g' g'' : GroupHandler}
    {done : List (Nat × Option SGSId)} {outs more : List Output} {k : Nat} {held : Option SGSId}
    (special : ∀ k tx, g.Pending k tx → tx.ended → tx.login ∨ tx.logoff)
    (present : g.ids[k]? = some held) (sofar : ReportedIds ms g done outs g')
    (h : g'.clockId env ms (k, held) = .ok (g'', more)) :
    ReportedIds ms g (done ++ [(k, held)]) (outs ++ more) g'' := by
  obtain ⟨ks, part, named, answers⟩ := sofar.answers
  have owned (tx : SGSId) (own : held = some tx) : g.Pending k tx :=
    present.trans (congrArg some own)
  have apart (k' : Nat) : (∃ held', (k', held') ∈ done ++ [(k, held)] ∧ Reports ms (k', held')) ↔
      (∃ held', (k', held') ∈ done ∧ Reports ms (k', held')) ∨ k' = k ∧ Reports ms (k, held) := by
    simp only [List.mem_append, List.mem_singleton, or_and_right, exists_or, Prod.mk.injEq]
    refine or_congr_right ⟨?_, ?_⟩
    · rintro ⟨_, ⟨rfl, rfl⟩, reports⟩
      exact ⟨rfl, reports⟩
    · rintro ⟨rfl, reports⟩
      exact ⟨held, ⟨rfl, rfl⟩, reports⟩
  refine ⟨(clockId_case h).1.users.1.trans sofar.heap, ?_⟩
  rw [List.filterMap_append, List.map_append]
  rcases clockId_attempts (fun tx own => special k tx (owned tx own)) h with
    ⟨silent, none_sent⟩ | ⟨reports, tx, u, text, own, due, owner, sent, wording⟩
  · refine ⟨ks, part.trans (List.sublist_append_left _ _), fun k' => ?_, ?_⟩
    · simp only [apart, named, silent, and_false, or_false]
    · rw [none_sent, List.append_nil]
      exact answers
  · have answer : g.Answer k (u.callsign, text) :=
      ⟨tx, u, owned tx own, due, sofar.heap ▸ owner, rfl, wording⟩
    refine ⟨ks ++ [k], part.append (List.Sublist.refl _), fun k' => ?_, ?_⟩
    · rw [apart, ← named, List.mem_append, List.mem_singleton]
      exact or_congr_right (and_iff_left reports).symm
    · rw [sent]
      exact List.rel_append answers (.cons answer .nil)

theorem clockIds_reports {env : Env} {ms : Nat} {g g' : GroupHandler} {outs : List Output}
    (special : ∀ k tx, g.Pending k tx → tx.ended → tx.login ∨ tx.logoff)
    (h : g.clockIds env ms = .ok (g', outs)) :
    Answers g (fun k => ∃ tx, g.Pending k tx ∧ tx.ended ∧ (tx.clock ms).hasExpired) outs := by
  have reported : ReportedIds ms g g.ids.toList outs g' := by
    refine tryEach_progress (S := ReportedIds ms g) ?_ (fun {done a rest _ _ _ _} split sofar turn => ?_) h
    · exact ⟨rfl, [], by simp, by simp, .nil⟩
    · have member : (a.1, a.2) ∈ g.ids.toList := by rw [split]; simp
      exact sofar.turn special (mem_toList.mp member) turn
  obtain ⟨ks, part, named, answers⟩ := reported.answers
  have distinct : (g.ids.toList.map Prod.fst).Nodup := List.pairwise_map.mpr (toList_distinct g.ids)
  refine ⟨ks, part.nodup distinct, fun k => ?_, answers⟩
  simp only [named, mem_toList, Reports, Pending]
  constructor
  · rintro ⟨_, held, tx, rfl, report⟩
    exact ⟨tx, held, report⟩
  · rintro ⟨tx, held, report⟩
    exact ⟨some tx, held, tx, rfl, report⟩

theorem attempts_book {outs : List Output} (book : ∀ o ∈ outs, o.Bookkeeping) :
    outs.filterMap Output.attempt = [] := by
  apply List.filterMap_eq_nil_iff.mpr
  intro o member
  have quiet := book o member
  cases o with
  | ack _ _ _ | cannotFind _ => exact quiet.elim
  | _ => rfl

theorem named_clockUsers (ms : Nat) (g : GroupHandler) : g.users.Named (clockUsers ms g).users := by
  have loop (l : List (Str × Nat)) (t : Users) :
      t.Named (l.foldl (fun t entry => t.clock entry.2 ms) t) := by
    induction l generalizing t with
    | nil => exact .refl t
    | cons entry l ih => exact (Users.Named.clock t entry.2 ms).trans (ih _)
  exact loop g.users.entries g.users

theorem named_clockExpiry (g : GroupHandler) : g.users.Named g.clockExpiry.1.users := by
  unfold clockExpiry
  split
  · exact .refl g.users
  · refine forEach_invariant (I := fun t => g.users.Named t) (fun t entry _ sofar => ?_) (.refl g.users)
    unfold expireUser
    split
    · exact sofar
    · split
      · exact sofar.trans (.delete t entry.1)
      · exact sofar

/-- What a tick leaves of the users and of the pending ids, and what it reports. -/
structure Ticked (g : GroupHandler) (outs : List Output) (g' : GroupHandler) : Prop where
  named : g.users.Named g'.users
  pending : ∀ k tx', g'.Pending k tx' →
    ∃ tx, g.Pending k tx ∧ tx'.user = tx.user ∧ tx'.login = tx.login ∧ tx'.logoff = tx.logoff
  answers : g.Answers (fun k => g.Awaits k ∧ ¬g'.Awaits k) outs

theorem Ticked.awaits {g g' : GroupHandler} {outs : List Output} (ticked : Ticked g outs g') {k : Nat}
    (awaits : g'.Awaits k) : g.Awaits k := by
  obtain ⟨tx', pending, special⟩ := awaits
  obtain ⟨tx, earlier, -, login, logoff⟩ := ticked.pending k tx' pending
  rw [login, logoff] at special
  exact ⟨tx, earlier, special⟩

/-- The report is for the same user when it is read in an earlier state. -/
theorem Ticked.answer {g g' : GroupHandler} {outs : List Output} (ticked : Ticked g outs g') {k : Nat}
    {report : Str × Option Str} (answer : g'.Answer k report) : g.Answer k report := by
  obtain ⟨tx', u', pending, special, owner, user, wording⟩ := answer
  obtain ⟨tx, earlier, same, login, logoff⟩ := ticked.pending k tx' pending
  obtain ⟨u, held, called⟩ := ticked.named tx'.user u' owner
  have notice : tx'.notice = tx.notice := by rw [SGSId.notice, login, SGSId.notice]
  rw [login, logoff] at special
  exact ⟨tx, u, earlier, special, same ▸ held, user.trans called, notice ▸ wording⟩

theorem Ticked.refl (g : GroupHandler) : Ticked g [] g := by
  refine ⟨.refl g.users, fun k tx pending => ⟨tx, pending, rfl, rfl, rfl⟩, [], List.nodup_nil, ?_, .nil⟩
  intro k
  simp

theorem Ticked.trans {g g' g'' : GroupHandler} {outs more : List Output} (first : Ticked g outs g')
    (second : Ticked g' more g'') : Ticked g (outs ++ more) g'' := by
  refine ⟨first.named.trans second.named, fun k tx'' pending'' => ?_, ?_⟩
  · obtain ⟨tx', pending', user', login', logoff'⟩ := second.pending k tx'' pending''
    obtain ⟨tx, pending, user, login, logoff⟩ := first.pending k tx' pending'
    exact ⟨tx, pending, user'.trans user, login'.trans login, logoff'.trans logoff⟩
  · obtain ⟨ks, distinct, named, answers⟩ := first.answers
    obtain ⟨ks', distinct', named', answers'⟩ := second.answers
    refine ⟨ks ++ ks', List.nodup_append.mpr ⟨distinct, distinct', ?_⟩, fun k => ?_, ?_⟩
    · rintro k earlier k' later rfl
      exact ((named k).mp earlier).2 ((named' k).mp later).1
    · rw [List.mem_append, named, named']
      constructor
      · rintro (⟨awaits, gone⟩ | ⟨awaits, gone⟩)
        · exact ⟨awaits, fun later => gone (second.awaits later)⟩
        · exact ⟨first.awaits awaits, gone⟩
      · rintro ⟨awaits, gone⟩
        by_cases still : g'.Awaits k
        · exact .inr ⟨still, gone⟩
        · exact .inl ⟨awaits, still⟩
    · rw [List.filterMap_append]
      exact List.rel_append answers (answers'.imp fun _ _ => first.answer)

/-- A pending login or logoff is gone after a tick when its second time is over. -/
theorem Tick.awaits_iff {env : Env} {ms : Nat} {g g' : GroupHandler} {outs : List Output}
    (tick : Tick env ms g outs g') (special : ∀ k tx, g.Pending k tx → tx.ended → tx.login ∨ tx.logoff)
    (k : Nat) : (∃ tx, g.Pending k tx ∧ tx.ended ∧ (tx.clock ms).hasExpired) ↔
      g.Awaits k ∧ ¬g'.Awaits k := by
  constructor
  · rintro ⟨tx, pending, ended, expired⟩
    refine ⟨⟨tx, pending, special k tx pending ended⟩, ?_⟩
    rintro ⟨tx', pending', -⟩
    obtain ⟨tx₀, pending₀, left⟩ := tick.pending.mp pending'
    have own : tx₀ = tx := Option.some.inj (Option.some.inj (pending₀.symm.trans pending))
    simp [own, SGSId.after, expired, ended] at left
  · rintro ⟨⟨tx, pending, due⟩, gone⟩
    refine ⟨tx, pending, ?_⟩
    have nothing : tx.after ms = none := by
      cases left : tx.after ms with
      | none => rfl
      | some tx' =>
          obtain ⟨login, logoff⟩ := after_special left
          exact absurd ⟨tx', tick.pending.mpr ⟨tx, pending, left⟩, by rwa [login, logoff]⟩ gone
    unfold SGSId.after at nothing
    by_cases expired : (tx.clock ms).hasExpired
    · rw [if_neg (not_not.mpr expired)] at nothing
      by_cases ended : tx.ended
      · exact ⟨ended, expired⟩
      · rw [if_neg ended, if_pos due] at nothing
        cases nothing
    · rw [if_pos expired] at nothing
      cases nothing

/-- One tick reports once on each login and logoff that is over, and on nothing else. -/
theorem clockInt_ticked {env : Env} {ms : Nat} {g g' : GroupHandler} {outs : List Output}
    (special : ∀ k tx, g.Pending k tx → tx.ended → tx.login ∨ tx.logoff)
    (h : g.clockInt env ms = .ok (g', outs)) : Ticked g outs g' := by
  have tick := clockInt_spec h
  obtain ⟨g₅, acks, loop, rfl, rfl⟩ := clockInt_ok h
  obtain ⟨users, ids, -⟩ := g.beforeIds_frame env ms
  have same (k : Nat) (tx : SGSId) : (g.beforeIds env ms).Pending k tx ↔ g.Pending k tx := by
    rw [Pending, ids, Pending]
  have before : g.users.Named (g.beforeIds env ms).users := by
    rw [users]
    exact .of_like (g.clockPing_spec env ms).2.1
  have after : (g.beforeIds env ms).users.Named g₅.users := .of_heap (clockIds_spec loop).1.heap
  have last := (named_clockUsers ms g₅).trans (named_clockExpiry (clockUsers ms g₅))
  refine ⟨before.trans (after.trans last), fun k tx' pending' => ?_, ?_⟩
  · obtain ⟨tx, pending, left⟩ := tick.pending.mp pending'
    obtain ⟨login, logoff⟩ := after_special left
    exact ⟨tx, pending, SGSId.after_user left, login, logoff⟩
  · obtain ⟨ks, distinct, named, answers⟩ := clockIds_reports
      (fun k tx pending => special k tx ((same k tx).mp pending)) loop
    refine ⟨ks, distinct, fun k => ?_, ?_⟩
    · simp only [named, same]
      exact tick.awaits_iff special k
    · simp only [List.filterMap_append, attempts_book (clockPing_book env ms g),
        attempts_book (clockAnnounce_book env ms _), attempts_book (clockExpiry_book _),
        List.nil_append, List.append_nil]
      apply answers.imp
      intro k report answer
      obtain ⟨tx, u, pending, due, owner, user, wording⟩ := answer
      obtain ⟨u₀, held, called⟩ := before tx.user u owner
      exact ⟨tx, u₀, (same k tx).mp pending, due, held, user.trans called, wording⟩

/-! A quiet run. -/

/-- A tick of one second at most. -/
def ShortTick : GroupEvent → Prop
  | .clock _ ms => ms ≤ 1000
  | _ => False

instance : DecidablePred ShortTick
  | .clock _ ms => inferInstanceAs (Decidable (ms ≤ 1000))
  | .g2Header _ _ | .g2AMBE _ _ | .reflectorHeader _ _ | .reflectorAMBE _ _ | .logoffUser _
  | .relink _ => isFalse not_false

def tickTime : GroupEvent → Nat
  | .clock _ ms => ms
  | _ => 0

/-- The milliseconds that the ticks of a run total. -/
def elapsed (tr : List GroupEntry) : Nat := (tr.map fun x => tickTime x.event).sum

theorem elapsed_snoc (tr : List GroupEntry) (x : GroupEntry) :
    elapsed (tr ++ [x]) = elapsed tr + tickTime x.event := by simp [elapsed]

/-- What still runs after `total` quiet milliseconds has run as long, an ended id since
its end mark at least. -/
structure Waited (total : Nat) (g : GroupHandler) : Prop where
  link : 0 < g.linkTimer.timer → total < g.linkTimer.timer
  active : ∀ k tx, g.Pending k tx → ¬tx.ended → total < tx.timer.timer
  ended : ∀ k tx, g.Pending k tx → tx.ended → total < tx.timer.timer + 5000

theorem Timed.waited {g : GroupHandler} (timed : g.Timed) : Waited 0 g :=
  ⟨fun runs => runs, fun k tx pending _ => (timed.running k tx pending).runs, fun _ _ _ _ => Nat.succ_pos _⟩

theorem Waited.tick {total ms : Nat} {env : Env} {g g' : GroupHandler} {outs : List Output}
    (timed : g.Timed) (waited : Waited total g) (short : ms ≤ 1000)
    (h : g.clockInt env ms = .ok (g', outs)) : Waited (total + ms) g' := by
  have tick := clockInt_spec h
  refine ⟨?_, fun k tx' pending' active => ?_, fun k tx' pending' ended => ?_⟩
  · rw [linkTimer_clockInt h]
    have room : linkLimit + ms ≤ word := by
      simp only [linkLimit, word]
      omega
    have counted := (timed.link.clock room).2
    have sofar := waited.link
    unfold linkTimerAfter
    split
    · exact fun runs => absurd runs (Nat.lt_irrefl 0)
    · rw [counted]
      split <;> omega
  · obtain ⟨tx, pending, left⟩ := tick.pending.mp pending'
    have running := timed.running k tx pending
    unfold SGSId.after at left
    split at left
    · cases left
      rw [(running.clocked short).2]
      have sofar := waited.active k tx pending active
      omega
    · split at left
      · cases left
      · split at left
        · cases left
          exact absurd rfl active
        · cases left
  · obtain ⟨tx, pending, left⟩ := tick.pending.mp pending'
    have running := timed.running k tx pending
    have limited := running.below.timer
    unfold SGSId.after at left
    split at left
    · cases left
      rw [(running.clocked short).2]
      have sofar := waited.ended k tx pending ended
      omega
    · split at left
      · cases left
      · rename_i going
        have sofar := waited.active k tx pending going
        split at left
        · cases left
          simp only [idLimit] at limited
          omega
        · cases left

/-- After ten seconds nothing runs any more. -/
theorem Waited.idle {total : Nat} {g : GroupHandler} (timed : g.Timed) (waited : Waited total g)
    (long : 10000 ≤ total) : g.id = 0 ∧ g.repeaters = ∅ ∧ ∀ k tx, ¬g.Pending k tx := by
  have nothing (k : Nat) (tx : SGSId) : ¬g.Pending k tx := by
    intro pending
    have limited := (timed.running k tx pending).below.timer
    simp only [idLimit] at limited
    by_cases ended : tx.ended
    · have sofar := waited.ended k tx pending ended
      omega
    · have sofar := waited.active k tx pending ended
      omega
  rcases timed.covered with ⟨id, repeaters⟩ | runs | ⟨tx, pending, -⟩
  · exact ⟨id, repeaters, nothing⟩
  · have limited := timed.link.timer
    have sofar := waited.link runs
    simp only [linkLimit] at limited
    omega
  · exact absurd pending (nothing g.id tx)

theorem ShortTick.regular {g : GroupHandler} {e : GroupEvent} (tick : ShortTick e) : Regular g e := by
  cases e with
  | clock env ms => exact tick
  | _ => exact tick.elim

/-- After ten seconds in which a group is only ticked it is idle, without pending ids,
and each login and logoff that was pending has been reported on exactly once. -/
theorem idle_again {c : Config} {tr quiet : List GroupEntry} {g g' : GroupHandler}
    (run : GroupRun c tr g) (regular : Under Regular tr) (rest : Run step g quiet g')
    (ticks : Under (fun _ e => ShortTick e) quiet) (long : 10000 ≤ elapsed quiet) :
    (g'.id = 0 ∧ g'.repeaters = ∅ ∧ ∀ k tx, ¬g'.Pending k tx) ∧
      g.Answers g.Awaits (quiet.flatMap (·.outs)) := by
  have timed := run.timed regular
  have all : g'.Timed ∧ Waited (elapsed quiet) g' ∧ Ticked g (quiet.flatMap (·.outs)) g' := by
    refine rest.history (C := fun _ e => ShortTick e)
      (H := fun tr s => s.Timed ∧ Waited (elapsed tr) s ∧ Ticked g (tr.flatMap (·.outs)) s)
      ⟨timed, timed.waited, .refl g⟩ ?_ ticks
    rintro tr s e s' o ⟨timed, waited, ticked⟩ tick h
    have timed' := timed.turn tick.regular h
    cases e with
    | clock env ms =>
        simp only [step] at h
        refine ⟨timed', ?_, ?_⟩
        · rw [elapsed_snoc]
          exact waited.tick timed tick h
        · rw [List.flatMap_append, List.flatMap_singleton]
          exact ticked.trans (clockInt_ticked timed.ended h)
    | _ => exact tick.elim
  obtain ⟨timed', waited, ticked⟩ := all
  obtain ⟨id, repeaters, nothing⟩ := waited.idle timed' long
  refine ⟨⟨id, repeaters, nothing⟩, ?_⟩
  obtain ⟨ks, distinct, named, answers⟩ := ticked.answers
  refine ⟨ks, distinct, fun k => ?_, answers⟩
  rw [named]
  apply and_iff_left
  rintro ⟨tx, pending, -⟩
  exact nothing k tx pending

section
open Sample

/-- A login whose last frame never comes, and a reflector stream that is kept out. -/
theorem lost_login_idle : ∃ tr quiet g g', GroupRun config tr g ∧ Run step g quiet g' ∧ g.id = 1 ∧
    g.Awaits 1 ∧ (g'.id = 0 ∧ g'.repeaters = ∅ ∧ ∀ k tx, ¬g'.Pending k tx) ∧
    g.Answers g.Awaits (quiet.flatMap (·.outs)) := by
  obtain ⟨tr, g, run, accepted⟩ := Sample.run
    [.g2Header env (call userA smart 1), .reflectorHeader env (call userB smart 2), .clock env 800]
    (fun tr g => decide (Under Regular tr ∧ g.id = 1 ∧
        ∃ (tx : SGSId), tx ∈ g.ids[1]?.join ∧ (tx.login = true ∨ tx.logoff = true)) &&
      accepts step g (List.replicate 11 (.clock env 950)) fun quiet _ =>
        decide (Under (fun _ e => ShortTick e) quiet ∧ 10000 ≤ elapsed quiet)) (by decide +kernel)
  rw [Bool.and_eq_true, decide_eq_true_eq] at accepted
  obtain ⟨⟨regular, busy, tx, pending, due⟩, ticked⟩ := accepted
  obtain ⟨quiet, g', rest, reached⟩ := exists_run_of_accepts _ _ _ _ ticked
  obtain ⟨ticks, long⟩ := of_decide_eq_true reached
  exact ⟨tr, quiet, g, g', run, rest, busy, ⟨tx, Option.join_eq_some_iff.mp pending, due⟩,
    idle_again run regular rest ticks long⟩

end

end GroupHandler
end SmartGroup
