import SmartGroup.Group.Opener
import SmartGroup.Group.Sent

/-! Voice frames of the two sides: whether they touch only the streams of their own side. -/
namespace SmartGroup
open Bytes Sweep Machine

theorem Source.one_of {s other : Source} (apart : s ≠ other) (t : Source) : t = s ∨ t = other := by
  cases s <;> cases other <;> cases t <;> simp_all

namespace GroupHandler

/-- The frame of this step is passed to `sendToRepeaters`. -/
def RelaysFrame : GroupEntry → Prop
  | ⟨_, .g2AMBE _ data, outs, _⟩ | ⟨_, .reflectorAMBE _ data, outs, _⟩ => .relayAMBE data ∈ outs
  | _ => False

/-- The step closes the current stream. -/
def EndsStream (x : GroupEntry) : Prop := x.pre.id ≠ 0 ∧ x.post.id = 0

instance : DecidablePred RelaysFrame
  | ⟨_, .g2AMBE _ data, outs, _⟩ | ⟨_, .reflectorAMBE _ data, outs, _⟩ =>
      inferInstanceAs (Decidable (.relayAMBE data ∈ outs))
  | ⟨_, .g2Header _ _, _, _⟩ | ⟨_, .reflectorHeader _ _, _, _⟩ | ⟨_, .logoffUser _, _, _⟩
  | ⟨_, .clock _ _, _, _⟩ | ⟨_, .relink _, _, _⟩ => isFalse not_false

instance : DecidablePred EndsStream := fun _ => inferInstanceAs (Decidable (_ ∧ _))

/-- A frame is relayed, or closes the current stream, only if its side opened the stream. -/
def OwnStream (tr : List GroupEntry) : GroupEntry → Prop
  | ⟨g, .g2AMBE env data, outs, g'⟩ =>
      RelaysFrame ⟨g, .g2AMBE env data, outs, g'⟩ ∨ EndsStream ⟨g, .g2AMBE env data, outs, g'⟩ →
        OpenedBy .g2 tr
  | ⟨g, .reflectorAMBE env data, outs, g'⟩ =>
      RelaysFrame ⟨g, .reflectorAMBE env data, outs, g'⟩ ∨
        EndsStream ⟨g, .reflectorAMBE env data, outs, g'⟩ → OpenedBy .reflector tr
  | _ => True

instance (tr : List GroupEntry) : DecidablePred (OwnStream tr)
  | ⟨_, .g2AMBE _ _, _, _⟩ | ⟨_, .reflectorAMBE _ _, _, _⟩ => inferInstanceAs (Decidable (_ → _))
  | ⟨_, .g2Header _ _, _, _⟩ | ⟨_, .reflectorHeader _ _, _, _⟩ | ⟨_, .logoffUser _, _, _⟩
  | ⟨_, .clock _ _, _, _⟩ | ⟨_, .relink _, _, _⟩ => isTrue trivial

/-- A frame has the id of the group's stream, although the other side opened that
stream, or the group has none and the id is zero. `relays` tells whether a frame with
this id is relayed now. -/
def Collides (other : Source) (tr : List GroupEntry) (g : GroupHandler) (data : AMBEData)
    (relays : Prop) : Prop :=
  data.getId = g.id ∧ ((relays ∨ data.isEnd) ∧ OpenedBy other tr ∨ relays ∧ g.id = 0)

/-- No frame that would be relayed or would close a stream collides. A user's frame does
neither without a pending id, and a login is not relayed. -/
def Apart (tr : List GroupEntry) : GroupEntry → Prop
  | ⟨g, .g2AMBE _ data, _, _⟩ =>
      ∀ tx, g.Pending g.id tx → ¬Collides .reflector tr g data (¬tx.login ∧ ¬g.listenOnly)
  | ⟨g, .reflectorAMBE _ data, _, _⟩ =>
      ¬Collides .g2 tr g data (¬(g.ids[g.id]?.join.any (·.login)))
  | _ => True

theorem forall_pending_iff (g : GroupHandler) (k : Nat) (P : SGSId → Prop) :
    (∀ tx, g.Pending k tx → P tx) ↔ ∀ tx, tx ∈ g.ids[k]?.join → P tx := by
  simp only [Pending, Option.mem_def, Option.join_eq_some_iff]

instance (tr : List GroupEntry) (other : Source) (g : GroupHandler) (data : AMBEData)
    (relays : Prop) [Decidable relays] : Decidable (Collides other tr g data relays) :=
  inferInstanceAs (Decidable (_ ∧ (_ ∨ _)))

instance (tr : List GroupEntry) : DecidablePred (Apart tr)
  | ⟨g, .g2AMBE _ _, _, _⟩ => decidable_of_iff _ (forall_pending_iff g g.id _).symm
  | ⟨_, .reflectorAMBE _ _, _, _⟩ => inferInstanceAs (Decidable (¬_))
  | ⟨_, .g2Header _ _, _, _⟩ | ⟨_, .reflectorHeader _ _, _, _⟩ | ⟨_, .logoffUser _, _, _⟩
  | ⟨_, .clock _ _, _, _⟩ | ⟨_, .relink _, _, _⟩ => isTrue trivial

/-! What the frames of one step do. -/

section
variable {env : Env} {g g' : GroupHandler} {data : AMBEData} {outs : List Output}

theorem relayAMBE_mem (env : Env) (g : GroupHandler) (data : AMBEData) :
    .relayAMBE data ∈ g.sendAMBEToRepeaters env data := List.mem_cons_self

/-- A user's frame with the current id, by the pending id it finds. -/
theorem g2AMBE_spec {tx : SGSId} (pending : g.Pending g.id tx)
    (h : step g (.g2AMBE env data) = .ok (g', outs)) :
    (RelaysFrame ⟨g, .g2AMBE env data, outs, g'⟩ ↔
        data.getId = g.id ∧ ¬tx.login ∧ ¬g.listenOnly) ∧
      (EndsStream ⟨g, .g2AMBE env data, outs, g'⟩ ↔ data.getId = g.id ∧ data.isEnd ∧ g.id ≠ 0) := by
  have own (tx' : SGSId) (pending' : g.Pending g.id tx') : tx' = tx :=
    Option.some.inj (Option.some.inj (pending'.symm.trans pending))
  constructor
  · constructor
    · intro relayed
      cases step_sends h relayed with
      | book _ _ book => exact book.elim
      | voice _ _ _ tx' current pending' stays talks _ =>
          exact ⟨current, own tx' pending' ▸ stays, talks⟩
    · rintro ⟨current, relays⟩
      simp only [step, current, if_true] at h
      have sent := processAMBE_outs (current.symm ▸ pending) h
      rw [if_pos ⟨current, relays⟩] at sent
      show .relayAMBE data ∈ outs
      rw [sent]
      exact List.mem_append_right _ (relayAMBE_mem env g data)
  · cases step_case h with
    | skipped _ _ other => exact iff_of_false (fun ends => ends.1 ends.2) fun ends => other ends.1
    | voice _ _ _ _ current case _ =>
        cases case with
        | unknown absent =>
            rw [Pending, absent] at pending
            cases pending
        | going _ _ more => exact iff_of_false (fun ends => ends.1 ends.2) fun ends => more ends.2.1
        | login _ _ last _ | logoff _ _ _ last _ _ _ | relay _ _ last _ =>
            exact ⟨fun ends => ⟨current, last, ends.1⟩, fun ends => ⟨ends.2.2, rfl⟩⟩

/-- Without a pending id a user's frame does nothing. -/
theorem g2AMBE_unknown (unknown : ∀ tx, ¬g.Pending g.id tx)
    (h : step g (.g2AMBE env data) = .ok (g', outs)) :
    ¬RelaysFrame ⟨g, .g2AMBE env data, outs, g'⟩ ∧ ¬EndsStream ⟨g, .g2AMBE env data, outs, g'⟩ := by
  constructor
  · intro relayed
    cases step_sends h relayed with
    | book _ _ book => exact book.elim
    | voice _ _ _ tx current pending stays talks _ => exact unknown tx pending
  · rintro ⟨stream, closed⟩
    cases step_case h with
    | skipped _ _ _ => exact stream closed
    | voice _ _ _ _ _ case _ =>
        cases case with
        | unknown _ => exact stream closed
        | going tx pending _ | login tx pending _ _ | logoff tx _ pending _ _ _ _
        | relay tx pending _ _ => exact unknown tx pending

theorem reflectorAMBE_spec (h : step g (.reflectorAMBE env data) = .ok (g', outs)) :
    (RelaysFrame ⟨g, .reflectorAMBE env data, outs, g'⟩ ↔
        data.getId = g.id ∧ ¬(g.ids[g.id]?.join.any (·.login))) ∧
      (EndsStream ⟨g, .reflectorAMBE env data, outs, g'⟩ ↔
        data.getId = g.id ∧ data.isEnd ∧ g.id ≠ 0) := by
  constructor
  · constructor
    · intro relayed
      cases step_sends h relayed with
      | book _ _ book => exact book.elim
      | reflectorAMBE _ _ _ current stays _ => exact ⟨current, stays⟩
    · rintro ⟨current, stays⟩
      have stays' : ¬(((g.ids[g.id]?).getD none).any (·.login)) := by
        cases held : g.ids[g.id]? with
        | none => simp
        | some entry => simpa [held] using stays
      simp only [step, processReflectorAMBE, current, ne_eq, not_true_eq_false, if_false, stays',
        Bool.false_eq_true] at h
      split at h <;> cases h <;> exact relayAMBE_mem env g data
  · cases step_case h with
    | reflectorAMBE _ _ _ _ case _ =>
        cases case with
        | other other => exact iff_of_false (fun ends => ends.1 ends.2) fun ends => other ends.1
        | going _ more => exact iff_of_false (fun ends => ends.1 ends.2) fun ends => more ends.2.1
        | last current last => exact ⟨fun ends => ⟨current, last, ends.1⟩, fun ends => ⟨ends.2.2, rfl⟩⟩

end

/-- The stream is a side's own exactly when nothing collides with the other side's. -/
theorem own_stream_iff {c : Config} {tr : List GroupEntry} {g : GroupHandler} {data : AMBEData}
    {relayed ended relays : Prop} {s other : Source} (run : GroupRun c tr g) (apart : s ≠ other)
    (relayed_iff : relayed ↔ data.getId = g.id ∧ relays)
    (ended_iff : ended ↔ data.getId = g.id ∧ data.isEnd ∧ g.id ≠ 0) :
    (relayed ∨ ended → OpenedBy s tr) ↔ ¬Collides other tr g data relays := by
  obtain ⟨streams, one⟩ := GroupRun.opened run
  rw [relayed_iff, ended_iff, ← and_or_left, Collides, and_imp, not_and]
  apply imp_congr_right
  intro _
  by_cases stream : g.id = 0
  · have nobody (s : Source) : ¬OpenedBy s tr := fun opened => streams.mpr ⟨s, opened⟩ stream
    simp [stream, nobody]
  · have exclusive : OpenedBy s tr ↔ ¬OpenedBy other tr := by
      constructor
      · exact fun opened opened' => apart (one _ _ opened opened')
      · intro absent
        obtain ⟨s', opened⟩ := streams.mp stream
        rcases Source.one_of apart s' with rfl | rfl
        · exact opened
        · exact absurd opened absent
    simp [stream, exclusive]

/-- Sources are not mixed exactly when no frame collides with a stream of the other side. -/
theorem sources_apart_iff {c : Config} {tr : List GroupEntry} {g : GroupHandler}
    (run : GroupRun c tr g) : Throughout OwnStream tr ↔ Throughout Apart tr := by
  apply run.throughout_iff
  intro before x reached taken
  obtain ⟨g, e, outs, g'⟩ := x
  cases e with
  | g2AMBE env data =>
      by_cases known : ∃ tx, g.Pending g.id tx
      · obtain ⟨tx, pending⟩ := known
        obtain ⟨relayed, ended⟩ := g2AMBE_spec pending taken
        apply (own_stream_iff reached (show Source.g2 ≠ .reflector by decide) relayed ended).trans
        constructor
        · intro free tx' pending'
          have own : tx' = tx := Option.some.inj (Option.some.inj (pending'.symm.trans pending))
          exact own ▸ free
        · exact fun free => free tx pending
      · have unknown := not_exists.mp known
        obtain ⟨silent, going⟩ := g2AMBE_unknown unknown taken
        exact iff_of_true (fun either => absurd either (not_or.mpr ⟨silent, going⟩))
          fun tx pending => absurd pending (unknown tx)
  | reflectorAMBE env data =>
      obtain ⟨relayed, ended⟩ := reflectorAMBE_spec taken
      exact own_stream_iff reached (show Source.reflector ≠ .g2 by decide) relayed ended
  | g2Header _ _ | reflectorHeader _ _ | logoffUser _ | clock _ _ | relink _ => exact Iff.rfl

section
open Sample

/-- A stream of each side, with frames, after a login. -/
theorem two_sides_apart : ∃ tr g, GroupRun config tr g ∧ tr.length = 8 ∧
    (∃ x ∈ tr, RelaysFrame x ∧ x.pre.id = 7) ∧ (∃ x ∈ tr, RelaysFrame x ∧ x.pre.id = 9) ∧
    Throughout OwnStream tr := by
  obtain ⟨tr, g, run, accepted⟩ := Sample.run
    [.g2Header env (call userA smart 1), .g2AMBE env (lastFrame 1),
      .reflectorHeader env (call userB smart 7), .reflectorAMBE env (frame 7),
      .reflectorAMBE env (lastFrame 7), .g2Header env (call userA smart 9),
      .g2AMBE env (frame 9), .g2AMBE env (lastFrame 9)]
    (fun tr _ => decide (tr.length = 8 ∧
      (∃ (x : GroupEntry), x ∈ tr ∧ RelaysFrame x ∧ x.pre.id = 7) ∧
      (∃ (x : GroupEntry), x ∈ tr ∧ RelaysFrame x ∧ x.pre.id = 9) ∧ Throughout Apart tr))
    (by decide +kernel)
  obtain ⟨length, reflector, user, apart⟩ := of_decide_eq_true accepted
  exact ⟨tr, g, run, length, reflector, user, (sources_apart_iff run).mpr apart⟩

/-- A reflector stream with the id of a user's stream: the group refuses its header, and
its last frame closes the user's stream. -/
theorem same_id_mixed : ∃ tr g, GroupRun config tr g ∧ ¬Throughout OwnStream tr := by
  obtain ⟨tr, g, run, accepted⟩ := Sample.run
    [.g2Header env (call userA smart 1), .g2AMBE env (lastFrame 1),
      .g2Header env (call userA smart 5), .reflectorHeader env (call userB smart 5),
      .reflectorAMBE env (lastFrame 5)]
    (fun tr _ => decide (¬Throughout OwnStream tr)) (by decide +kernel)
  exact ⟨tr, g, run, of_decide_eq_true accepted⟩

end

end GroupHandler
end SmartGroup
