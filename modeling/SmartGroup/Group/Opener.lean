import SmartGroup.Group.Stream

/-! Which side opened the current stream, told from the history of a run. -/
namespace SmartGroup
open Bytes Sweep Machine

/-- The side that a stream comes from. -/
inductive Source where
  | g2
  | reflector
  deriving DecidableEq, Repr

namespace GroupHandler

/-- A header of the side takes the idle group. -/
def Opening : Source → GroupEntry → Prop
  | .g2, ⟨g, .g2Header _ header, _, _⟩ => g.Accepts header ∧ g.Opens header
  | .reflector, ⟨g, .reflectorHeader _ _, _, _⟩ => g.id = 0
  | _, _ => False

instance : (s : Source) → DecidablePred (Opening s)
  | .g2, ⟨_, .g2Header _ _, _, _⟩ => inferInstanceAs (Decidable (_ ∧ _))
  | .reflector, ⟨_, .reflectorHeader _ _, _, _⟩ => inferInstanceAs (Decidable (_ = _))
  | .g2, ⟨_, .g2AMBE _ _, _, _⟩ | .g2, ⟨_, .reflectorHeader _ _, _, _⟩
  | .g2, ⟨_, .reflectorAMBE _ _, _, _⟩ | .g2, ⟨_, .logoffUser _, _, _⟩
  | .g2, ⟨_, .clock _ _, _, _⟩ | .g2, ⟨_, .relink _, _, _⟩
  | .reflector, ⟨_, .g2Header _ _, _, _⟩ | .reflector, ⟨_, .g2AMBE _ _, _, _⟩
  | .reflector, ⟨_, .reflectorAMBE _ _, _, _⟩ | .reflector, ⟨_, .logoffUser _, _, _⟩
  | .reflector, ⟨_, .clock _ _, _, _⟩ | .reflector, ⟨_, .relink _, _, _⟩ => isFalse not_false

/-- The current stream was opened by a header of the side: the last header that gave the
group a stream id was the side's, and the group has had that id since. -/
def OpenedBy (s : Source) (tr : List GroupEntry) : Prop :=
  Since (fun x => Opening s x ∧ x.post.id ≠ 0) (fun x => x.post.id = 0) tr

instance (s : Source) (tr : List GroupEntry) : Decidable (OpenedBy s tr) := decidableSince _ _ tr

theorem openedBy_nil (s : Source) : ¬OpenedBy s [] := since_nil _ _

theorem openedBy_snoc (s : Source) (tr : List GroupEntry) (x : GroupEntry) :
    OpenedBy s (tr ++ [x]) ↔ (Opening s x ∨ OpenedBy s tr) ∧ x.post.id ≠ 0 := by
  rw [OpenedBy, since_snoc, or_and_right, OpenedBy]

theorem Opening.idle {s : Source} {x : GroupEntry} (opening : Opening s x) : x.pre.id = 0 := by
  obtain ⟨g, e, outs, g'⟩ := x
  cases s with
  | g2 =>
      cases e with
      | g2Header env header => exact opening.2.2.1
      | _ => exact opening.elim
  | reflector =>
      cases e with
      | reflectorHeader env header => exact opening
      | _ => exact opening.elim

/-- A header opens a stream for one side only. -/
theorem Opening.same {s s' : Source} {x : GroupEntry} (opening : Opening s x)
    (opening' : Opening s' x) : s = s' := by
  obtain ⟨g, e, outs, g'⟩ := x
  cases e with
  | g2Header env header =>
      cases s with
      | g2 =>
          cases s' with
          | g2 => rfl
          | reflector => exact opening'.elim
      | reflector => exact opening.elim
  | reflectorHeader env header =>
      cases s with
      | g2 => exact opening.elim
      | reflector =>
          cases s' with
          | g2 => exact opening'.elim
          | reflector => rfl
  | _ => cases s <;> exact opening.elim

/-- A step that opens no stream keeps the id or gives it up. -/
theorem id_turn {g g' : GroupHandler} {e : GroupEvent} {outs : List Output}
    (h : step g e = .ok (g', outs)) :
    (∃ s, Opening s ⟨g, e, outs, g'⟩) ∨ g'.id = g.id ∨ g'.id = 0 := by
  cases step_case h with
  | refused env header _ => exact .inr (.inl rfl)
  | opened env header islogin g₁ accepted opens _ => exact .inl ⟨.g2, accepted, opens⟩
  | recorded env header go _ _ _ case => exact .inr (.inl case.frame.1)
  | skipped env data _ => exact .inr (.inl rfl)
  | voice env data _ _ _ case _ =>
      right
      cases case with
      | unknown _ | going _ _ _ => exact .inl rfl
      | login _ _ _ _ | logoff _ _ _ _ _ _ _ | relay _ _ _ _ => exact .inr rfl
  | reflectorHeader env header _ case =>
      cases case with
      | busy _ => exact .inr (.inl rfl)
      | idle stream => exact .inl ⟨.reflector, stream⟩
  | reflectorAMBE env data _ _ case _ =>
      right
      cases case with
      | other _ | going _ _ => exact .inl rfl
      | last _ _ => exact .inr rfl
  | logoffUser c _ _ case _ =>
      right
      cases case with
      | all _ | last _ _ _ _ => exact .inr rfl
      | absent _ _ => exact .inl rfl
      | one r _ _ _ => exact g.dropFirstId_id r
  | clock env ms _ _ tick =>
      right
      rcases tick.stream with ⟨id, -, -⟩ | ⟨id, -, -⟩
      · exact .inl id
      · exact .inr id
  | relink info => exact .inr (.inl rfl)

/-- A group has a stream exactly when one side has opened it, and then one side only. -/
theorem GroupRun.opened {c : Config} {tr : List GroupEntry} {g : GroupHandler}
    (run : GroupRun c tr g) :
    (g.id ≠ 0 ↔ ∃ s, OpenedBy s tr) ∧ ∀ s s', OpenedBy s tr → OpenedBy s' tr → s = s' := by
  induction run with
  | nil =>
      refine ⟨iff_of_false (not_not.mpr rfl) ?_, fun s _ opened => absurd opened (openedBy_nil s)⟩
      rintro ⟨s, opened⟩
      exact openedBy_nil s opened
  | @snoc tr g e g' outs before last ih =>
      obtain ⟨streams, one⟩ := ih
      simp only [openedBy_snoc]
      constructor
      · constructor
        · intro stream
          rcases id_turn last with ⟨s, opening⟩ | same | zero
          · exact ⟨s, .inl opening, stream⟩
          · obtain ⟨s, opened⟩ := streams.mp (same ▸ stream)
            exact ⟨s, .inr opened, stream⟩
          · exact absurd zero stream
        · rintro ⟨s, -, stream⟩
          exact stream
      · rintro s s' ⟨new | old, -⟩ ⟨new' | old', -⟩
        · exact new.same new'
        · exact absurd new.idle (streams.mpr ⟨s', old'⟩)
        · exact absurd new'.idle (streams.mpr ⟨s, old⟩)
        · exact one s s' old old'

end GroupHandler
end SmartGroup
