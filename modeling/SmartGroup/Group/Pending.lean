import SmartGroup.Group.Ownership

/-! Where the pending ids of a group come from: what a step leaves of the earlier ones,
and the ones that it files. -/
namespace SmartGroup
open Bytes Sweep Machine

namespace GroupHandler

/-- A pending id as a header files it. -/
structure Fresh (k : Nat) (tx : SGSId) : Prop where
  id : tx.id = k
  timer : tx.timer = (Timer.new 1000 messageDelay 0).start
  ended : tx.ended = false

/-- The origin of a pending id after a step. -/
inductive PendingFrom (g : GroupHandler) (e : GroupEvent) (k : Nat) (tx' : SGSId) : Prop
  | kept (pending : g.Pending k tx') (still : ∀ env ms, e ≠ .clock env ms)
  | filed (env : Env) (header : HeaderData) (event : e = .g2Header env header)
      (key : header.getId = k) (fresh : Fresh k tx')
  | touched (tx : SGSId) (env : Env) (data : AMBEData) (event : e = .g2AMBE env data)
      (pending : g.Pending k tx) (reset : tx' = tx.reset)
  | ended (tx : SGSId) (env : Env) (data : AMBEData) (event : e = .g2AMBE env data)
      (pending : g.Pending k tx) (special : tx.login ∨ tx.logoff) (reset : tx' = tx.reset.reset.setEnd)
  | clocked (tx : SGSId) (env : Env) (ms : Nat) (event : e = .clock env ms)
      (pending : g.Pending k tx) (left : tx.after ms = some tx')

theorem pending_insert_at {m : OrdMap Nat (Option SGSId)} {k k' : Nat} {tx tx' : SGSId}
    (pending : (m.insert k (some tx))[k']? = some (some tx')) :
    k = k' ∧ tx' = tx ∨ m[k']? = some (some tx') := by
  rw [get_insert] at pending
  split at pending
  · rename_i same
    exact .inl ⟨same, (Option.some.inj (Option.some.inj pending)).symm⟩
  · exact .inr pending

theorem fresh_new (k user : Nat) : Fresh k (SGSId.new k messageDelay user) := ⟨rfl, rfl, rfl⟩

theorem fresh_login (k user : Nat) : Fresh k (SGSId.new k messageDelay user).setLogin :=
  ⟨rfl, rfl, rfl⟩

theorem fresh_logoff (k user : Nat) : Fresh k (SGSId.new k messageDelay user).setLogoff :=
  ⟨rfl, rfl, rfl⟩

/-- What a header makes of the pending ids. -/
theorem HeaderCase.pending {env : Env} {g g' : GroupHandler} {header : HeaderData}
    {go : Option Bool} (case : HeaderCase env g header go g') {k : Nat} {tx' : SGSId}
    (pending : g'.Pending k tx') : g.Pending k tx' ∨ header.getId = k ∧ Fresh k tx' := by
  cases case with
  | login subscribe absent =>
      rcases pending_insert_at pending with ⟨rfl, rfl⟩ | before
      · exact .inr ⟨rfl, fresh_login _ _⟩
      · exact .inl before
  | duplicate r tx subscribe filed pending' => exact .inl pending
  | again r subscribe filed idle =>
      rcases pending_insert_at pending with ⟨rfl, rfl⟩ | before
      · exact .inr ⟨rfl, fresh_new _ _⟩
      · exact .inl before
  | unknown other absent => exact .inl pending
  | logoff r other filed =>
      rcases pending_insert_at pending with ⟨rfl, rfl⟩ | before
      · exact .inr ⟨rfl, fresh_logoff _ _⟩
      · exact .inl before

theorem AMBECase.pending {env : Env} {g g' : GroupHandler} {data : AMBEData}
    (case : AMBECase env g data g') {k : Nat} {tx' : SGSId} (pending : g'.Pending k tx') :
    g.Pending k tx' ∨ ∃ tx, g.Pending k tx ∧
      (tx' = tx.reset ∨ (tx.login ∨ tx.logoff) ∧ tx' = tx.reset.reset.setEnd) := by
  cases case with
  | unknown absent => exact .inl pending
  | going tx own more =>
      rcases pending_insert_at pending with ⟨rfl, rfl⟩ | before
      · exact .inr ⟨tx, own, .inl rfl⟩
      · exact .inl before
  | login tx own last login =>
      rcases pending_insert_at pending with ⟨rfl, rfl⟩ | before
      · exact .inr ⟨tx, own, .inr ⟨.inl login, rfl⟩⟩
      · rcases pending_insert_at before with ⟨rfl, rfl⟩ | before
        · exact .inr ⟨tx, own, .inl rfl⟩
        · exact .inl before
  | logoff tx user own last held stays logoff =>
      rcases pending_insert_at pending with ⟨rfl, rfl⟩ | before
      · exact .inr ⟨tx, own, .inr ⟨.inr logoff, rfl⟩⟩
      · rcases pending_insert_at before with ⟨rfl, rfl⟩ | before
        · exact .inr ⟨tx, own, .inl rfl⟩
        · exact .inl before
  | relay tx own last stays =>
      have before := (pending_erase (g := { g with
        ids := g.ids.insert g.id (some tx.reset) })).mp pending
      rcases pending_insert_at before.2 with ⟨rfl, rfl⟩ | before
      · exact .inr ⟨tx, own, .inl rfl⟩
      · exact .inl before

theorem Tick.pending {env : Env} {ms : Nat} {g g' : GroupHandler} {outs : List Output}
    (tick : Tick env ms g outs g') {k : Nat} {tx' : SGSId} :
    g'.Pending k tx' ↔ ∃ tx, g.Pending k tx ∧ tx.after ms = some tx' := by
  rw [Pending, tick.ids]
  simp only [Option.bind_eq_some_iff, Pending]
  constructor
  · rintro ⟨held, found, left⟩
    cases held with
    | none => cases left
    | some tx =>
        simp only [idAfter, Option.map_eq_some_iff, Option.some.injEq, exists_eq_right] at left
        exact ⟨tx, found, left⟩
  · rintro ⟨tx, found, left⟩
    exact ⟨some tx, found, by simp [idAfter, left]⟩

/-- Where a pending id of the new state comes from. -/
theorem StepCase.pending {g g' : GroupHandler} {e : GroupEvent} {outs : List Output}
    (case : StepCase g e outs g') {k : Nat} {tx' : SGSId} (pending : g'.Pending k tx') :
    PendingFrom g e k tx' := by
  cases case with
  | refused env header _ => exact .kept pending (by simp)
  | opened env header islogin g₁ _ _ case =>
      rcases case.pending (show g₁.Pending k tx' from pending) with before | ⟨key, fresh⟩
      · exact .kept before (by simp)
      · exact .filed env header rfl key fresh
  | recorded env header go _ _ _ case =>
      rcases case.pending pending with before | ⟨key, fresh⟩
      · exact .kept before (by simp)
      · exact .filed env header rfl key fresh
  | skipped env data _ => exact .kept pending (by simp)
  | voice env data _ _ _ case _ =>
      rcases case.pending pending with before | ⟨tx, own, rfl | ⟨special, rfl⟩⟩
      · exact .kept before (by simp)
      · exact .touched tx env data rfl own rfl
      · exact .ended tx env data rfl own special rfl
  | reflectorHeader env header _ case =>
      cases case with
      | busy _ => exact .kept pending (by simp)
      | idle _ => exact .kept (pending_touch pending) (by simp)
  | reflectorAMBE env data _ _ case _ =>
      cases case with
      | other _ => exact .kept pending (by simp)
      | going _ _ | last _ _ => exact .kept (pending_touch pending) (by simp)
  | logoffUser c _ _ case _ =>
      cases case with
      | all _ => simp [Pending] at pending
      | absent _ _ => exact .kept pending (by simp)
      | last _ _ _ _ => simp [Pending] at pending
      | one r _ _ _ => exact .kept (dropFirstId_pending pending) (by simp)
  | clock env ms _ _ tick =>
      obtain ⟨tx, own, left⟩ := tick.pending.mp pending
      exact .clocked tx env ms rfl own left
  | relink info => exact .kept pending (by simp)

/-- Every pending id is filed under its own number. -/
def Keyed (g : GroupHandler) : Prop := ∀ k tx, g.Pending k tx → tx.id = k

theorem after_id {tx tx' : SGSId} {ms : Nat} (left : tx.after ms = some tx') : tx'.id = tx.id := by
  unfold SGSId.after at left
  split at left
  · cases left
    rfl
  · split at left
    · cases left
    · split at left
      · cases left
        rfl
      · cases left

theorem StepCase.keyed {g g' : GroupHandler} {e : GroupEvent} {outs : List Output}
    (case : StepCase g e outs g') (keyed : g.Keyed) : g'.Keyed := by
  intro k tx' pending
  cases case.pending pending with
  | kept before _ => exact keyed k tx' before
  | filed env header _ _ fresh => exact fresh.id
  | touched tx env data _ own reset => rw [reset]; exact keyed k tx own
  | ended tx env data _ own _ reset => rw [reset]; exact keyed k tx own
  | clocked tx env ms _ own left => exact (after_id left).trans (keyed k tx own)

theorem init_keyed (c : Config) : (init c).Keyed := by
  intro k tx pending
  simp [Pending, init, new] at pending

theorem GroupRun.keyed {c : Config} {tr : List GroupEntry} {g : GroupHandler}
    (run : GroupRun c tr g) : g.Keyed :=
  run.always (init_keyed c) fun keyed taken => (step_case taken).keyed keyed

end GroupHandler
end SmartGroup
