import SmartGroup.Group.StepCase

/-! Packets, logoffs and clock ticks leave the link of a group alone: only link
commands and the callbacks of a link handler change it. The members that the constructor
sets for good stay in every step. -/
namespace SmartGroup
open Bytes Sweep Machine

namespace GroupHandler

/-- The members that the constructor sets for good. -/
structure Settings where
  groupCallsign : Str
  offCallsign : Str
  listenOnly : Bool
  deriving DecidableEq

def settings (g : GroupHandler) : Settings := ⟨g.groupCallsign, g.offCallsign, g.listenOnly⟩

/-- The two groups have the same link and settings. -/
structure SameFrame (g g' : GroupHandler) : Prop where
  info : g'.linkInfo = g.linkInfo
  settings : g'.settings = g.settings

/-- The value is told from none of the members that packets, logoffs and ticks write. -/
def Fixed {α : Type*} (π : GroupHandler → α) : Prop :=
  ∀ (g : GroupHandler) (id : Nat) (ids : OrdMap Nat (Option SGSId)) (users : Users)
    (repeaters : OrdMap Str SGSRepeater) (linkTimer announceTimer pingTimer : Timer) (oldlinkStatus : LinkStatus),
    π { g with id, ids, users, repeaters, linkTimer, announceTimer, pingTimer, oldlinkStatus } = π g

theorem fixed_linkInfo : Fixed linkInfo := fun _ _ _ _ _ _ _ _ _ => rfl

theorem fixed_settings : Fixed settings := fun _ _ _ _ _ _ _ _ _ => rfl

namespace Fixed
variable {α : Type*} {π : GroupHandler → α} {env : Env} {ms : Nat} {g g' : GroupHandler}

theorem closeStream (fixed : Fixed π) (g : GroupHandler) (id : Nat) : π (g.closeStream id) = π g := by
  unfold GroupHandler.closeStream
  split
  · exact fixed g _ _ _ _ _ _ _ _
  · rfl

theorem dropFirstId (fixed : Fixed π) (g : GroupHandler) (r : Nat) : π (g.dropFirstId r) = π g := by
  unfold GroupHandler.dropFirstId
  split
  · exact fixed g _ _ _ _ _ _ _ _
  · rfl

theorem reflectorHeader (fixed : Fixed π) {header : HeaderData} (case : ReflectorHeaderCase env g header g') :
    π g' = π g := by
  cases case with
  | busy _ => rfl
  | idle _ => exact fixed g _ _ _ _ _ _ _ _

theorem reflectorAMBE (fixed : Fixed π) {data : AMBEData} (case : ReflectorAMBECase g data g') : π g' = π g := by
  cases case with
  | other _ => rfl
  | going _ _ | last _ _ => exact fixed g _ _ _ _ _ _ _ _

theorem clockId (fixed : Fixed π) {k : Nat} {held : Option SGSId} (case : ClockIdCase ms g k held g') :
    π g' = π g := by
  have closed (id : Nat) (users : Users) (ids : OrdMap Nat (Option SGSId)) :
      π { g.closeStream id with users, ids } = π g :=
    (fixed (g.closeStream id) _ _ _ _ _ _ _ _).trans (fixed.closeStream g id)
  cases case with
  | null => rfl
  | waiting _ _ | acknowledged _ _ _ => exact fixed g _ _ _ _ _ _ _ _
  | login tx stops login => exact closed tx.id _ _
  | logoff tx user logs_off held => exact closed tx.id _ _
  | relay tx stops stays => exact closed tx.id _ _

theorem beforeIds (fixed : Fixed π) (env : Env) (ms : Nat) (g : GroupHandler) :
    π (g.beforeIds env ms) = π g := by
  have ping : π (g.clockPing env ms).1 = π g := by
    unfold clockPing
    dsimp only
    split <;> exact fixed g _ _ _ _ _ _ _ _
  have link (g : GroupHandler) : π (clockLink ms g) = π g := by
    unfold clockLink
    dsimp only
    split <;> exact fixed g _ _ _ _ _ _ _ _
  have announce (g : GroupHandler) : π (g.clockAnnounce env ms).1 = π g := by
    unfold clockAnnounce
    dsimp only
    split <;> exact fixed g _ _ _ _ _ _ _ _
  have status (g : GroupHandler) : π (g.clockStatus env) = π g := by
    unfold clockStatus
    split
    · exact fixed g _ _ _ _ _ _ _ _
    · rfl
  exact (status _).trans ((announce _).trans ((link _).trans ping))

theorem clockInt (fixed : Fixed π) {outs : List Output} (h : g.clockInt env ms = .ok (g', outs)) :
    π g' = π g := by
  obtain ⟨g₅, acks, loop, rfl, -⟩ := clockInt_ok h
  have ids : π g₅ = π g := by
    apply tryEach_invariant (I := fun s => π s = π g) _ (fixed.beforeIds env ms g) loop
    intro s s' o entry _ before turn
    exact (fixed.clockId (clockId_case turn).1).trans before
  have users : π (clockUsers ms g₅) = π g₅ := fixed g₅ _ _ _ _ _ _ _ _
  have expiry : π (clockUsers ms g₅).clockExpiry.1 = π (clockUsers ms g₅) := by
    unfold clockExpiry
    split
    · rfl
    · exact fixed (clockUsers ms g₅) _ _ _ _ _ _ _ _
  exact expiry.trans (users.trans ids)

/-- The events other than `relink`. -/
theorem step (fixed : Fixed π) {e : GroupEvent} {outs : List Output} (h : g.step e = .ok (g', outs))
    (other : ∀ info, e ≠ .relink info) : π g' = π g := by
  cases step_case h with
  | refused _ _ _ | skipped _ _ _ => rfl
  | opened env header islogin g₁ _ _ case =>
      cases case with
      | login _ _ | again _ _ _ _ => exact fixed g _ _ _ _ _ _ _ _
  | recorded env header go _ _ _ case =>
      cases case with
      | unknown _ _ => rfl
      | login _ _ | duplicate _ _ _ _ _ | again _ _ _ _ | logoff _ _ _ => exact fixed g _ _ _ _ _ _ _ _
  | voice env data _ _ _ case _ =>
      cases case with
      | unknown _ => rfl
      | going _ _ _ | login _ _ _ _ | logoff _ _ _ _ _ _ _ | relay _ _ _ _ => exact fixed g _ _ _ _ _ _ _ _
  | reflectorHeader env header _ case => exact fixed.reflectorHeader case
  | reflectorAMBE env data _ _ case _ => exact fixed.reflectorAMBE case
  | logoffUser c _ _ case _ =>
      cases case with
      | absent _ _ => rfl
      | all _ | last _ _ _ _ => exact fixed g _ _ _ _ _ _ _ _
      | one r _ _ _ => exact (fixed (g.dropFirstId r) _ _ _ _ _ _ _ _).trans (fixed.dropFirstId g r)
  | clock env ms _ _ _ =>
      simp only [GroupHandler.step] at h
      exact fixed.clockInt h
  | relink info => exact absurd rfl (other info)

/-- Every event, where the link is not looked at either. -/
theorem always (fixed : Fixed π) (relinked : ∀ (g : GroupHandler) (info : LinkInfo), π (g.withLink info) = π g)
    {e : GroupEvent} {outs : List Output} (h : g.step e = .ok (g', outs)) : π g' = π g := by
  by_cases relinks : ∃ info, e = .relink info
  · obtain ⟨info, rfl⟩ := relinks
    cases h
    exact relinked g info
  · exact fixed.step h fun info same => relinks ⟨info, same⟩

end Fixed

theorem linkInfo_processReflectorHeader (env : Env) (g : GroupHandler) (header : HeaderData) :
    (g.processReflectorHeader env header).2.1.linkInfo = g.linkInfo :=
  fixed_linkInfo.reflectorHeader (processReflectorHeader_case env g header)

theorem linkInfo_processReflectorAMBE (env : Env) (g : GroupHandler) (data : AMBEData) :
    (g.processReflectorAMBE env data).2.1.linkInfo = g.linkInfo :=
  fixed_linkInfo.reflectorAMBE (processReflectorAMBE_case env g data).1

/-- The events other than `relink`. -/
theorem frame_step {g g' : GroupHandler} {e : GroupEvent} {outs : List Output}
    (h : g.step e = .ok (g', outs)) (other : ∀ info, e ≠ .relink info) : SameFrame g g' :=
  ⟨fixed_linkInfo.step h other, fixed_settings.step h other⟩

theorem settings_step {g g' : GroupHandler} {e : GroupEvent} {outs : List Output}
    (h : g.step e = .ok (g', outs)) : g'.settings = g.settings :=
  fixed_settings.always (fun _ _ => rfl) h

theorem GroupRun.settings {c : Config} {tr : List GroupEntry} {g : GroupHandler}
    (run : GroupRun c tr g) : g.settings = ⟨c.callsign, c.logoff, c.listenOnly⟩ :=
  run.always (I := fun g => g.settings = ⟨c.callsign, c.logoff, c.listenOnly⟩) rfl
    fun before taken => (settings_step taken).trans before

end GroupHandler
end SmartGroup
