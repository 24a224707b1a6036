import SmartGroup.Group.Clock

/-! What one step of a group can do. -/
namespace SmartGroup
open Bytes Sweep Machine

namespace GroupHandler

inductive StepCase (g : GroupHandler) : GroupEvent → List Output → GroupHandler → Prop
  | refused (env : Env) (header : HeaderData) (refuses : ¬g.Accepts header) :
      StepCase g (.g2Header env header) [] g
  | opened (env : Env) (header : HeaderData) (islogin : Bool) (g₁ : GroupHandler)
      (accepted : g.Accepts header) (opens : g.Opens header)
      (case : HeaderCase env g header (some islogin) g₁) :
      StepCase g (.g2Header env header)
        ((g.recordHeader env header).2.2 ++ (g₁.openStream env header islogin).2)
        (g₁.openStream env header islogin).1
  | recorded (env : Env) (header : HeaderData) (go : Option Bool) (g' : GroupHandler)
      (accepted : g.Accepts header) (closed : ¬g.Opens header) (case : HeaderCase env g header go g') :
      StepCase g (.g2Header env header) (g.recordHeader env header).2.2 g'
  | skipped (env : Env) (data : AMBEData) (other : data.getId ≠ g.id) :
      StepCase g (.g2AMBE env data) [] g
  | voice (env : Env) (data : AMBEData) (outs : List Output) (g' : GroupHandler)
      (current : data.getId = g.id) (case : AMBECase env g data g')
      (silent : ∀ o ∈ outs, o.relayed = none ∧ o.lost = none) :
      StepCase g (.g2AMBE env data) outs g'
  | reflectorHeader (env : Env) (header : HeaderData) (g' : GroupHandler)
      (case : ReflectorHeaderCase env g header g') :
      StepCase g (.reflectorHeader env header) (g.processReflectorHeader env header).2.2 g'
  | reflectorAMBE (env : Env) (data : AMBEData) (outs : List Output) (g' : GroupHandler)
      (case : ReflectorAMBECase g data g')
      (silent : ∀ o ∈ outs, o.relayed = none ∧ o.lost = none) :
      StepCase g (.reflectorAMBE env data) outs g'
  | logoffUser (c : Str) (outs : List Output) (g' : GroupHandler) (case : LogoffCase g c g')
      (silent : ∀ o ∈ outs, o.relayed = none ∧ o.lost = none) :
      StepCase g (.logoffUser c) outs g'
  | clock (env : Env) (ms : Nat) (outs : List Output) (g' : GroupHandler)
      (tick : Tick env ms g outs g') : StepCase g (.clock env ms) outs g'
  | relink (info : LinkInfo) : StepCase g (.relink info) [] (g.withLink info)

theorem step_case {g g' : GroupHandler} {e : GroupEvent} {outs : List Output}
    (h : step g e = .ok (g', outs)) : StepCase g e outs g' := by
  cases e with
  | g2Header env header =>
      simp only [step] at h
      split at h
      · rename_i accepted
        obtain ⟨go, g₁, case, ⟨islogin, rfl, opens, left, sent⟩ | ⟨closed, same⟩⟩ :=
          processHeader_case env g header
        · simp only [Except.ok.injEq] at h
          rw [h] at left sent
          dsimp only at left sent
          subst left sent
          exact .opened env header islogin g₁ accepted opens case
        · rw [same] at h
          cases h
          exact .recorded env header go _ accepted closed case
      · rename_i refuses
        cases h
        exact .refused env header refuses
  | g2AMBE env data =>
      simp only [step] at h
      split at h
      · rename_i current
        obtain ⟨case, silent⟩ := processAMBE_case current h
        exact .voice env data outs g' current case silent
      · rename_i other
        cases h
        exact .skipped env data other
  | reflectorHeader env header =>
      have case := processReflectorHeader_case env g header
      simp only [step, Except.ok.injEq] at h
      have sent : outs = (g.processReflectorHeader env header).2.2 := by rw [h]
      rw [h] at case
      exact sent ▸ .reflectorHeader env header g' case
  | reflectorAMBE env data =>
      obtain ⟨case, silent⟩ := processReflectorAMBE_case env g data
      simp only [step, Except.ok.injEq] at h
      rw [h] at case silent
      exact .reflectorAMBE env data outs g' case silent
  | logoffUser c =>
      obtain ⟨case, silent⟩ := logoffUser_case g c
      simp only [step, Except.ok.injEq] at h
      rw [h] at case silent
      exact .logoffUser c outs g' case silent
  | clock env ms => exact .clock env ms outs g' (clockInt_spec h)
  | relink info =>
      cases h
      exact .relink info

end GroupHandler
end SmartGroup
