import SmartGroup.Group.Step

/-! Link commands that fail. `remoteLink` stores the type and the reflector before
`linkInt` looks for an address, and nothing takes them back when there is none. -/
namespace SmartGroup
open Bytes

namespace GroupHandler

variable {env : Env} {g : GroupHandler} {reflector : Str}

/-- The command is well formed and the group is free, but the reflector is not in the cache. -/
def Stranded (env : Env) (g : GroupHandler) (reflector : Str) : Prop :=
  g.linkType = .none ∧ reflectorType reflector ≠ .none ∧
    reflectorAddress env (reflector.set 7 71) = []

instance (env : Env) (g : GroupHandler) (reflector : Str) : Decidable (Stranded env g reflector) :=
  inferInstanceAs (Decidable (_ ∧ _ ∧ _))

/-- A failed command leaves the link as it was, and an unlinked group can be linked later. -/
structure FailsClean (env : Env) (g : GroupHandler) (reflector : Str) : Prop where
  unchanged : (g.remoteLink env reflector).1 = false →
    (g.remoteLink env reflector).2.1.linkInfo = g.linkInfo
  later : ∀ (env' : Env) (known : Str), g.linkType = .none →
    (g.remoteLink env reflector).1 = false → reflectorType known ≠ .none →
    reflectorAddress env' (known.set 7 71) ≠ [] →
    ((g.remoteLink env reflector).2.1.remoteLink env' known).1 = true

/-- An unlinked group is linked to a known reflector. -/
theorem remoteLink_known (free : g.linkType = .none) (form : reflectorType reflector ≠ .none)
    (known : reflectorAddress env (reflector.set 7 71) ≠ []) :
    (g.remoteLink env reflector).1 = true := by
  simp only [remoteLink, free, ne_eq, not_true_eq_false, if_false, form, linkInt, known]

/-- Elsewhere a command that fails has changed nothing. -/
theorem remoteLink_refused (unstranded : ¬Stranded env g reflector)
    (failed : (g.remoteLink env reflector).1 = false) : (g.remoteLink env reflector).2.1 = g := by
  by_cases free : g.linkType = .none
  · by_cases form : reflectorType reflector = .none
    · simp only [remoteLink, free, ne_eq, not_true_eq_false, if_false, form, if_true]
    · have known : reflectorAddress env (reflector.set 7 71) ≠ [] :=
        fun unknown => unstranded ⟨free, form, unknown⟩
      rw [remoteLink_known free form known] at failed
      cases failed
  · simp only [remoteLink, ne_eq, free, not_false_eq_true, if_true]

/-- Where the reflector is unknown the command fails, and the group has a link type after it. -/
theorem remoteLink_stranded (stranded : Stranded env g reflector) :
    (g.remoteLink env reflector).1 = false ∧
      (g.remoteLink env reflector).2.1.linkType = reflectorType reflector := by
  obtain ⟨free, form, unknown⟩ := stranded
  simp only [remoteLink, free, ne_eq, not_true_eq_false, if_false, form, linkInt, unknown, if_true,
    and_self]

theorem remoteLink_failsClean_iff (env : Env) (g : GroupHandler) (reflector : Str) :
    FailsClean env g reflector ↔ ¬Stranded env g reflector := by
  constructor
  · intro clean stranded
    obtain ⟨failed, type⟩ := remoteLink_stranded stranded
    have same := congrArg LinkInfo.linkType (clean.unchanged failed)
    exact stranded.2.1 (type.symm.trans (same.trans stranded.1))
  · intro unstranded
    constructor
    · intro failed
      rw [remoteLink_refused unstranded failed]
    · intro env' known free failed form address
      rw [remoteLink_refused unstranded failed]
      exact remoteLink_known free form address

end GroupHandler

/-! The group is free and the reflector unknown; the later command names a known one. -/
namespace Sample

/-- The world in which `XRF002` is known. -/
def reflectorEnv : Env :=
  { env with irc0 := ⟨CacheManager.empty.updateGate (str "XRF002 G") (str "44.9.0.2"), 7⟩ }

def afterUnknown : GroupHandler :=
  ((GroupHandler.init config).remoteLink reflectorEnv (str "XRF999 A")).2.1

theorem remoteLink_unknown_keeps_type :
    (GroupHandler.init config).linkType = .none ∧
      ((GroupHandler.init config).remoteLink reflectorEnv (str "XRF999 A")).1 = false ∧
      afterUnknown.linkType = .dextra ∧ afterUnknown.linkReflector = str "XRF999 A" ∧
      ((GroupHandler.init config).remoteLink reflectorEnv (str "XRF002 C")).1 = true ∧
      (afterUnknown.remoteLink reflectorEnv (str "XRF002 C")).1 = false := by
  decide +kernel

end Sample
end SmartGroup
