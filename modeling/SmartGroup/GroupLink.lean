import SmartGroup.GroupHandler

/-! The link side of `CGroupHandler`: linking requests and the callbacks of the link
handlers. Only the members of `LinkInfo` change. -/
namespace SmartGroup
open Bytes Sweep

structure LinkInfo where
  linkType : LinkType
  linkReflector : Str
  linkGateway : Str
  linkStatus : LinkStatus
  deriving DecidableEq, Repr

/-- The call of `CDExtraHandler::link` or `CDCSHandler::link` that ends `linkInt`. -/
structure LinkRequest where
  linkType : LinkType
  repeater : Str
  reflector : Str
  address : Str
  deriving DecidableEq, Repr

namespace GroupHandler

def linkInfo (g : GroupHandler) : LinkInfo :=
  ⟨g.linkType, g.linkReflector, g.linkGateway, g.linkStatus⟩

def withLink (g : GroupHandler) (l : LinkInfo) : GroupHandler :=
  { g with
    linkType := l.linkType
    linkReflector := l.linkReflector
    linkGateway := l.linkGateway
    linkStatus := l.linkStatus }

/-- The cache of the last connection holds the reflectors. -/
def reflectorAddress (env : Env) (gate : Str) : Str :=
  ((env.irc1.getD env.irc0).cache).findGateAddress gate

def linkingStatus : LinkType → LinkStatus
  | .dextra => .linkingDextra
  | _ => .linkingDcs

def linkedStatus : LinkType → LinkStatus
  | .dextra => .linkedDextra
  | _ => .linkedDcs

def linkInt (env : Env) (g : GroupHandler) : Bool × GroupHandler × Option LinkRequest :=
  if g.linkType = .none then (false, g, none)
  else
    let gate := g.linkReflector.set 7 71
    let addr := reflectorAddress env gate
    if addr = [] then (false, g, none)
    else
      (true, { g with linkGateway := gate, linkStatus := linkingStatus g.linkType },
        some ⟨g.linkType, g.repeater, g.linkReflector, addr⟩)

/-- The type of the reflector named by a remote link command. -/
def reflectorType (reflector : Str) : LinkType :=
  if reflector.length ≠ longCallsignLength then .none
  else if reflector.take 3 = str "XRF" then .dextra
  else if reflector.take 3 = str "DCS" then .dcs
  else .none

def remoteLink (env : Env) (g : GroupHandler) (reflector : Str) :
    Bool × GroupHandler × Option LinkRequest :=
  if g.linkType ≠ .none then (false, g, none)
  else if reflectorType reflector = .none then (false, g, none)
  else linkInt env { g with linkType := reflectorType reflector, linkReflector := reflector }

def linkUp (g : GroupHandler) : GroupHandler := { g with linkStatus := linkedStatus g.linkType }

/-- The four states in which a recoverable failure is answered by a new attempt. -/
def LinkActive (s : LinkStatus) : Prop :=
  s = .linkingDextra ∨ s = .linkedDextra ∨ s = .linkingDcs ∨ s = .linkedDcs

instance (s : LinkStatus) : Decidable (LinkActive s) :=
  inferInstanceAs (Decidable (_ ∨ _ ∨ _ ∨ _))

def linkFailed (g : GroupHandler) (isRecoverable : Bool) : Bool × GroupHandler :=
  if ¬isRecoverable then (false, { g with linkStatus := .none })
  else if LinkActive g.linkStatus then
    (true, { g with linkStatus := linkingStatus g.linkType })
  else (false, g)

def linkRefused (g : GroupHandler) : GroupHandler := { g with linkStatus := .none }

/-- `setLinkType(LT_NONE)` and `clearReflector()`, the end of an unlink command. -/
def clearLink (g : GroupHandler) : GroupHandler := { g with linkType := .none, linkReflector := [] }

end GroupHandler
end SmartGroup
