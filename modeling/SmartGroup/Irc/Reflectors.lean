import SmartGroup.GroupLink
import SmartGroup.Irc.Presence
import SmartGroup.Irc.Shape

/-! The reflectors of the host files, which share the map of the gateways with the users
on line. -/
namespace SmartGroup
open Bytes Sweep Machine

/-- A line of a host file whose host has been found. -/
structure Host where
  name : Str
  address : Str
  deriving DecidableEq

namespace Host

/-- The key under which the address is stored. -/
def gate (h : Host) : Str := replaceChar (padTo 7 h.name ++ [71]) 95 32

/-- A DCS or XRF reflector. -/
def Listed (h : Host) : Prop := CacheManager.isReflector h.gate ∧ h.address ≠ []

instance (h : Host) : Decidable h.Listed := inferInstanceAs (Decidable (_ ∧ _))

theorem gate_ne_nil (h : Host) : h.gate ≠ [] := by
  intro none
  have length := congrArg List.length none
  simp [gate] at length

end Host

/-- The gateway of a reflector can be found, and a group can be linked to it. -/
structure LinkTarget (c : CacheManager) (gate : Str) : Prop where
  address : c.findGateAddress gate ≠ []
  links : ∀ (env : Env) (g : GroupHandler), (env.irc1.getD env.irc0).cache = c →
    g.linkType ≠ .none → g.linkReflector.set 7 71 = gate → (g.linkInt env).1 = true

theorem linkTarget_iff (c : CacheManager) (gate : Str) : LinkTarget c gate ↔ c.findGateAddress gate ≠ [] := by
  constructor
  · exact LinkTarget.address
  · intro address
    refine ⟨address, ?_⟩
    intro env g cache type reflector
    have found : GroupHandler.reflectorAddress env (g.linkReflector.set 7 71) ≠ [] := by
      rw [GroupHandler.reflectorAddress, cache, reflector]
      exact address
    simp only [GroupHandler.linkInt, if_neg type, if_neg found]

/-- Every reflector of the host files is there. -/
def Reachable (hosts : List Host) (a : IRCDDBApp) : Prop := ∀ h ∈ hosts, h.Listed → LinkTarget a.cache h.gate

/-- The event is not the leave of a user whose name is that of a reflector. -/
def Spares (hosts : List Host) (e : AppEvent) : Prop :=
  ∀ name d, e = .userLeave (nickOf name d) → (nickOf name d).take 2 ≠ str "s-" →
    ∀ h ∈ hosts, h.Listed → gateOfName name ≠ h.gate

theorem spares_leave_iff {hosts : List Host} {name : Str} {d : UInt8} :
    Spares hosts (.userLeave (nickOf name d)) ↔ ((nickOf name d).take 2 ≠ str "s-" →
      ∀ h ∈ hosts, h.Listed → gateOfName name ≠ h.gate) := by
  constructor
  · intro spares
    exact spares name d rfl
  · intro spared other d' leaves
    have nick := AppEvent.userLeave.inj leaves
    obtain ⟨rfl, -⟩ := List.append_inj' nick rfl
    rwa [← nick]

namespace IRCDDBApp

def loadReflectors (a : IRCDDBApp) (hosts : List Host) : IRCDDBApp :=
  hosts.foldl (fun a h => a.loadReflector h.name h.address) a

section
variable {a a' : IRCDDBApp} {hosts : List Host}

theorem loadReflector_gateAddr (a : IRCDDBApp) (h : Host) (k : Str) :
    (a.loadReflector h.name h.address).cache.gateAddr[k]? =
      if h.address ≠ [] ∧ h.gate = k then some h.address else a.cache.gateAddr[k]? :=
  updateGate_gateAddr a.cache (by simp) h.address k

theorem findGateAddress_gate (c : CacheManager) (h : Host) :
    c.findGateAddress h.gate = (c.gateAddr[h.gate]?).getD [] := by
  simp only [CacheManager.findGateAddress, CacheManager.findGateAddr, if_neg h.gate_ne_nil]

/-- A reflector is there when its entry is, which then has an address. -/
theorem reachable_of_same (reachable : Reachable hosts a)
    (same : ∀ h ∈ hosts, h.Listed → a'.cache.gateAddr[h.gate]? = a.cache.gateAddr[h.gate]?) :
    Reachable hosts a' := by
  intro h member listed
  have there := (reachable h member listed).address
  rw [linkTarget_iff, findGateAddress_gate, same h member listed]
  rwa [findGateAddress_gate] at there

/-- An address goes in under a key that may be that of a reflector; it is not empty. -/
theorem reachable_of_join (reachable : Reachable hosts a) (nick name addr : Str) :
    Reachable hosts (a.userJoin nick name addr) := by
  unfold userJoin
  split
  · exact reachable
  · intro h member listed
    have there := (reachable h member listed).address
    rw [linkTarget_iff, findGateAddress_gate]
    rw [findGateAddress_gate] at there
    dsimp only
    rw [updateGate_gateAddr _ (by simp), CacheManager.updateName_gateAddr]
    split
    · rename_i writes
      exact writes.1
    · exact there

theorem reachable_of_reset (reachable : Reachable hosts a) : Reachable hosts a.userListReset := by
  apply reachable_of_same reachable
  intro h _ listed
  simp only [userListReset, CacheManager.clearGate, Std.ExtTreeMap.getElem?_filter']
  cases a.cache.gateAddr[h.gate]? with
  | none => rfl
  | some address => simp [listed.1]

theorem doUpdate_gateAddr (a : IRCDDBApp) (tm_isdst : Int) (msg : Str) :
    (a.doUpdate tm_isdst msg).cache.gateAddr = a.cache.gateAddr := by
  unfold doUpdate
  split
  · rw [storeRow]
    split
    · split
      · exact CacheManager.updateRptr_gateAddr _ _ _
      · rfl
    · split
      · exact CacheManager.updateUser_gateAddr _ _ _ _
      · rfl
  · rfl

/-- The leave of a user takes his gateway's entry away, and no other. -/
theorem userLeft_gateAddr (c : CacheManager) (name k : Str) :
    ((c.eraseName name).eraseGate (gateOfName name)).gateAddr[k]? =
      if gateOfName name = k then none else c.gateAddr[k]? :=
  get_erase c.gateAddr (gateOfName name) k

theorem reachable_userLeft_iff (reachable : Reachable hosts a) (name : Str) :
    Reachable hosts { a with cache := (a.cache.eraseName name).eraseGate (gateOfName name) } ↔
      ∀ h ∈ hosts, h.Listed → gateOfName name ≠ h.gate := by
  constructor
  · intro still h member listed own
    apply (still h member listed).address
    rw [findGateAddress_gate, userLeft_gateAddr, if_pos own, Option.getD_none]
  · intro spared
    apply reachable_of_same reachable
    intro h member listed
    rw [userLeft_gateAddr, if_neg (spared h member listed)]

end

/-- Loading makes every reflector reachable: a later line may give another address only. -/
theorem reachable_loaded (a : IRCDDBApp) (hosts : List Host) :
    Reachable hosts (a.loadReflectors hosts) := by
  induction hosts using List.reverseRecOn with
  | nil =>
      intro h member
      cases member
  | append_singleton hosts last ih =>
      intro h member listed
      rw [linkTarget_iff, findGateAddress_gate]
      rw [loadReflectors, List.foldl_append, List.foldl_cons, List.foldl_nil, loadReflector_gateAddr]
      split
      · rename_i writes
        exact writes.1
      · rename_i other
        rcases List.mem_append.mp member with earlier | newest
        · have there := (ih h earlier listed).address
          rwa [findGateAddress_gate] at there
        · rw [List.mem_singleton.mp newest] at other listed
          exact absurd ⟨listed.2, rfl⟩ other

/-- A step keeps the reflectors exactly when it is not the leave of a user with the name of
one of them. -/
theorem reachable_step_iff {a a' : IRCDDBApp} {hosts : List Host} {e : AppEvent} {o : List IRCMessage}
    (reachable : Reachable hosts a) (taken : step a e = .ok (a', o)) :
    Reachable hosts a' ↔ Spares hosts e := by
  have quiet {e : AppEvent} (kept : Reachable hosts a') (other : ∀ nick, e ≠ .userLeave nick) :
      Reachable hosts a' ↔ Spares hosts e :=
    iff_of_true kept fun _ _ leaves => absurd leaves (other _)
  cases step_case taken with
  | entry order _ _ case =>
      refine quiet (reachable_of_same reachable fun h _ _ => ?_) (by simp)
      rw [case.cache]
  | joined nick name addr => exact quiet (reachable_of_join reachable nick name addr) (by simp)
  | serverLeft nick server =>
      refine iff_of_true (reachable_of_same reachable fun _ _ _ => rfl) ?_
      intro name d leaves user
      cases leaves
      exact absurd server user
  | userLeft name d user =>
      have others : Spares hosts (.userLeave (nickOf name d)) ↔ _ := spares_leave_iff
      refine (reachable_userLeft_iff reachable name).trans (Iff.trans ?_ others.symm)
      exact ⟨fun spared _ => spared, fun spared => spared user⟩
  | strangerLeft nick user form =>
      refine iff_of_true reachable ?_
      intro name d leaves
      exact absurd (AppEvent.userLeave.inj leaves) (form name d)
  | reset => exact quiet (reachable_of_reset reachable) (by simp)
  | update _ msg text =>
      refine quiet (reachable_of_same reachable fun h _ _ => ?_) ?_
      · rw [doUpdate_gateAddr]
      · rintro nick rfl
        cases text
  | noise => exact quiet reachable (by simp)
  | listEnd => exact quiet (reachable_of_same reachable fun _ _ _ => rfl) (by simp)
  | listMore => exact quiet (reachable_of_same reachable fun _ _ _ => rfl) (by simp)
  | answer => exact quiet reachable (by simp)
  | queue => exact quiet (reachable_of_same reachable fun _ _ _ => rfl) (by simp)
  | find => exact quiet reachable (by simp)

/-- The reflectors of the host files can be linked to throughout a run exactly when no user
with the name of one of them leaves. -/
theorem reflectors_kept_iff {m_maxTime : Int} {cache : CacheManager} {hosts : List Host} {a : IRCDDBApp}
    {tr : List AppEntry} (run : Run step ((new m_maxTime cache).loadReflectors hosts) tr a) :
    (∀ x ∈ tr, Reachable hosts x.post) ↔ Under (fun _ e => Spares hosts e) tr :=
  run.all_post_iff (I := fun _ => True) trivial (reachable_loaded _ hosts) (fun _ _ => trivial)
    (fun _ reachable taken => reachable_step_iff reachable taken)

end IRCDDBApp

namespace Sample

def hosts : List Host := [⟨str "XRF002", str "44.1.2.3"⟩, ⟨str "DCS001", str "44.1.2.4"⟩]

def loaded : IRCDDBApp := (IRCDDBApp.new 950000000 .empty).loadReflectors hosts

end Sample

namespace IRCDDBApp
open Sample

theorem loaded_spared : ∀ v ∈ comeBack, Spares Sample.hosts v.event := by
  intro v member
  simp only [comeBack, List.mem_cons, List.not_mem_nil, or_false] at member
  rcases member with rfl | rfl | rfl
  · intro _ _ leaves
    cases leaves
  · exact spares_leave_iff.mpr (by decide +kernel)
  · intro _ _ leaves
    cases leaves

/-- The reflectors while a user comes and goes. -/
theorem reflectors_kept : ∃ tr a, Run step loaded tr a ∧ tr.map (·.event) = comeBack.map Visit.event ∧
    ∀ x ∈ tr, Reachable Sample.hosts x.post := by
  obtain ⟨tr, ran⟩ := exec_total (fun a v => ⟨[], step_visit a v⟩) loaded comeBack
  have events := exec_events ran
  refine ⟨tr, _, exec_run ran, events, (reflectors_kept_iff (exec_run ran)).mpr ?_⟩
  intro x member
  have known : x.event ∈ comeBack.map Visit.event := events ▸ List.mem_map_of_mem member
  obtain ⟨v, listed, own⟩ := List.mem_map.mp known
  exact own ▸ loaded_spared v listed

/-- Somebody who has taken the name of a reflector leaves, and it is gone. -/
theorem reflector_erased : ∃ tr a, Run step loaded tr a ∧
    tr.map (·.event) = [.userLeave (str "xrf002-1")] ∧
    loaded.cache.findGateAddress (str "XRF002 G") = str "44.1.2.3" ∧
    ¬∀ x ∈ tr, Reachable Sample.hosts x.post := by
  have nick : nickOf (str "xrf002") 49 = str "xrf002-1" := by decide +kernel
  have left : step loaded (.userLeave (str "xrf002-1")) = .ok (loaded.visit (.leave (str "xrf002") 49), []) :=
    nick ▸ step_visit loaded (.leave (str "xrf002") 49)
  refine ⟨_, _, .snoc .nil left, rfl, by decide +kernel, ?_⟩
  intro kept
  have there := kept _ (List.mem_singleton_self _) ⟨str "XRF002", str "44.1.2.3"⟩ (by decide) (by decide +kernel)
  exact there.address (by decide +kernel)

end IRCDDBApp
end SmartGroup
