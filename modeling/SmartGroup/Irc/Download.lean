import SmartGroup.Irc.Effects
import SmartGroup.Irc.Update

/-! The download of the repeater table when the application connects. The rows come
while `initReady` is off, and `doUpdate` stores none of them. -/
namespace SmartGroup
open Bytes Machine Last

namespace IRCDDBApp

theorem storeRow_offline {a : IRCDDBApp} (offline : a.initReady = false) (tm_isdst : Int) (row : Row) :
    a.storeRow tm_isdst row = a := by
  simp [storeRow, offline]

theorem doUpdate_offline {a : IRCDDBApp} (offline : a.initReady = false) (tm_isdst : Int) (msg : Str) :
    a.doUpdate tm_isdst msg = a := by
  unfold doUpdate
  split
  · exact storeRow_offline offline _ _
  · rfl

/-- Until the application is ready the gateways stay as they are. -/
theorem AppCase.rptrGate_offline {a a' : IRCDDBApp} {e : AppEvent} {o : List IRCMessage}
    (offline : a.initReady = false) (case : AppCase a e a' o) :
    a'.cache.rptrGate = a.cache.rptrGate := by
  cases case with
  | entry order _ _ case => rw [case.cache]
  | joined nick name addr => exact (userJoin_frame a nick name addr).rptrGate
  | update e msg text => rw [doUpdate_offline offline]
  | _ => rfl

/-- It becomes ready on its way to standby only. -/
theorem AppCase.initReady {a a' : IRCDDBApp} {e : AppEvent} {o : List IRCMessage}
    (offline : a.initReady = false) (case : AppCase a e a' o) :
    a'.initReady = false ∨ a'.state = 7 := by
  cases case with
  | entry order _ _ case => cases case <;> first | exact .inl offline | simp
  | joined nick name addr => exact .inl ((userJoin_frame a nick name addr).initReady.trans offline)
  | update e msg text =>
      rw [doUpdate_offline offline]
      exact .inl offline
  | serverLeft nick server => exact .inl rfl
  | _ => exact .inl offline

/-- The application is not in standby yet. -/
def Early (a : IRCDDBApp) (_ : AppEvent) : Prop := a.state ≠ 7

instance (a : IRCDDBApp) (e : AppEvent) : Decidable (Early a e) := inferInstanceAs (Decidable (¬_ = _))

/-- A connection being set up: from where the application is not ready to the first moment
in standby. -/
structure SetUp (s₀ : IRCDDBApp) (tr : List AppEntry) (s : IRCDDBApp) : Prop where
  run : Run step s₀ tr s
  offline : s₀.initReady = false
  first : Under Early tr
  standby : s.state = 7

/-- The gateway that a row of the download gives a repeater: a row of an update that the
server sends while the application waits for its answers. -/
def downloadedFor (key : Str) (x : AppEntry) : Option Str :=
  if x.pre.state = 5 then
    match x.event with
    | .msgQuery m _ => (queryText m).bind (gatewayFor key)
    | _ => none
  else none

theorem downloadedFor_eq_some {key gate : Str} {x : AppEntry} (h : downloadedFor key x = some gate) :
    ∃ msg, gatewayFor key msg = some gate := by
  unfold downloadedFor at h
  split at h
  · split at h
    · obtain ⟨msg, -, gives⟩ := Option.bind_eq_some_iff.mp h
      exact ⟨msg, gives⟩
    · cases h
  · cases h

theorem SetUp.rptrGate {s₀ s : IRCDDBApp} {tr : List AppEntry} (up : SetUp s₀ tr s) :
    s.cache.rptrGate = s₀.cache.rptrGate := by
  have both : (s.initReady = false ∨ s.state = 7) ∧ s.cache.rptrGate = s₀.cache.rptrGate := by
    refine up.run.invariant (I := fun s => (s.initReady = false ∨ s.state = 7) ∧
      s.cache.rptrGate = s₀.cache.rptrGate) ⟨.inl up.offline, rfl⟩ ?_ up.first
    intro a e a' o inv early taken
    have offline : a.initReady = false := inv.1.resolve_right early
    have case := step_case taken
    exact ⟨case.initReady offline, (case.rptrGate_offline offline).trans inv.2⟩
  exact both.2

/-- In standby a downloaded repeater has the gateway of its last row exactly when the
cache had that entry before the download. -/
theorem download_kept_iff {s₀ s : IRCDDBApp} {tr : List AppEntry} (up : SetUp s₀ tr s)
    {key gate : Str} (got : lastOf (downloadedFor key) tr = some gate) :
    (s.cache.findRptrData (callsignOf key)).1 = gate ↔
      s₀.cache.rptrGate[callsignOf key]? = some gate := by
  obtain ⟨_, -, row⟩ := exists_of_lastOf got
  obtain ⟨msg, gives⟩ := downloadedFor_eq_some row
  obtain ⟨value, names, away, rfl⟩ := gatewayFor_eq_some.mp gives
  obtain ⟨hk, hv⟩ := valueFor_form names
  have apart : gatewayOf key ≠ gatewayOf value := by
    intro same
    have six := congrArg (List.take 6) ((gatewayOf_inj hk hv).mp same)
    simp only [List.take_take] at six
    exact away six
  rw [findRptrData_gate _ hk, up.rptrGate]
  cases s₀.cache.rptrGate[callsignOf key]? with
  | none => simpa using apart
  | some old => simp

section
open Sample

/-- A row of the download that the cache knows from an earlier connection. -/
theorem known_row_kept : ∃ s₀ tr s, SetUp s₀ tr s ∧
    lastOf (downloadedFor (str "AB1CDE_B")) tr = some (str "ZZ9ZZZ G") ∧
    (s.cache.findRptrData (str "AB1CDE B")).1 = str "ZZ9ZZZ G" := by
  obtain ⟨tr, s, run, accepted⟩ := Sample.appRun 950000000
    (CacheManager.empty.updateRptr (str "AB1CDE B") (str "ZZ9ZZZ G") [])
    (connect ++ row :: complete)
    (fun tr s => decide (Under Early tr ∧ s.state = 7 ∧
      lastOf (downloadedFor (str "AB1CDE_B")) tr = some (str "ZZ9ZZZ G"))) (by decide +kernel)
  obtain ⟨first, standby, got⟩ := of_decide_eq_true accepted
  have kept := (download_kept_iff ⟨run, rfl, first, standby⟩ got).mpr (by decide +kernel)
  exact ⟨_, tr, s, ⟨run, rfl, first, standby⟩, got, kept⟩

/-- A row of the first download that is lost. -/
theorem new_row_lost : ∃ tr s, AppRun 950000000 .empty tr s ∧ SetUp (.new 950000000 .empty) tr s ∧
    lastOf (downloadedFor (str "AB1CDE_B")) tr = some (str "ZZ9ZZZ G") ∧
    (s.cache.findRptrData (str "AB1CDE B")).1 = str "AB1CDE G" := by
  obtain ⟨tr, s, run, accepted⟩ := Sample.appRun 950000000 .empty (connect ++ row :: complete)
    (fun tr s => decide (Under Early tr ∧ s.state = 7 ∧
      lastOf (downloadedFor (str "AB1CDE_B")) tr = some (str "ZZ9ZZZ G") ∧
      (s.cache.findRptrData (str "AB1CDE B")).1 = str "AB1CDE G")) (by decide +kernel)
  obtain ⟨first, standby, got, lost⟩ := of_decide_eq_true accepted
  exact ⟨tr, s, run, ⟨run, rfl, first, standby⟩, got, lost⟩

end

end IRCDDBApp
end SmartGroup
