import SmartGroup.Irc.Effects
import SmartGroup.Irc.Update

/-! The shape of the callsigns in a cache, whatever the network sends and the host files
hold. -/
namespace SmartGroup
open Bytes Sweep Machine

/-- A callsign with its blanks. -/
def Eight (s : Str) : Prop := s.length = longCallsignLength

/-- What writes to a cache: the application, and `loadReflectors` with the first word of
a line and the address of the second. -/
inductive FeedEvent where
  | app (e : AppEvent)
  | load (name address : Str)

namespace CacheManager

structure Shaped (c : CacheManager) : Prop where
  userRptr : AllEntries (fun user rptr => Eight user ∧ Eight rptr) c.userRptr
  rptrGate : AllEntries (fun rptr gate => Eight rptr ∧ Eight gate) c.rptrGate
  gateAddr : AllEntries (fun gate _ => Eight gate) c.gateAddr

/-- The lookups of a user: `findRptrGate` writes inside its string, and an address has a
repeater and a gateway. -/
structure Sound (c : CacheManager) (user : Str) : Prop where
  inside : c.findUserRptr user ≠ [] → 7 < (c.findUserRptr user).length
  known : (c.findUserData user).addr ≠ [] →
    Eight (c.findUserData user).rptr ∧ Eight (c.findUserData user).gate

section
variable {c : CacheManager}

theorem shaped_empty : empty.Shaped := ⟨allEntries_empty _, allEntries_empty _, allEntries_empty _⟩

theorem Shaped.updateName (shaped : c.Shaped) (name nick : Str) : (c.updateName name nick).Shaped := by
  unfold CacheManager.updateName
  split
  · exact shaped
  · exact ⟨shaped.userRptr, shaped.rptrGate, shaped.gateAddr⟩

theorem Shaped.updateGate (shaped : c.Shaped) {gate : Str} (form : Eight gate) (addr : Str) :
    (c.updateGate gate addr).Shaped := by
  unfold CacheManager.updateGate
  split
  · exact shaped
  · refine ⟨shaped.userRptr, shaped.rptrGate, shaped.gateAddr.insert ?_⟩
    unfold Eight at form ⊢
    rwa [List.length_map]

theorem Shaped.updateRptr (shaped : c.Shaped) {rptr gate : Str} (named : Eight rptr) (form : Eight gate) :
    (c.updateRptr rptr gate []).Shaped := by
  unfold CacheManager.updateRptr
  split
  · exact shaped
  · exact ⟨shaped.userRptr, shaped.rptrGate.insert ⟨named, form⟩, shaped.gateAddr⟩

theorem Shaped.updateUser (shaped : c.Shaped) {user rptr : Str} (named : Eight user) (form : Eight rptr)
    (time : Str) : (c.updateUser user rptr [] [] time).Shaped := by
  unfold CacheManager.updateUser
  split
  · exact shaped
  · have noted : (if time = [] then c else { c with userTime := c.userTime.insert user time }).Shaped := by
      split
      · exact shaped
      · exact ⟨shaped.userRptr, shaped.rptrGate, shaped.gateAddr⟩
    simp only [true_or, if_true]
    split
    · exact noted
    · exact ⟨noted.userRptr.insert ⟨named, form⟩, noted.rptrGate, noted.gateAddr⟩

theorem Shaped.erase (shaped : c.Shaped) (name gate : Str) : ((c.eraseName name).eraseGate gate).Shaped :=
  ⟨shaped.userRptr, shaped.rptrGate, shaped.gateAddr.erase gate⟩

theorem Shaped.clearGate (shaped : c.Shaped) : c.clearGate.Shaped :=
  ⟨shaped.userRptr, shaped.rptrGate, shaped.gateAddr.filter _⟩

theorem Shaped.findUserRptr (shaped : c.Shaped) {user : Str} (named : c.findUserRptr user ≠ []) :
    Eight (c.findUserRptr user) := by
  unfold CacheManager.findUserRptr at named ⊢
  split
  · rename_i none
    rw [if_pos none] at named
    exact absurd rfl named
  · rename_i some
    rw [if_neg some] at named
    cases found : c.userRptr[user]? with
    | none =>
        rw [found] at named
        exact absurd rfl named
    | some rptr => exact (shaped.userRptr user rptr found).2

theorem Shaped.findRptrGate (shaped : c.Shaped) {rptr : Str} (form : Eight rptr) : Eight (c.findRptrGate rptr) := by
  unfold CacheManager.findRptrGate
  split
  · rename_i none
    exact none ▸ form
  · split
    · rename_i gate found
      exact (shaped.rptrGate rptr gate found).2
    · unfold Eight at form ⊢
      rwa [List.length_set]

theorem Shaped.sound (shaped : c.Shaped) (user : Str) : c.Sound user where
  inside := by
    intro named
    rw [shaped.findUserRptr named]
    decide
  known := by
    intro known
    have named : c.findUserRptr user ≠ [] := by
      intro none
      exact known (c.findUserAddr_of_no_repeater none)
    have form := shaped.findUserRptr named
    exact ⟨form, shaped.findRptrGate form⟩

end

end CacheManager

namespace IRCDDBApp

/-- `loadReflectors`, a line of a host file with a host that is found. -/
def loadReflector (a : IRCDDBApp) (name address : Str) : IRCDDBApp :=
  { a with cache := a.cache.updateGate (padTo 7 name ++ [71]) address }

/-- The application with the loads of reflectors between its steps. -/
def feed : Machine.Step IRCDDBApp FeedEvent IRCMessage AppFault
  | a, .app e => a.step e
  | a, .load name address => .ok (a.loadReflector name address, [])

theorem eight_gate (name : Str) : Eight (padTo 7 name ++ [71]) := by
  simp [Eight, padTo, longCallsignLength]

theorem eight_callsignOf {key : Str} (form : dbPattern key) : Eight (callsignOf key) := by
  simp [Eight, callsignOf, longCallsignLength, length_of_dbPattern form]

theorem eight_gatewayOf {value : Str} (form : dbPattern value) : Eight (gatewayOf value) := by
  simp [Eight, gatewayOf, callsignOf, longCallsignLength, length_of_dbPattern form]

theorem doUpdate_shaped {a : IRCDDBApp} (shaped : a.cache.Shaped) (tm_isdst : Int) (msg : Str) :
    (a.doUpdate tm_isdst msg).cache.Shaped := by
  unfold doUpdate
  split
  · rename_i row _
    unfold storeRow
    split
    · split
      · exact shaped.updateRptr (eight_callsignOf row.keyForm) (eight_gatewayOf row.valueForm)
      · exact shaped
    · split
      · exact shaped.updateUser (eight_callsignOf row.keyForm) (eight_callsignOf row.valueForm) row.tstr
      · exact shaped
  · exact shaped

theorem feed_shaped {a a' : IRCDDBApp} {e : FeedEvent} {o : List IRCMessage} (shaped : a.cache.Shaped)
    (taken : feed a e = .ok (a', o)) : a'.cache.Shaped := by
  cases e with
  | load name address =>
      cases taken
      exact shaped.updateGate (eight_gate name) address
  | app e =>
      cases step_case taken with
      | entry order _ _ case =>
          rw [case.cache]
          exact shaped
      | joined nick name addr =>
          unfold userJoin
          split
          · exact shaped
          · exact (shaped.updateName name nick).updateGate (eight_gate (toUpper name)) addr
      | userLeft name d user => exact shaped.erase name _
      | reset => exact shaped.clearGate
      | update e msg text => exact doUpdate_shaped shaped _ msg
      | _ => exact shaped

end IRCDDBApp

/-- A content that a cache can come to have, starting empty. -/
def CacheManager.Fed (c : CacheManager) : Prop :=
  ∃ m_maxTime tr a, Run IRCDDBApp.feed (.new m_maxTime .empty) tr a ∧ a.cache = c

theorem CacheManager.Fed.shaped {c : CacheManager} (fed : c.Fed) : c.Shaped := by
  obtain ⟨m_maxTime, tr, a, run, rfl⟩ := fed
  apply run.always (I := fun a => a.cache.Shaped)
  · exact shaped_empty.clearGate
  · intro a e a' o shaped taken
    exact IRCDDBApp.feed_shaped shaped taken

end SmartGroup
