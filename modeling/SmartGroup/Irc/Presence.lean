import SmartGroup.Irc.Effects
import SmartGroup.Support.Last

/-! Which gateways are there. The cache has one address for a gateway; a join of any nick
of a name writes it and a leave of any nick of the name erases it. -/
namespace SmartGroup
open Bytes Sweep Machine Last

/-- A join or a leave of the nick `name-digit`. -/
inductive Visit where
  | join (name : Str) (digit : UInt8) (addr : Str)
  | leave (name : Str) (digit : UInt8)
  deriving DecidableEq

def nickOf (name : Str) (digit : UInt8) : Str := name ++ [45, digit]

/-- The gateway of a name. -/
def gateOfName (name : Str) : Str := padTo 7 (toUpper name) ++ [71]

namespace Visit

def event : Visit → AppEvent
  | join name digit addr => .userJoin (nickOf name digit) name addr
  | leave name digit => .userLeave (nickOf name digit)

/-- What the visit says of a nick: the address it has joined with, or that it has left. -/
def reports (nick : Str) : Visit → Option (Option Str)
  | join name digit addr => if nickOf name digit = nick then some (some addr) else none
  | leave name digit => if nickOf name digit = nick then some none else none

/-- What the visit does to the address of a gateway: write it or erase it. -/
def effect (gate : Str) : Visit → Option (Option Str)
  | join name digit addr =>
      if (nickOf name digit).take 2 ≠ str "u-" ∧ addr ≠ [] ∧
          replaceChar (gateOfName name) 95 32 = gate then some (some addr)
      else none
  | leave name digit =>
      if (nickOf name digit).take 2 ≠ str "s-" ∧ gateOfName name = gate then some none else none

theorem effect_ne_nil {gate address : Str} {v : Visit}
    (written : v.effect gate = some (some address)) : address ≠ [] := by
  cases v with
  | join name digit addr =>
      simp only [effect] at written
      split at written
      · rename_i writes
        cases written
        exact writes.2.1
      · cases written
  | leave name digit =>
      simp only [effect] at written
      split at written <;> cases written

end Visit

/-- The address that a nick on line has given. -/
def online (visits : List Visit) (nick : Str) : Option Str :=
  (lastOf (Visit.reports nick) visits).join

/-- The address is there exactly when a nick of the name is on line, and is one that such
a nick gave. -/
def Tracked (visits : List Visit) (name address : Str) : Prop :=
  (address ≠ [] ↔ ∃ d, online visits (nickOf name d) ≠ none) ∧
    (address ≠ [] → ∃ d, online visits (nickOf name d) = some address)

/-- The last visit that concerns the gateway is a join with an address of a nick on line,
or a leave with no nick on line; without such a visit there was no address to begin with,
and no nick is on line. -/
def Settles (visits : List Visit) (name first : Str) : Prop :=
  match lastOf (Visit.effect (gateOfName name)) visits with
  | some (some address) => ∃ d, online visits (nickOf name d) = some address
  | some none => ∀ d, online visits (nickOf name d) = none
  | none => first = [] ∧ ∀ d, online visits (nickOf name d) = none

theorem isAlnum_ne_mark {b : UInt8} (alnum : isAlnum b = true) : b ≠ 45 ∧ b ≠ 95 := by
  constructor
  · rintro rfl
    exact absurd alnum (by decide)
  · rintro rfl
    exact absurd alnum (by decide)

theorem mark_mem_gateOfName {name : Str} : 95 ∈ gateOfName name ↔ 95 ∈ name.take 7 := by
  have front : (toUpper name).take 7 = toUpper (name.take 7) := List.map_take.symm
  have mark {s : Str} : (95 : UInt8) ∈ toUpper s ↔ 95 ∈ s := mem_toUpper_other rfl
  have blanks : (95 : UInt8) ∉ (List.replicate 7 32).take (7 - (toUpper name).length) := by
    intro member
    exact absurd (List.eq_of_mem_replicate (List.mem_of_mem_take member)) (by decide)
  simp only [gateOfName, padTo, List.take_append, front, List.mem_append, mark,
    List.mem_singleton, blanks, or_false]
  exact or_iff_left (by decide)

/-- The gateway of such a name has no underscore for `updateGate` to replace. -/
theorem replaceChar_gateOfName {name : Str} (alnum : Alphanumeric name) :
    replaceChar (gateOfName name) 95 32 = gateOfName name := by
  apply replaceChar_eq_self
  rw [mark_mem_gateOfName]
  intro member
  exact (isAlnum_ne_mark (alnum 95 (List.mem_of_mem_take member))).2 rfl

/-- The only name of letters and digits whose nicks are not noticed when they join. -/
theorem name_of_u {name : Str} (alnum : Alphanumeric name) {d : UInt8}
    (skipped : (nickOf name d).take 2 = str "u-") : name = str "u" := by
  cases name with
  | nil => simp [nickOf, str] at skipped
  | cons b name =>
      cases name with
      | nil =>
          have head := congrArg List.head? skipped
          simp only [nickOf, List.cons_append, List.take_succ_cons, List.head?_cons, str] at head
          simpa [str] using head
      | cons c name =>
          have second := congrArg (fun l : Str => l[1]?) skipped
          have mark := (isAlnum_ne_mark (alnum c (by simp))).1
          simp only [nickOf, List.cons_append, List.take_succ_cons, List.getElem?_cons_succ,
            List.getElem?_cons_zero, str] at second
          simp at second
          exact absurd second mark

namespace IRCDDBApp

/-- The application after a visit. -/
def visit (a : IRCDDBApp) : Visit → IRCDDBApp
  | .join name digit addr => a.userJoin (nickOf name digit) name addr
  | .leave name digit =>
      if (nickOf name digit).take 2 = str "s-" then
        { a with currentServer := [], state := 2, timer := 200, initReady := false }
      else { a with cache := (a.cache.eraseName name).eraseGate (gateOfName name) }

theorem step_visit (a : IRCDDBApp) (v : Visit) : step a v.event = .ok (a.visit v, []) := by
  cases v with
  | join name digit addr => rfl
  | leave name digit =>
      by_cases server : (nickOf name digit).take 2 = str "s-"
      · simp [step, Visit.event, userLeave, visit, server]
      · have shorter : (nickOf name digit).dropLast = name ++ [45] := by
          simp [nickOf]
        simp [step, Visit.event, userLeave, visit, server, shorter, gateOfName]

theorem gateOfName_ne_nil (name : Str) : gateOfName name ≠ [] := by
  simp [gateOfName]

theorem updateGate_gateAddr (c : CacheManager) {gate : Str} (named : gate ≠ []) (addr k : Str) :
    (c.updateGate gate addr).gateAddr[k]? =
      if addr ≠ [] ∧ replaceChar gate 95 32 = k then some addr else c.gateAddr[k]? := by
  by_cases empty : addr = []
  · simp [CacheManager.updateGate, empty]
  · simp only [CacheManager.updateGate, named, empty, or_self, if_false, get_insert, ne_eq,
      not_false_eq_true, true_and]
    rfl

/-- The address of a gateway after a visit. -/
theorem visit_gateAddr (a : IRCDDBApp) (gate : Str) (v : Visit) :
    some (a.visit v).cache.gateAddr[gate]? = (v.effect gate).or (some a.cache.gateAddr[gate]?) := by
  cases v with
  | join name digit addr =>
      by_cases user : (nickOf name digit).take 2 = str "u-"
      · simp [visit, userJoin, Visit.effect, user]
      · have cache : (a.visit (.join name digit addr)).cache =
            (a.cache.updateName name (nickOf name digit)).updateGate (gateOfName name) addr := by
          simp only [visit, userJoin, user, if_false]
          rfl
        rw [cache, updateGate_gateAddr _ (gateOfName_ne_nil name), CacheManager.updateName_gateAddr]
        simp only [Visit.effect, user, ne_eq, not_false_eq_true, true_and]
        split <;> rfl
  | leave name digit =>
      by_cases server : (nickOf name digit).take 2 = str "s-"
      · simp [visit, Visit.effect, server]
      · simp only [visit, Visit.effect, server, if_false, CacheManager.eraseGate,
          CacheManager.eraseName, get_erase, ne_eq, not_false_eq_true, true_and]
        split <;> rfl

/-- The address of a gateway after the visits. -/
theorem visits_gateAddr (a : IRCDDBApp) (gate : Str) (visits : List Visit) :
    (visits.foldl visit a).cache.gateAddr[gate]? =
      (lastOf (Visit.effect gate) visits).getD a.cache.gateAddr[gate]? := by
  have replayed := replay (l := visits) (s := a) visit
    (fun a : IRCDDBApp => some a.cache.gateAddr[gate]?) (Visit.effect gate) (fun _ => True)
    (fun _ _ _ _ => trivial) (fun a v _ _ => visit_gateAddr a gate v) trivial
  have same := replayed.2
  cases last : lastOf (Visit.effect gate) visits with
  | none => simpa [last] using same
  | some e => simpa [last] using same

theorem findGateAddress_eq (c : CacheManager) (name : Str) :
    c.findGateAddress (gateOfName name) = (c.gateAddr[gateOfName name]?).getD [] := by
  simp only [CacheManager.findGateAddress, CacheManager.findGateAddr,
    if_neg (gateOfName_ne_nil name)]

theorem join_of_online {visits : List Visit} {name : Str} {d : UInt8} {address : Str}
    (there : online visits (nickOf name d) = some address) :
    .join name d address ∈ visits := by
  obtain ⟨v, member, answer⟩ := exists_of_lastOf (Option.join_eq_some_iff.mp there)
  cases v with
  | join other d' addr =>
      simp only [Visit.reports] at answer
      split at answer
      · rename_i same
        cases answer
        obtain ⟨rfl, rest⟩ := List.append_inj' same rfl
        simp only [List.cons.injEq, true_and, and_true] at rest
        rwa [rest] at member
      · cases answer
  | leave other d' =>
      simp only [Visit.reports] at answer
      split at answer <;> cases answer

/-- An address that the reset has left is not one that a nick of the name gave, unless a
join has written it again. -/
theorem untouched_address {a : IRCDDBApp} {visits : List Visit} {name : Str}
    (alnum : Alphanumeric name) (untouched : lastOf (Visit.effect (gateOfName name)) visits = none)
    (left : a.userListReset.cache.findGateAddress (gateOfName name) ≠ []) (d : UInt8) :
    online visits (nickOf name d) ≠
      some (a.userListReset.cache.findGateAddress (gateOfName name)) := by
  intro there
  have silent := lastOf_eq_none_iff.mp untouched _ (join_of_online there)
  simp only [Visit.effect, replaceChar_gateOfName alnum, and_true, ne_eq, left, not_false_eq_true,
    ite_eq_right_iff, reduceCtorEq, imp_false, not_not] at silent
  obtain rfl := name_of_u alnum silent
  rw [findGateAddress_eq] at left
  apply left
  have gone : CacheManager.isReflector (gateOfName (str "u")) = false := by decide +kernel
  simp [userListReset, CacheManager.clearGate, gone]

/-- Visits never fail, and after them the address of a gateway is right exactly when the
last visit that concerns it settles it. -/
theorem presence_iff (a : IRCDDBApp) (visits : List Visit) {name : Str} (alnum : Alphanumeric name) :
    ∃ tr s, exec step a.userListReset (visits.map Visit.event) = .ok (tr, s) ∧
      (Tracked visits name (s.cache.findGateAddress (gateOfName name)) ↔
        Settles visits name (a.userListReset.cache.findGateAddress (gateOfName name))) := by
  obtain ⟨tr, ran⟩ := exec_total (fun a v => ⟨[], step_visit a v⟩) a.userListReset visits
  refine ⟨tr, _, ran, ?_⟩
  have after := visits_gateAddr a.userListReset (gateOfName name) visits
  cases last : lastOf (Visit.effect (gateOfName name)) visits with
  | none =>
      have same : (visits.foldl visit a.userListReset).cache.findGateAddress (gateOfName name) =
          a.userListReset.cache.findGateAddress (gateOfName name) := by
        rw [findGateAddress_eq, after, last, Option.getD_none, findGateAddress_eq]
      rw [same]
      simp only [Tracked, Settles, last]
      by_cases nothing : a.userListReset.cache.findGateAddress (gateOfName name) = []
      · simp [nothing]
      · refine iff_of_false ?_ (fun settled => nothing settled.1)
        rintro ⟨-, given⟩
        obtain ⟨d, there⟩ := given nothing
        exact untouched_address alnum last nothing d there
  | some effect =>
      cases effect with
      | none =>
          rw [findGateAddress_eq, after, last]
          simp [Tracked, Settles, last]
      | some address =>
          obtain ⟨v, -, written⟩ := exists_of_lastOf last
          have full := Visit.effect_ne_nil written
          rw [findGateAddress_eq, after, last]
          simp only [Option.getD_some, Tracked, Settles, last, ne_eq, full, not_false_eq_true,
            true_iff, true_imp_iff]
          refine ⟨fun both => both.2, fun there => ⟨?_, there⟩⟩
          obtain ⟨d, given⟩ := there
          exact ⟨d, by simp [given]⟩

end IRCDDBApp

namespace Sample

def caller : Str := str "n0call"

/-- A user who leaves and comes back under another nick. -/
def comeBack : List Visit :=
  [.join caller 49 (str "44.0.0.1"), .leave caller 49, .join caller 50 (str "44.0.0.2")]

/-- A user who comes back before the server drops his old nick. -/
def reconnect : List Visit :=
  [.join caller 49 (str "44.0.0.1"), .join caller 50 (str "44.0.0.2"), .leave caller 49]

end Sample

namespace IRCDDBApp
open Sample

theorem returned_user_tracked : ∃ tr s,
    exec step standby.userListReset (comeBack.map Visit.event) = .ok (tr, s) ∧
      Tracked comeBack Sample.caller (s.cache.findGateAddress (gateOfName Sample.caller)) := by
  obtain ⟨tr, s, ran, tracked⟩ := presence_iff standby comeBack
    (show Alphanumeric Sample.caller by decide +kernel)
  exact ⟨tr, s, ran, tracked.mpr ⟨50, by decide +kernel⟩⟩

/-- The old nick's leave takes the address of the new one with it. -/
theorem reconnected_user_lost : ∃ tr s,
    exec step standby.userListReset (reconnect.map Visit.event) = .ok (tr, s) ∧
      online reconnect (nickOf Sample.caller 50) = some (str "44.0.0.2") ∧
      ¬Tracked reconnect Sample.caller (s.cache.findGateAddress (gateOfName Sample.caller)) := by
  obtain ⟨tr, ran⟩ := exec_total (fun a v => ⟨[], step_visit a v⟩) standby.userListReset reconnect
  have gone : (reconnect.foldl visit standby.userListReset).cache.findGateAddress
      (gateOfName Sample.caller) = [] := by decide +kernel
  have there : online reconnect (nickOf Sample.caller 50) = some (str "44.0.0.2") := by decide +kernel
  refine ⟨tr, _, ran, there, fun tracked => ?_⟩
  exact tracked.1.mpr ⟨50, by simp [there]⟩ gone

end IRCDDBApp
end SmartGroup
