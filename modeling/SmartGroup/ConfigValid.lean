import SmartGroup.Config

/-! Which configurations are valid. `get_value` returns whether a text has the length that
was asked for, and the constructor uses that for the reflector and the callsign of the
gateway alone; the other texts are kept with whatever length they have. -/
namespace SmartGroup
open Bytes

/-- Letters and digits in upper case. -/
def IsBasename (base : Str) : Prop :=
  base ≠ [] ∧ base.length ≤ 7 ∧ Alphanumeric base ∧ toUpper base = base

theorem letter_toUpper (s : Str) (i : Nat) : letter (toUpper s) i = upper (letter s i) := by
  rw [letter, letter, toUpper_eq, List.getElem?_map]
  cases s[i]? <;> rfl

/-- What a module is promised to be. -/
structure Smodule.Valid (m : Smodule) : Prop where
  callsign : m.callsign.length = 8
  logoff : m.logoff.length = 8
  differ : m.callsign ≠ m.logoff
  basename : ∃ base, IsBasename base ∧ m.callsign.take 7 = padTo 7 base ∧
    m.logoff.take 7 = padTo 7 base
  band : ∃ b, m.band = [b] ∧ isAlpha b = true ∧ b ≠ 71
  reflector : m.reflector = [] ∨
    m.reflector.length = 8 ∧ (m.reflector.take 3 = str "XRF" ∨ m.reflector.take 3 = str "DCS")
  receiveOnly : m.listenOnly = true → m.reflector ≠ []
  timeout : m.usertimeout ≤ 600

structure CSGSConfig.Valid (c : CSGSConfig) : Prop where
  modules : ∀ m ∈ c.modules, m.Valid
  password : c.remoteEnabled = true →
    c.remotePassword = [] ∨ 6 ≤ c.remotePassword.length ∧ c.remotePassword.length ≤ 30

namespace CSGSConfig

/-- A module's option as the file has it, or its default. -/
def given (cfg : Config) (i : Nat) (option : String) (default : Str) : Str :=
  (cfg.lookupString (key "module" i option)).getD default

def basenameGiven (cfg : Config) (i : Nat) : Str := given cfg i "basename" []

def bandGiven (cfg : Config) (i : Nat) : Str := given cfg i "band" (str "A")

def subscribeGiven (cfg : Config) (i : Nat) : Str := given cfg i "subscribe" (str "A")

def unsubscribeGiven (cfg : Config) (i : Nat) : Str := given cfg i "unsubscribe" (str "T")

def reflectorGiven (cfg : Config) (i : Nat) : Str := given cfg i "reflector" []

/-- The reasons for which a module is skipped. -/
inductive Refused (cfg : Config) (i : Nat) : Prop where
  | nameless (empty : basenameGiven cfg i = [])
  | malformed (fits : Measures 1 7 (basenameGiven cfg i)) (odd : ¬Alphanumeric (basenameGiven cfg i))
  | band (odd : isAlpha (letter (bandGiven cfg i) 0) = false)
  | gateway (reserved : letter (bandGiven cfg i) 0 = 71 ∨ letter (bandGiven cfg i) 0 = 103)
  | subscribe (odd : isAlpha (letter (subscribeGiven cfg i) 0) = false)
      (mark : letter (subscribeGiven cfg i) 0 ≠ 32)
  | unsubscribe (odd : isAlpha (letter (unsubscribeGiven cfg i) 0) = false)
  | subscribeL (link : letter (subscribeGiven cfg i) 0 = 76 ∨ letter (subscribeGiven cfg i) 0 = 108)
  | unsubscribeL
      (link : letter (unsubscribeGiven cfg i) 0 = 76 ∨ letter (unsubscribeGiven cfg i) 0 = 108)
  | same (same : toUpper (subscribeGiven cfg i) = toUpper (unsubscribeGiven cfg i))

/-- The lengths that the constructor reports and does not enforce. -/
structure Proper (cfg : Config) (i : Nat) : Prop where
  basename : Measures 1 7 (basenameGiven cfg i) ∨
    ∃ base, IsBasename base ∧ padTo 7 (basenameGiven cfg i) = padTo 7 base
  band : (bandGiven cfg i).length ≤ 1
  subscribe : (subscribeGiven cfg i).length ≤ 1
  unsubscribe : (unsubscribeGiven cfg i).length ≤ 1
  reflector : Measures 8 8 (reflectorGiven cfg i) → IsReflector (toUpper (reflectorGiven cfg i)) →
    (reflectorGiven cfg i).length = 8

/-- What the constructor's turn leaves of the options. -/
structure Built (cfg : Config) (i : Nat) (m : Smodule) : Prop where
  band : m.band = toUpper (bandGiven cfg i)
  callsign : m.callsign = padTo 7 (basenameAt cfg i) ++ toUpper (subscribeGiven cfg i)
  logoff : m.logoff = padTo 7 (basenameAt cfg i) ++ toUpper (unsubscribeGiven cfg i)
  reflector : m.reflector = reflectorAt cfg i
  receiveOnly : m.listenOnly = true → 8 ≤ m.reflector.length
  timeout : m.usertimeout ≤ 600

theorem getString_fst (cfg : Config) (path : Str) (min max : Int) (default : Str) :
    (getString cfg path min max default).1 = (cfg.lookupString path).getD default := by
  unfold getString
  cases cfg.lookupString path <;> rfl

theorem getInt_bounds (cfg : Config) (path : Str) {min max default : Int} (low : min ≤ default)
    (high : default ≤ max) :
    min ≤ getInt cfg path min max default ∧ getInt cfg path min max default ≤ max := by
  unfold getInt
  cases cfg.lookupInt path with
  | none => exact ⟨low, high⟩
  | some n =>
      simp only
      split <;> omega

theorem not_measures_nil {min max : Int} (positive : 0 < min) : ¬Measures min max [] := by
  rintro ⟨low, -⟩
  exact absurd (Int.lt_of_lt_of_le positive low) (by decide)

theorem basenameAt_eq (cfg : Config) (i : Nat) :
    basenameAt cfg i =
      if Measures 1 7 (basenameGiven cfg i) then
        if Alphanumeric (basenameGiven cfg i) then toUpper (basenameGiven cfg i) else []
      else basenameGiven cfg i := by
  unfold basenameAt getString basenameGiven given
  cases cfg.lookupString (key "module" i "basename") with
  | none => rfl
  | some s =>
      have alnum : s.all isAlnum = true ↔ Alphanumeric s := List.all_eq_true
      simp only [Option.getD_some, decide_eq_true_eq, alnum]

theorem reflectorAt_eq (cfg : Config) (i : Nat) :
    reflectorAt cfg i =
      if Measures 8 8 (reflectorGiven cfg i) ∧ IsReflector (toUpper (reflectorGiven cfg i)) then
        toUpper (reflectorGiven cfg i)
      else [] := by
  unfold reflectorAt getString reflectorGiven given
  cases cfg.lookupString (key "module" i "reflector") with
  | none => rfl
  | some s =>
      simp only [Option.getD_some]
      by_cases fits : Measures 8 8 s
      · have nonempty : s ≠ [] := by
          rintro rfl
          exact not_measures_nil (by decide) fits
        simp [fits, nonempty]
      · simp [fits]

theorem bandAt_eq (cfg : Config) (i : Nat) : bandAt cfg i = toUpper (bandGiven cfg i) :=
  congrArg toUpper (getString_fst _ _ _ _ _)

theorem subscribeAt_eq (cfg : Config) (i : Nat) :
    subscribeAt cfg i = toUpper (subscribeGiven cfg i) :=
  congrArg toUpper (getString_fst _ _ _ _ _)

theorem unsubscribeAt_eq (cfg : Config) (i : Nat) :
    unsubscribeAt cfg i = toUpper (unsubscribeGiven cfg i) :=
  congrArg toUpper (getString_fst _ _ _ _ _)

theorem basenameAt_nil_iff (cfg : Config) (i : Nat) :
    basenameAt cfg i = [] ↔ basenameGiven cfg i = [] ∨
      Measures 1 7 (basenameGiven cfg i) ∧ ¬Alphanumeric (basenameGiven cfg i) := by
  rw [basenameAt_eq]
  by_cases fits : Measures 1 7 (basenameGiven cfg i)
  · by_cases alnum : Alphanumeric (basenameGiven cfg i) <;> simp [fits, alnum]
  · simp [fits]

/-- A test that clears the basename. -/
theorem clear_nil_iff {c : Prop} [Decidable c] {s : Str} :
    (if c then [] else s) = [] ↔ c ∨ s = [] := by
  by_cases h : c <;> simp [h]

theorem keep_nil_iff {c : Prop} [Decidable c] {s : Str} :
    (if c then s else []) = [] ↔ ¬c ∨ s = [] := by
  by_cases h : c <;> simp [h]

/-- The basename is cleared for these reasons and no other. -/
theorem checkedAt_nil_iff (cfg : Config) (i : Nat) : checkedAt cfg i = [] ↔ Refused cfg i := by
  have reserved (b : UInt8) : upper b = 71 ↔ b = 71 ∨ b = 103 := upper_eq_iff (by decide)
  have link (b : UInt8) : upper b = 76 ↔ b = 76 ∨ b = 108 := upper_eq_iff (by decide)
  have blank (b : UInt8) : upper b = 32 ↔ b = 32 := upper_eq_other rfl
  simp only [checkedAt, clear_nil_iff, keep_nil_iff, bandAt_eq, subscribeAt_eq, unsubscribeAt_eq,
    letter_toUpper, outside_upper, isAlpha_upper, basenameAt_nil_iff, reserved, link, blank,
    ne_eq, Bool.not_eq_true]
  constructor
  · rintro (h | h | h | h | h | h | h | h | h)
    · exact .same h
    · exact .unsubscribeL h
    · exact .unsubscribe h
    · exact .subscribeL h
    · exact .subscribe h.2 h.1
    · exact .gateway h
    · exact .band h
    · exact .nameless h
    · exact .malformed h.1 h.2
  · intro refused
    cases refused with
    | nameless empty => simp only [empty, true_or, or_true]
    | malformed fits odd => simp only [fits, odd, not_false_eq_true, and_self, or_true]
    | band odd => simp only [odd, true_or, or_true]
    | gateway reserved => simp only [reserved, true_or, or_true]
    | subscribe odd mark => simp only [odd, mark, not_false_eq_true, and_self, true_or, or_true]
    | unsubscribe odd => simp only [odd, true_or, or_true]
    | subscribeL link => simp only [link, true_or, or_true]
    | unsubscribeL link => simp only [link, true_or, or_true]
    | same same => simp only [same, true_or]

/-- What is not cleared is left as it was. -/
theorem checkedAt_eq {cfg : Config} {i : Nat} (named : checkedAt cfg i ≠ []) :
    checkedAt cfg i = basenameAt cfg i := by
  simp only [checkedAt, ne_eq, clear_nil_iff, keep_nil_iff, not_or, not_not] at named ⊢
  obtain ⟨same, unsubscribeL, unsubscribe, subscribeL, subscribe, gateway, band, -⟩ := named
  rw [if_neg same, if_neg unsubscribeL, if_neg (not_or.mpr unsubscribe), if_neg subscribeL,
    if_neg subscribe, if_neg gateway, if_pos band]

theorem exists_of_not_refused {cfg : Config} {i : Nat} (named : ¬Refused cfg i) :
    ∃ m, moduleAt cfg i = some m :=
  ⟨_, if_neg (mt (checkedAt_nil_iff cfg i).mp named)⟩

theorem built_of_some {cfg : Config} {i : Nat} {m : Smodule} (accepted : moduleAt cfg i = some m) :
    ¬Refused cfg i ∧ Built cfg i m := by
  simp only [moduleAt] at accepted
  split at accepted
  · cases accepted
  · rename_i named
    cases accepted
    have bounds := getInt_bounds cfg (key "module" i "usertimeout") (show (0 : Int) ≤ 300 by decide)
      (show (300 : Int) ≤ 600 by decide)
    refine ⟨mt (checkedAt_nil_iff cfg i).mpr named, bandAt_eq cfg i, ?_, ?_, rfl, ?_, ?_⟩
    · rw [checkedAt_eq named, subscribeAt_eq]
    · rw [checkedAt_eq named, unsubscribeAt_eq]
    · intro receiveOnly
      simp only at receiveOnly ⊢
      split at receiveOnly
      · cases receiveOnly
      · rename_i kept
        exact Nat.le_of_not_lt fun short => kept ⟨receiveOnly, short⟩
    · simp only
      omega

theorem padTo_take (s : Str) : padTo 7 (s.take 7) = padTo 7 s := by
  unfold padTo
  rcases Nat.le_total s.length 7 with short | long
  · rw [List.take_of_length_le short]
  · rw [List.take_append_of_le_length (by rw [List.length_take]; omega), List.take_take,
      List.take_append_of_le_length long, Nat.min_self]

/-- A text that has been looked through is a basename, cut to its room. -/
theorem isBasename_take {s : Str} (nonempty : s ≠ []) (alnum : Alphanumeric s) :
    IsBasename ((toUpper s).take 7) := by
  refine ⟨by simpa using nonempty, List.length_take_le 7 _, ?_, ?_⟩
  · intro b member
    obtain ⟨c, known, rfl⟩ := List.mem_map.mp (List.mem_of_mem_take member)
    exact (isAlnum_upper c).trans (alnum c known)
  · simp [toUpper_eq, List.map_take, Function.comp_def]

theorem take_padTo (s t : Str) : (padTo 7 s ++ t).take 7 = padTo 7 s :=
  List.take_left' (length_padTo 7 s)

section
variable {cfg : Config} {i : Nat}

theorem basename_given (named : ¬Refused cfg i)
    (proper : Measures 1 7 (basenameGiven cfg i) ∨
      ∃ base, IsBasename base ∧ padTo 7 (basenameGiven cfg i) = padTo 7 base) :
    ∃ base, IsBasename base ∧ padTo 7 (basenameAt cfg i) = padTo 7 base := by
  rw [basenameAt_eq]
  by_cases fits : Measures 1 7 (basenameGiven cfg i)
  · have nonempty : basenameGiven cfg i ≠ [] := fun empty => named (.nameless empty)
    have alnum : Alphanumeric (basenameGiven cfg i) := by
      by_contra odd
      exact named (.malformed fits odd)
    rw [if_pos fits, if_pos alnum]
    exact ⟨_, isBasename_take nonempty alnum, (padTo_take _).symm⟩
  · rw [if_neg fits]
    exact proper.resolve_left fits

theorem reflectorAt_valid
    (proper : Measures 8 8 (reflectorGiven cfg i) → IsReflector (toUpper (reflectorGiven cfg i)) →
      (reflectorGiven cfg i).length = 8) :
    reflectorAt cfg i = [] ∨ (reflectorAt cfg i).length = 8 ∧
      ((reflectorAt cfg i).take 3 = str "XRF" ∨ (reflectorAt cfg i).take 3 = str "DCS") := by
  rw [reflectorAt_eq]
  split
  · rename_i accepted
    refine .inr ⟨?_, accepted.2.1⟩
    rw [toUpper_length]
    exact proper accepted.1 accepted.2
  · exact .inl rfl

theorem subscribe_ne_nil (named : ¬Refused cfg i) : subscribeGiven cfg i ≠ [] := by
  intro empty
  apply named
  apply Refused.subscribe
  · rw [empty]
    rfl
  · rw [empty]
    decide

theorem unsubscribe_ne_nil (named : ¬Refused cfg i) : unsubscribeGiven cfg i ≠ [] := by
  intro empty
  apply named
  apply Refused.unsubscribe
  rw [empty]
  rfl

theorem band_valid (named : ¬Refused cfg i) (short : (bandGiven cfg i).length ≤ 1) :
    ∃ b, toUpper (bandGiven cfg i) = [b] ∧ isAlpha b = true ∧ b ≠ 71 := by
  have alpha : isAlpha (letter (bandGiven cfg i) 0) = true := by
    rw [← Bool.not_eq_false]
    exact fun odd => named (.band odd)
  cases whole : bandGiven cfg i with
  | nil =>
      rw [whole] at alpha
      cases alpha
  | cons b rest =>
      rw [whole, List.length_cons] at short
      have alone : rest = [] := List.eq_nil_of_length_eq_zero (by omega)
      have first : letter (bandGiven cfg i) 0 = b := by rw [whole]; rfl
      refine ⟨upper b, by rw [alone]; rfl, ?_, ?_⟩
      · rw [isAlpha_upper, ← first]
        exact alpha
      · intro reserved
        rw [upper_eq_iff (by decide), ← first] at reserved
        exact named (.gateway reserved)

theorem Built.proper {m : Smodule} (built : Built cfg i m) (valid : m.Valid) : Proper cfg i := by
  have seven := length_padTo 7 (basenameAt cfg i)
  have callsign := valid.callsign
  have logoff := valid.logoff
  rw [built.callsign, List.length_append, seven, toUpper_length] at callsign
  rw [built.logoff, List.length_append, seven, toUpper_length] at logoff
  obtain ⟨base, isBase, same, -⟩ := valid.basename
  obtain ⟨b, one, -⟩ := valid.band
  refine ⟨?_, ?_, by omega, by omega, ?_⟩
  · by_cases fits : Measures 1 7 (basenameGiven cfg i)
    · exact .inl fits
    · rw [built.callsign, take_padTo, basenameAt_eq, if_neg fits] at same
      exact .inr ⟨base, isBase, same⟩
  · rw [← toUpper_length, ← built.band, one]
    exact Nat.le_refl 1
  · intro fits form
    have reflector := valid.reflector
    rw [built.reflector, reflectorAt_eq, if_pos ⟨fits, form⟩, toUpper_nil_iff] at reflector
    rcases reflector with empty | ⟨eight, -⟩
    · exact absurd (empty ▸ fits) (not_measures_nil (by decide))
    · rwa [toUpper_length] at eight

theorem Built.valid {m : Smodule} (built : Built cfg i m) (named : ¬Refused cfg i)
    (proper : Proper cfg i) : m.Valid := by
  have seven := length_padTo 7 (basenameAt cfg i)
  have subscribe := List.length_pos_iff.mpr (subscribe_ne_nil named)
  have unsubscribe := List.length_pos_iff.mpr (unsubscribe_ne_nil named)
  have short := proper.subscribe
  have short' := proper.unsubscribe
  obtain ⟨base, isBase, same⟩ := basename_given named proper.basename
  refine ⟨?_, ?_, ?_, ⟨base, isBase, ?_, ?_⟩, ?_, ?_, ?_, built.timeout⟩
  · rw [built.callsign, List.length_append, seven, toUpper_length]
    omega
  · rw [built.logoff, List.length_append, seven, toUpper_length]
    omega
  · rw [built.callsign, built.logoff]
    exact fun equal => named (.same (List.append_cancel_left equal))
  · rw [built.callsign, take_padTo, same]
  · rw [built.logoff, take_padTo, same]
  · rw [built.band]
    exact band_valid named proper.band
  · rw [built.reflector]
    exact reflectorAt_valid proper.reflector
  · intro receiveOnly empty
    have long := built.receiveOnly receiveOnly
    rw [empty] at long
    cases long

/-- An accepted module is valid exactly when its options have the lengths asked for. -/
theorem module_valid_iff {m : Smodule} (accepted : moduleAt cfg i = some m) :
    m.Valid ↔ Proper cfg i := by
  obtain ⟨named, built⟩ := built_of_some accepted
  exact ⟨built.proper, built.valid named⟩

end

/-- With the remote control enabled, the file gives a password of the length asked for or none. -/
def PasswordFits (cfg : Config) : Prop :=
  cfg.lookupBool (str "remote.enabled") = some true →
    ∀ s, cfg.lookupString (str "remote.password") = some s → s = [] ∨ 6 ≤ s.length ∧ s.length ≤ 30

theorem readRemote_modules (cfg : Config) (c : CSGSConfig) :
    (readRemote cfg c).modules = c.modules := by
  unfold readRemote
  split <;> rfl

theorem password_valid_iff (cfg : Config) (c : CSGSConfig) :
    ((readRemote cfg c).remoteEnabled = true → (readRemote cfg c).remotePassword = [] ∨
      6 ≤ (readRemote cfg c).remotePassword.length ∧
        (readRemote cfg c).remotePassword.length ≤ 30) ↔ PasswordFits cfg := by
  unfold readRemote PasswordFits getBool
  by_cases enabled : cfg.lookupBool (str "remote.enabled") = some true
  · simp only [enabled, Option.getD_some, if_true, forall_const, getString_fst]
    cases cfg.lookupString (str "remote.password") with
    | none => simp
    | some s => simp
  · have off : (cfg.lookupBool (str "remote.enabled")).getD false ≠ true := by
      cases switch : cfg.lookupBool (str "remote.enabled") with
      | none => simp
      | some b => simpa [switch] using enabled
    simp [off, enabled]

/-- The file is read to its end. -/
structure Reads (cfg : Config) (n : Nat) : Prop where
  callsign : ∃ s, cfg.lookupString (str "gateway.callsign") = some s ∧ Measures 3 8 s
  counted : cfg.getLength (str "module") = .ok n

theorem read_of_reads (memory : CSGSConfig) {cfg : Config} {n : Nat} (reads : Reads cfg n) :
    ∃ c, c.modules = (List.range n).filterMap (moduleAt cfg) ∧
      read memory (some cfg) = .ok (readRemote cfg c) := by
  obtain ⟨⟨s, known, fits⟩, counted⟩ := reads
  have nonempty : s ≠ [] := by
    rintro rfl
    exact not_measures_nil (by decide) fits
  refine ⟨⟨toUpper s, _, servers cfg (toUpper s), memory.remoteEnabled, [], memory.remotePort,
    memory.ipv6⟩, rfl, ?_⟩
  simp [read, getString, known, fits, nonempty, counted]

/-- Where the constructor returns early it has no module and no password. -/
theorem read_ok {memory c : CSGSConfig} {file : Option Config} (done : read memory file = .ok c) :
    (c.modules = [] ∧ c.remotePassword = []) ∨ ∃ cfg n, file = some cfg ∧ Reads cfg n := by
  unfold read at done
  cases file with
  | none =>
      cases done
      exact .inl ⟨rfl, rfl⟩
  | some cfg =>
      simp only at done
      split at done
      · cases done
        exact .inl ⟨rfl, rfl⟩
      · rename_i goes
        split at done
        · cases done
        · rename_i n counted
          refine .inr ⟨cfg, n, rfl, ?_, counted⟩
          unfold getString at goes
          cases known : cfg.lookupString (str "gateway.callsign") with
          | none => simp [known] at goes
          | some s => exact ⟨s, rfl, by simp_all⟩

/-- What the constructor accepts is valid exactly when every module of the file is refused
for one of the reasons or has texts of the lengths that are asked for, and so has the
password. -/
theorem accepted_valid_iff (memory : CSGSConfig) (file : Option Config) :
    (∀ c, read memory file = .ok c → c.Valid) ↔
      ∀ cfg n, file = some cfg → Reads cfg n →
        (∀ i < n, Refused cfg i ∨ Proper cfg i) ∧ PasswordFits cfg := by
  constructor
  · rintro valid cfg n rfl reads
    obtain ⟨c, modules, done⟩ := read_of_reads memory reads
    have accepted := valid _ done
    refine ⟨fun i inside => ?_, (password_valid_iff cfg c).mp accepted.password⟩
    by_cases refused : Refused cfg i
    · exact .inl refused
    · obtain ⟨m, here⟩ := exists_of_not_refused refused
      have member : m ∈ (readRemote cfg c).modules := by
        rw [readRemote_modules, modules]
        exact List.mem_filterMap.mpr ⟨i, List.mem_range.mpr inside, here⟩
      exact .inr ((module_valid_iff here).mp (accepted.modules m member))
  · intro proper c done
    rcases read_ok done with ⟨empty, blank⟩ | ⟨cfg, n, rfl, reads⟩
    · exact ⟨by simp [empty], fun _ => .inl blank⟩
    · obtain ⟨modules, password⟩ := proper cfg n rfl reads
      obtain ⟨c', listed, done'⟩ := read_of_reads memory reads
      cases done.symm.trans done'
      refine ⟨fun m member => ?_, (password_valid_iff cfg c').mpr password⟩
      rw [readRemote_modules, listed] at member
      obtain ⟨i, inside, here⟩ := List.mem_filterMap.mp member
      have named := (built_of_some here).1
      exact (module_valid_iff here).mpr ((modules i (List.mem_range.mp inside)).resolve_left named)

end CSGSConfig

namespace Sample

/-- A file whose module has two letters for the suffix of its callsign, and whose remote
control has a password of three. -/
def longSuffix : Config := fun path =>
  [(str "gateway.callsign", Setting.string (str "AB1CDE")), (str "module", .aggregate 1),
    (str "module.[0].basename", .string (str "GROUP1")),
    (str "module.[0].subscribe", .string (str "AB")), (str "remote.enabled", .bool true),
    (str "remote.password", .string (str "abc"))].lookup path

def memory : CSGSConfig := ⟨[], [], [], false, [], 0, false⟩

end Sample

/-- Its callsign has nine characters and its password three. -/
theorem CSGSConfig.longSuffix_accepted :
    ¬∀ c, read Sample.memory (some Sample.longSuffix) = .ok c → c.Valid := by
  intro valid
  have accepted : read Sample.memory (some Sample.longSuffix) = .ok
      { callsign := str "AB1CDE"
        modules := [⟨str "A", str "GROUP1 AB", str "GROUP1 T", str "Smart Group Server  ", [],
          false, true, 300⟩]
        ircddb := [⟨str "ircv4.openquad.net", str "AB1CDE", []⟩]
        remoteEnabled := true
        remotePassword := str "abc"
        remotePort := 39999
        ipv6 := false } := by decide +kernel
  exact absurd ((valid _ accepted).modules _ List.mem_cons_self).callsign (by decide)

end SmartGroup
