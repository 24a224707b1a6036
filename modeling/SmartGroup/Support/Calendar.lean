import SmartGroup.Support.Bytes

/-! Calendar time in UTC as the C library has it: the broken-down time, its number
of seconds since the epoch and back, and its decimal notation. -/
namespace Calendar
open Bytes

/-- `struct tm`, with the full year and the month counted from one. -/
structure Tm where
  year : Int
  mon : Int
  mday : Int
  hour : Int
  min : Int
  sec : Int
  deriving DecidableEq, Repr

/-- The day of a date of the Gregorian calendar, counted from 1970-01-01. Years begin in
March here, so that the leap day is a year's last; a day behind the end of its month runs
on into the next one. -/
def daysFromCivil (year mon mday : Int) : Int :=
  let y := if 2 < mon then year else year - 1
  let mp := if 2 < mon then mon - 3 else mon + 9
  let yoe := y % 400
  y / 400 * 146097 + (365 * yoe + yoe / 4 - yoe / 100) + (153 * mp + 2) / 5 + (mday - 1) - 719468

/-- `timegm`, and `mktime` where the time zone is UTC. -/
def timegm (tm : Tm) : Int :=
  86400 * daysFromCivil tm.year tm.mon tm.mday + 3600 * tm.hour + 60 * tm.min + tm.sec

/-- The centuries, the groups of four years and the years that a day of the era of 400
years lies behind, and the days then left. -/
def centuries (doe : Int) : Int := min (doe / 36524) 3
def leapGroups (doe : Int) : Int := (doe - 36524 * centuries doe) / 1461
def singleYears (doe : Int) : Int :=
  min ((doe - 36524 * centuries doe - 1461 * leapGroups doe) / 365) 3
def yearOfEra (doe : Int) : Int := 100 * centuries doe + 4 * leapGroups doe + singleYears doe
def dayOfYear (doe : Int) : Int :=
  doe - 36524 * centuries doe - 1461 * leapGroups doe - 365 * singleYears doe

/-- The date of the day `doy` of the year, begun in March, `y`. -/
def dateOf (y doy : Int) : Int × Int × Int :=
  let mp := (5 * doy + 2) / 153
  if mp < 10 then (y, mp + 3, doy - (153 * mp + 2) / 5 + 1)
  else (y + 1, mp - 9, doy - (153 * mp + 2) / 5 + 1)

/-- The date of a day. -/
def civilFromDays (day : Int) : Int × Int × Int :=
  let doe := (day + 719468) % 146097
  dateOf (400 * ((day + 719468) / 146097) + yearOfEra doe) (dayOfYear doe)

/-- The broken-down time. -/
def breakdown (t : Int) : Tm :=
  let date := civilFromDays (t / 86400)
  let s := t % 86400
  ⟨date.1, date.2.1, date.2.2, s / 3600, s / 60 % 60, s % 60⟩

/-- `gmtime` has no answer where `tm_year`, an `int`, does not hold the year. -/
def gmtime (t : Int) : Option Tm :=
  if -2147483648 ≤ (breakdown t).year - 1900 ∧ (breakdown t).year - 1900 ≤ 2147483647 then
    some (breakdown t)
  else none

theorem yearOfEra_bounds {doe : Int} (low : 0 ≤ doe) (high : doe < 146097) :
    0 ≤ yearOfEra doe ∧ yearOfEra doe < 400 := by
  simp only [yearOfEra, singleYears, leapGroups, centuries]
  omega

theorem dayOfYear_bounds (doe : Int) :
    0 ≤ dayOfYear doe ∧ dayOfYear doe ≤ 365 := by
  simp only [dayOfYear, singleYears, leapGroups, centuries]
  omega

/-- The leap days of the years of the era that are over. -/
theorem dayOfEra_eq {doe : Int} (low : 0 ≤ doe) (high : doe < 146097) :
    365 * yearOfEra doe + yearOfEra doe / 4 - yearOfEra doe / 100 + dayOfYear doe = doe := by
  have fours : yearOfEra doe / 4 = 25 * centuries doe + leapGroups doe := by
    simp only [yearOfEra, singleYears, leapGroups, centuries]
    omega
  have hundreds : yearOfEra doe / 100 = centuries doe := by
    simp only [yearOfEra, singleYears, leapGroups, centuries]
    omega
  rw [fours, hundreds]
  simp only [yearOfEra, dayOfYear]
  omega

theorem daysFromCivil_dateOf {y doy : Int} (low : 0 ≤ doy) (high : doy ≤ 365) :
    daysFromCivil (dateOf y doy).1 (dateOf y doy).2.1 (dateOf y doy).2.2 =
      y / 400 * 146097 + (365 * (y % 400) + y % 400 / 4 - y % 400 / 100) + doy - 719468 := by
  have months : 0 ≤ (5 * doy + 2) / 153 ∧ (5 * doy + 2) / 153 ≤ 11 := by omega
  simp only [dateOf]
  split
  · have march : 2 < (5 * doy + 2) / 153 + 3 := by omega
    simp only [daysFromCivil, if_pos march]
    omega
  · have winter : ¬2 < (5 * doy + 2) / 153 - 9 := by omega
    simp only [daysFromCivil, if_neg winter, Int.add_sub_cancel]
    omega

theorem daysFromCivil_civilFromDays (day : Int) :
    daysFromCivil (civilFromDays day).1 (civilFromDays day).2.1 (civilFromDays day).2.2 = day := by
  have low : 0 ≤ (day + 719468) % 146097 := by omega
  have high : (day + 719468) % 146097 < 146097 := by omega
  have year := yearOfEra_bounds low high
  have rest := dayOfYear_bounds ((day + 719468) % 146097)
  have total := dayOfEra_eq low high
  simp only [civilFromDays, daysFromCivil_dateOf rest.1 rest.2]
  generalize yearOfEra ((day + 719468) % 146097) = yoe at *
  have era : (400 * ((day + 719468) / 146097) + yoe) / 400 = (day + 719468) / 146097 := by omega
  have inside : (400 * ((day + 719468) / 146097) + yoe) % 400 = yoe := by omega
  rw [era, inside]
  omega

/-- The two directions agree. -/
theorem timegm_breakdown (t : Int) : timegm (breakdown t) = t := by
  have days := daysFromCivil_civilFromDays (t / 86400)
  simp only [timegm, breakdown, days]
  omega

theorem gmtime_eq_some {t : Int} {tm : Tm} (h : gmtime t = some tm) : tm = breakdown t := by
  unfold gmtime at h
  split at h
  · exact (Option.some.inj h).symm
  · cases h

/-- The fields that are written with two digits have two. -/
structure Tm.Normal (tm : Tm) : Prop where
  mon : 0 ≤ tm.mon ∧ tm.mon < 100
  mday : 0 ≤ tm.mday ∧ tm.mday < 100
  hour : 0 ≤ tm.hour ∧ tm.hour < 100
  min : 0 ≤ tm.min ∧ tm.min < 100
  sec : 0 ≤ tm.sec ∧ tm.sec < 100

theorem dateOf_bounds {y doy : Int} (low : 0 ≤ doy) (high : doy ≤ 365) :
    (1 ≤ (dateOf y doy).2.1 ∧ (dateOf y doy).2.1 ≤ 12) ∧
      1 ≤ (dateOf y doy).2.2 ∧ (dateOf y doy).2.2 ≤ 31 := by
  have days : 1 ≤ doy - (153 * ((5 * doy + 2) / 153) + 2) / 5 + 1 ∧
      doy - (153 * ((5 * doy + 2) / 153) + 2) / 5 + 1 ≤ 31 := by omega
  simp only [dateOf]
  split
  · refine ⟨?_, days⟩
    dsimp only
    omega
  · refine ⟨?_, days⟩
    dsimp only
    omega

theorem breakdown_normal (t : Int) : (breakdown t).Normal := by
  have rest := dayOfYear_bounds ((t / 86400 + 719468) % 146097)
  obtain ⟨months, days⟩ := dateOf_bounds
    (y := 400 * ((t / 86400 + 719468) / 146097) + yearOfEra ((t / 86400 + 719468) % 146097))
    rest.1 rest.2
  refine ⟨?_, ?_, ?_, ?_, ?_⟩
  · simp only [breakdown, civilFromDays]
    omega
  · simp only [breakdown, civilFromDays]
    omega
  all_goals simp only [breakdown]; omega

/-! Decimal notation. -/

/-- The digits of a number. -/
def decimal (n : Nat) : Str := (Nat.toDigits 10 n).map fun c => UInt8.ofNat c.toNat

def signed (n : Int) : Str := if n < 0 then 45 :: decimal n.natAbs else decimal n.natAbs

/-- A number below a hundred with two digits. -/
def twoDigits (n : Int) : Str :=
  [UInt8.ofNat (48 + (n / 10 % 10).toNat), UInt8.ofNat (48 + (n % 10).toNat)]

/-- `strftime(_, _, "%Y-%m-%d %H:%M:%S", tm)`. -/
def format (tm : Tm) : Str :=
  signed tm.year ++ 45 :: (twoDigits tm.mon ++ 45 :: (twoDigits tm.mday ++ 32 ::
    (twoDigits tm.hour ++ 58 :: (twoDigits tm.min ++ 58 :: twoDigits tm.sec))))

/-- A decimal digit is told from its byte. -/
theorem digit_toNat {c : Char} (digit : c.isDigit = true) : c.toNat = (UInt8.ofNat c.toNat).toNat := by
  simp only [Char.isDigit, Bool.and_eq_true, decide_eq_true_eq, UInt32.le_iff_toNat_le] at digit
  have small : c.toNat ≤ 57 := digit.2
  rw [UInt8.toNat_ofNat']
  omega

theorem decimal_digit {n : Nat} {b : UInt8} (member : b ∈ decimal n) : 48 ≤ b.toNat := by
  obtain ⟨c, inside, rfl⟩ := List.mem_map.mp member
  have digit := Nat.isDigit_of_mem_toDigits (by decide) (by decide) inside
  rw [← digit_toNat digit]
  simp only [Char.isDigit, Bool.and_eq_true, decide_eq_true_eq, UInt32.le_iff_toNat_le] at digit
  exact digit.1

theorem decimal_injective {m n : Nat} (same : decimal m = decimal n) : m = n := by
  have back (k : Nat) : (decimal k).map (fun b => Char.ofNat b.toNat) = Nat.toDigits 10 k := by
    rw [decimal, List.map_map]
    refine (List.map_congr_left fun c inside => ?_).trans (List.map_id _)
    have digit := Nat.isDigit_of_mem_toDigits (by decide) (by decide) inside
    simp only [Function.comp_apply, ← digit_toNat digit, Char.ofNat_toNat, id]
  calc
    m = Nat.ofDigitChars 10 (Nat.toDigits 10 m) 0 := Nat.ofDigitChars_ten_toDigits.symm
    _ = Nat.ofDigitChars 10 (Nat.toDigits 10 n) 0 := by rw [← back m, ← back n, same]
    _ = n := Nat.ofDigitChars_ten_toDigits

theorem signed_injective {m n : Int} (same : signed m = signed n) : m = n := by
  have apart : ∀ {a b : Nat}, (45 : UInt8) :: decimal a ≠ decimal b := by
    intro a b equal
    have digit : 48 ≤ (45 : UInt8).toNat := decimal_digit (n := b) (equal ▸ List.mem_cons_self)
    exact absurd digit (by decide)
  unfold signed at same
  split at same <;> split at same
  · have sizes := decimal_injective (List.cons.inj same).2
    omega
  · exact absurd same apart
  · exact absurd same.symm apart
  · have sizes := decimal_injective same
    omega

theorem twoDigits_injective {m n : Int} (hm : 0 ≤ m ∧ m < 100) (hn : 0 ≤ n ∧ n < 100)
    (same : twoDigits m = twoDigits n) : m = n := by
  simp only [twoDigits, List.cons.injEq, and_true] at same
  have tens := congrArg UInt8.toNat same.1
  have ones := congrArg UInt8.toNat same.2
  simp only [UInt8.toNat_ofNat'] at tens ones
  omega

/-- The notation tells normal times apart. -/
theorem format_injective {s t : Tm} (hs : s.Normal) (ht : t.Normal)
    (same : format s = format t) : s = t := by
  obtain ⟨years, rest⟩ := List.append_inj' same rfl
  obtain ⟨months, rest⟩ := List.append_inj (List.cons.inj rest).2 rfl
  obtain ⟨days, rest⟩ := List.append_inj (List.cons.inj rest).2 rfl
  obtain ⟨hours, rest⟩ := List.append_inj (List.cons.inj rest).2 rfl
  obtain ⟨minutes, rest⟩ := List.append_inj (List.cons.inj rest).2 rfl
  have year := signed_injective years
  have mon := twoDigits_injective hs.mon ht.mon months
  have mday := twoDigits_injective hs.mday ht.mday days
  have hour := twoDigits_injective hs.hour ht.hour hours
  have min := twoDigits_injective hs.min ht.min minutes
  have sec := twoDigits_injective hs.sec ht.sec (List.cons.inj rest).2
  cases s
  cases t
  simp_all

/-- Two times that `gmtime` answers and that are written alike are the same. -/
theorem format_gmtime_injective {s t : Int} {a b : Tm} (ha : gmtime s = some a)
    (hb : gmtime t = some b) (same : format a = format b) : s = t := by
  rw [gmtime_eq_some ha, gmtime_eq_some hb] at same
  rw [← timegm_breakdown s, ← timegm_breakdown t,
    format_injective (breakdown_normal s) (breakdown_normal t) same]

end Calendar
