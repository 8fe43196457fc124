import Mathlib.Data.Int.Basic
import Mathlib.Data.List.Range
import Mathlib.Tactic.Ring

-- Dates of the proleptic Gregorian calendar, numbered from the first of January of the year
-- one, and times of day to the microsecond, as microseconds since 1970.
namespace Calendar

def isLeap (year : Nat) : Bool := decide (year % 4 = 0 ∧ (year % 100 ≠ 0 ∨ year % 400 = 0))

def daysInMonth (leap : Bool) (month : Nat) : Nat :=
  if month = 2 then (if leap then 29 else 28) else if month ∈ [4,6,9,11] then 30 else 31

def daysBeforeMonth (leap : Bool) (month : Nat) : Nat := ((List.range (month - 1)).map fun m => daysInMonth leap (m + 1)).sum

def daysBeforeYear (year : Nat) : Nat :=
  let y := year - 1
  y * 365 + y / 4 - y / 100 + y / 400

structure Date where
  year : Nat
  month : Nat
  day : Nat
  deriving DecidableEq

namespace Date

structure Valid (date : Date) : Prop where
  year : 1 ≤ date.year ∧ date.year ≤ 9999
  month : 1 ≤ date.month ∧ date.month ≤ 12
  day : 1 ≤ date.day ∧ date.day ≤ daysInMonth (isLeap date.year) date.month

instance (date : Date) : Decidable date.Valid :=
  decidable_of_iff ((1 ≤ date.year ∧ date.year ≤ 9999) ∧ (1 ≤ date.month ∧ date.month ≤ 12) ∧
      (1 ≤ date.day ∧ date.day ≤ daysInMonth (isLeap date.year) date.month))
    ⟨fun ⟨a,b,c⟩ => ⟨a,b,c⟩,fun ⟨a,b,c⟩ => ⟨a,b,c⟩⟩

def toOrdinal (date : Date) : Nat := daysBeforeYear date.year + daysBeforeMonth (isLeap date.year) date.month + date.day

end Date

-- The month and day of a day of the year, which counts from 0: a guess of the month that is
-- never too small, and at most one too large.
def monthDay (leap : Bool) (n : Nat) : Nat × Nat :=
  let month := (n + 50) / 32
  let preceding := daysBeforeMonth leap month
  if n < preceding then (month - 1,n - daysBeforeMonth leap (month - 1) + 1) else (month,n - preceding + 1)

theorem monthDay_valid (leap : Bool) (n : Nat) (inside : n < 365 + leap.toNat) :
    (1 ≤ (monthDay leap n).1 ∧ (monthDay leap n).1 ≤ 12) ∧
      (1 ≤ (monthDay leap n).2 ∧ (monthDay leap n).2 ≤ daysInMonth leap (monthDay leap n).1) ∧
      daysBeforeMonth leap (monthDay leap n).1 + (monthDay leap n).2 = n + 1 := by
  revert n
  cases leap <;> decide +kernel

-- Cycles of 400, 100 and 4 years, then years; the last day of a cycle is left over.
def ofOrdinal (ordinal : Nat) : Date :=
  let n := ordinal - 1
  let n400 := n / 146097
  let n100 := n % 146097 / 36524
  let n4 := n % 146097 % 36524 / 1461
  let n1 := n % 146097 % 36524 % 1461 / 365
  let year := n400 * 400 + 1 + n100 * 100 + n4 * 4 + n1
  if n1 = 4 ∨ n100 = 4 then ⟨year - 1,12,31⟩
  else
    let (month,day) := monthDay (decide (n1 = 3 ∧ (n4 ≠ 24 ∨ n100 = 3))) (n % 146097 % 36524 % 1461 % 365)
    ⟨year,month,day⟩

-- What a day number is made of.
theorem cycles (n : Nat) : ∃ a b c d e, n = 146097 * a + 36524 * b + 1461 * c + 365 * d + e ∧
    n / 146097 = a ∧ n % 146097 / 36524 = b ∧ n % 146097 % 36524 / 1461 = c ∧ n % 146097 % 36524 % 1461 / 365 = d ∧
    n % 146097 % 36524 % 1461 % 365 = e ∧ e < 365 ∧ (b < 4 ∨ b = 4 ∧ c = 0 ∧ d = 0 ∧ e = 0) ∧ c ≤ 24 ∧
    (d < 4 ∨ d = 4 ∧ e = 0 ∧ (b < 4 → c < 24)) := by
  refine ⟨_,_,_,_,_,?_,rfl,rfl,rfl,rfl,rfl,?_⟩ <;> omega

theorem leap_year (a b c d : Nat) (century : b < 4) (quarter : c ≤ 24) (year : d < 4) :
    isLeap (a * 400 + 1 + b * 100 + c * 4 + d) = decide (d = 3 ∧ (c ≠ 24 ∨ b = 3)) := by
  unfold isLeap
  rw [decide_eq_decide]
  omega

theorem days_before (a b c d : Nat) (century : b < 4) (quarter : c ≤ 24) (year : d < 4) :
    daysBeforeYear (a * 400 + 1 + b * 100 + c * 4 + d) = 146097 * a + 36524 * b + 1461 * c + 365 * d := by
  unfold daysBeforeYear
  simp only
  omega

-- The date of a day number has that number.
theorem toOrdinal_ofOrdinal (ordinal : Nat) (first : 1 ≤ ordinal) (last : ordinal ≤ 3652059) :
    (ofOrdinal ordinal).Valid ∧ (ofOrdinal ordinal).toOrdinal = ordinal := by
  obtain ⟨a,b,c,d,e,whole,century4,century,quarter,year,day,inside,centuries,quarters,years⟩ := cycles (ordinal - 1)
  rw [ofOrdinal]
  simp only [century4,century,quarter,year,day]
  by_cases over_ : d = 4 ∨ b = 4
  · rw [if_pos over_]
    -- The last day of a leap year, the fourth of its four years.
    obtain ⟨g,q,same,small,quarters,leap,total⟩ : ∃ g q, a * 400 + 1 + b * 100 + c * 4 + d - 1 = a * 400 + 1 + g * 100 + q * 4 + 3 ∧
        g < 4 ∧ q ≤ 24 ∧ (q ≠ 24 ∨ g = 3) ∧ ordinal = 146097 * a + 36524 * g + 1461 * q + 1461 := by
      rcases over_ with four | four
      · exact ⟨b,c,by omega,by omega,by omega,by omega,by omega⟩
      · exact ⟨3,24,by omega,by omega,by omega,by omega,by omega⟩
    have long := leap_year a g q 3 small quarters (by decide)
    rw [decide_eq_true ⟨rfl,leap⟩] at long
    have before := days_before a g q 3 small quarters (by decide)
    have months : daysBeforeMonth true 12 = 335 := by decide
    have days : daysInMonth true 12 = 31 := by decide
    rw [same]
    refine ⟨⟨⟨?_,?_⟩,⟨?_,?_⟩,?_⟩,?_⟩
    · change 1 ≤ a * 400 + 1 + g * 100 + q * 4 + 3
      omega
    · change a * 400 + 1 + g * 100 + q * 4 + 3 ≤ 9999
      omega
    · change 1 ≤ 12
      omega
    · change 12 ≤ 12
      omega
    · change 1 ≤ 31 ∧ 31 ≤ daysInMonth (isLeap _) 12
      rw [long,days]
      omega
    · change daysBeforeYear _ + daysBeforeMonth (isLeap _) 12 + 31 = ordinal
      rw [long,months,before,total]
  · rw [if_neg over_]
    have small : b < 4 ∧ d < 4 := by omega
    have leap := leap_year a b c d small.1 quarters small.2
    have before := days_before a b c d small.1 quarters small.2
    obtain ⟨month,days,counted⟩ := monthDay_valid (decide (d = 3 ∧ (c ≠ 24 ∨ b = 3))) e (by omega)
    rw [← leap] at month days counted ⊢
    refine ⟨⟨⟨?_,?_⟩,month,days⟩,?_⟩
    · change 1 ≤ a * 400 + 1 + b * 100 + c * 4 + d
      omega
    · change a * 400 + 1 + b * 100 + c * 4 + d ≤ 9999
      omega
    · change daysBeforeYear _ + daysBeforeMonth (isLeap _) _ + _ = ordinal
      rw [before,Nat.add_assoc,counted]
      omega

-- A date and a time of day.
structure Moment where
  date : Date
  hour : Nat
  minute : Nat
  second : Nat
  microsecond : Nat
  deriving DecidableEq

namespace Moment

structure Valid (moment : Moment) : Prop where
  date : moment.date.Valid
  hour : moment.hour < 24
  minute : moment.minute < 60
  second : moment.second < 60
  microsecond : moment.microsecond < 1000000

instance (moment : Moment) : Decidable moment.Valid :=
  decidable_of_iff (moment.date.Valid ∧ moment.hour < 24 ∧ moment.minute < 60 ∧ moment.second < 60 ∧ moment.microsecond < 1000000)
    ⟨fun ⟨a,b,c,d,e⟩ => ⟨a,b,c,d,e⟩,fun ⟨a,b,c,d,e⟩ => ⟨a,b,c,d,e⟩⟩

-- Microseconds since the first of January 1970, which is day 719163.
def toMicroseconds (moment : Moment) : Int :=
  ((((moment.date.toOrdinal - 719163) * 24 + moment.hour) * 60 + moment.minute) * 60 + moment.second) * 1000000 + moment.microsecond

end Moment

def ofMicroseconds (wall : Int) : Moment :=
  let seconds := wall / 1000000
  let time := (seconds % 86400).toNat
  {
    date := ofOrdinal (seconds / 86400 + 719163).toNat
    hour := time / 3600
    minute := time / 60 % 60
    second := time % 60
    microsecond := (wall % 1000000).toNat }

-- The times from the first day of the year 1 to the last of the year 9999.
def Representable (wall : Int) : Prop := -62135596800000000 ≤ wall ∧ wall < 253402300800000000

instance (wall : Int) : Decidable (Representable wall) := inferInstanceAs (Decidable (_ ∧ _))

-- The moment of a time is that time.
theorem toMicroseconds_ofMicroseconds (wall : Int) (inside : Representable wall) :
    (ofMicroseconds wall).Valid ∧ (ofMicroseconds wall).toMicroseconds = wall := by
  obtain ⟨low,high⟩ := inside
  obtain ⟨valid,same⟩ := toOrdinal_ofOrdinal (wall / 1000000 / 86400 + 719163).toNat (by omega) (by omega)
  refine ⟨⟨valid,?_,?_,?_,?_⟩,?_⟩
  · change (wall / 1000000 % 86400).toNat / 3600 < 24
    omega
  · change (wall / 1000000 % 86400).toNat / 60 % 60 < 60
    omega
  · change (wall / 1000000 % 86400).toNat % 60 < 60
    omega
  · change (wall % 1000000).toNat < 1000000
    omega
  · unfold Moment.toMicroseconds
    simp only [ofMicroseconds]
    rw [same]
    omega

end Calendar
