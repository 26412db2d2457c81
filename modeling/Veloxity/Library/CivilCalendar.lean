import Mathlib.Algebra.BigOperators.Group.List.Basic
import Mathlib.Data.List.Range
import Mathlib.Tactic.IntervalCases
import Mathlib.Tactic.NormNum

/-! Days of the proleptic Gregorian calendar, counted by the leap-year rule. -/

namespace Veloxity.Library

/-- Every fourth year is a leap year, of the centuries only every fourth. -/
def IsLeapYear (year : Nat) : Prop := 4 ∣ year ∧ (¬ 100 ∣ year ∨ 400 ∣ year)

/-- Whether a year is a leap year is decided. -/
instance (year : Nat) : Decidable (IsLeapYear year) := inferInstanceAs (Decidable (_ ∧ _))

/-- The days of a year. -/
def yearLength (year : Nat) : Nat := if IsLeapYear year then 366 else 365

/-- The days of a month. -/
def monthLength (year month : Nat) : Nat :=
  match month with
  | 2 => if IsLeapYear year then 29 else 28
  | 4 | 6 | 9 | 11 => 30
  | _ => 31

/-- A day of the calendar, from the year zero on. -/
structure CivilDate where
  year : Nat
  month : Nat
  day : Nat
  isMonth : 1 ≤ month ∧ month ≤ 12
  isDay : 1 ≤ day ∧ day ≤ monthLength year month

/-- The days of all years before one. -/
def daysBeforeYear (year : Nat) : Nat := ((List.range year).map yearLength).sum

/-- The days of a year in all months before one. -/
def daysBeforeMonth (year month : Nat) : Nat :=
  ((List.range (month - 1)).map fun earlier => monthLength year (earlier + 1)).sum

namespace CivilDate

/-- The days before a day, from the year zero on. -/
def dayNumber (date : CivilDate) : Nat :=
  daysBeforeYear date.year + daysBeforeMonth date.year date.month + (date.day - 1)

/-- The first day of the year 1970. -/
def epoch : CivilDate := ⟨1970, 1, 1, by decide, by decide⟩

/-- The days from the epoch to a day, which are negative before it. -/
def daysSinceEpoch (date : CivilDate) : Int := date.dayNumber - epoch.dayNumber

end CivilDate

/-- The days before a year grow by the length of the year. -/
theorem daysBeforeYear_succ (year : Nat) :
    daysBeforeYear (year + 1) = daysBeforeYear year + yearLength year := by
  -- The year is the last of those before the next one.
  simp [daysBeforeYear, List.range_succ]

/-- The days before a year are 365 for each, and one more for each leap year before it. -/
theorem daysBeforeYear_eq (year : Nat) :
    (daysBeforeYear year : Int) =
      365 * year + ((year : Int) - 1) / 4 - ((year : Int) - 1) / 100 +
        ((year : Int) - 1) / 400 + 1 := by
  -- Each quotient grows behind the years its divisor divides.
  induction year with
  | zero => rfl
  | succ year ih =>
    rw [daysBeforeYear_succ, yearLength, Int.natCast_add, ih]
    by_cases leap : IsLeapYear year
    · rw [if_pos leap]
      unfold IsLeapYear at leap
      omega
    · rw [if_neg leap]
      unfold IsLeapYear at leap
      omega

/-- The days before a month of the year are those of the months from January on. -/
theorem daysBeforeMonth_eq (year : Nat) {month : Nat} (isMonth : 1 ≤ month ∧ month ≤ 12) :
    daysBeforeMonth year month =
      if month ≤ 2 then 31 * (month - 1)
      else (153 * (month - 3) + 2) / 5 + if IsLeapYear year then 60 else 59 := by
  obtain ⟨first, last⟩ := isMonth
  -- From March on, five months have 153 days in turn.
  interval_cases month <;>
    simp [daysBeforeMonth, List.range_succ, monthLength] <;> split <;> rfl

/-- With years that start in March, the leap day is the last of its year: the days before a day are
those of the shifted years, less the ten months before the first of them, and those of the shifted
months. -/
theorem CivilDate.dayNumber_eq (date : CivilDate) {y mp : Int}
    (shifts : y = date.year - (if (date.month : Int) ≤ 2 then 1 else 0))
    (starts : mp = date.month + (if 2 < (date.month : Int) then -3 else 9)) :
    (date.dayNumber : Int) =
      365 * (y + 1) + y / 4 - y / 100 + y / 400 + 1 - 306 + (153 * mp + 2) / 5 + date.day - 1 := by
  obtain ⟨year, month, day, isMonth, isDay⟩ := date
  have first := isDay.1
  dsimp only at isMonth shifts starts ⊢
  rw [dayNumber]
  dsimp only
  rw [daysBeforeMonth_eq year isMonth]
  by_cases early : month ≤ 2
  · -- January and February belong to the year before.
    rw [if_pos (by omega)] at shifts
    rw [if_neg (by omega)] at starts
    rw [if_pos early]
    have years := daysBeforeYear_eq year
    rw [← shifts] at years
    omega
  · -- From March on, the leap day is one of the days before.
    rw [if_neg (by omega), Int.sub_zero] at shifts
    rw [if_pos (by omega)] at starts
    rw [if_neg early]
    have years := daysBeforeYear_eq (year + 1)
    rw [daysBeforeYear_succ, yearLength, Int.natCast_add year 1, Int.natCast_one,
      Int.add_sub_cancel, ← shifts] at years
    by_cases leap : IsLeapYear year
    · rw [if_pos leap] at years ⊢
      omega
    · rw [if_neg leap] at years ⊢
      omega

/-- The epoch is as many days behind the start of the year zero. -/
theorem CivilDate.dayNumber_epoch : (epoch.dayNumber : Int) = 719528 := by
  -- The first of January belongs to the year that began in March before it.
  have shifts : (1969 : Int) = epoch.year - (if (epoch.month : Int) ≤ 2 then 1 else 0) := rfl
  have starts : (10 : Int) = epoch.month + (if 2 < (epoch.month : Int) then -3 else 9) := rfl
  have day : epoch.day = 1 := rfl
  rw [dayNumber_eq epoch shifts starts, day]
  omega

end Veloxity.Library
