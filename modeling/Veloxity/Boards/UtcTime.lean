import Veloxity.Boards.GnssPacket
import Veloxity.Core.Checked
import Veloxity.Library.CivilCalendar

/-! The conversion of a receiver's UTC date and time, against the days of the calendar. -/

namespace Veloxity

open Library

/-- The days since the epoch with each 32-bit operation of the source on its own, none where one
overflows. -/
def utcDaysExact (year : UInt16) (month day : UInt8) : Option Int := do
  let m : Int := month.toNat
  let y ← exactI32 (year.toNat - (if m ≤ 2 then 1 else 0))
  let shifted ← exactI32 (if 0 ≤ y then y else y - 399)
  let era ← exactI32 (shifted.tdiv 400)
  let eraYears ← exactI32 (era * 400)
  let yoe ← exactI32 (y - eraYears)
  let mp ← exactI32 (m + (if 2 < m then -3 else 9))
  let scaled ← exactI32 (153 * mp)
  let rounded ← exactI32 (scaled + 2)
  let reached ← exactI32 (rounded.tdiv 5 + day.toNat)
  let doy ← exactI32 (reached - 1)
  let yearDays ← exactI32 (yoe * 365)
  let leapDays ← exactI32 (yearDays + yoe.tdiv 4)
  let centuryDays ← exactI32 (leapDays - yoe.tdiv 100)
  let doe ← exactI32 (centuryDays + doy)
  let eraDays ← exactI32 (era * 146097)
  let counted ← exactI32 (eraDays + doe)
  exactI32 (counted - 719468)

/-- The conversion with each operation of the source on its own, none where one overflows. -/
def unixSecondsFromUtcExact (year : UInt16) (month day hour min sec : UInt8) : Option Int := do
  let days ← utcDaysExact year month day
  let daySeconds ← exactI64 (days * 86400)
  let hours ← exactI64 (daySeconds + hour.toNat * 3600)
  let minutes ← exactI64 (hours + min.toNat * 60)
  exactI64 (minutes + sec.toNat)

/-- A valid date and time of a receiver, where a leap second is the sixty-first of its minute. -/
structure UtcTime where
  year : UInt16
  month : UInt8
  day : UInt8
  hour : UInt8
  min : UInt8
  sec : UInt8
  isMonth : 1 ≤ month.toNat ∧ month.toNat ≤ 12
  isDay : 1 ≤ day.toNat ∧ day.toNat ≤ monthLength year.toNat month.toNat
  isHour : hour.toNat < 24
  isMin : min.toNat < 60
  isSec : sec.toNat ≤ 60

namespace UtcTime

/-- The day of the calendar. -/
def date (time : UtcTime) : CivilDate :=
  ⟨time.year.toNat, time.month.toNat, time.day.toNat, time.isMonth, time.isDay⟩

/-- The seconds of the day that have passed. -/
def secondOfDay (time : UtcTime) : Int :=
  time.hour.toNat * 3600 + time.min.toNat * 60 + time.sec.toNat

/-- The seconds since the epoch, with the days counted by the calendar. -/
def secondsSinceEpoch (time : UtcTime) : Int :=
  time.date.daysSinceEpoch * 86400 + time.secondOfDay

end UtcTime

/-- The days since the epoch by the era, the year of the era and the day of the year that starts
in March. -/
def utcDays (year month day : Int) : Int :=
  let y := year - (if month ≤ 2 then 1 else 0)
  let doy := (153 * (month + (if 2 < month then -3 else 9)) + 2) / 5 + day - 1
  y / 400 * 146097 + (y % 400 * 365 + y % 400 / 4 - y % 400 / 100 + doy) - 719468

/-- Truncated division of a year shifted below its era is division rounded down. -/
theorem era_eq {y : Int} (least : -1 ≤ y) : (if 0 ≤ y then y else y - 399).tdiv 400 = y / 400 := by
  split
  · rename_i positive
    exact Int.tdiv_eq_ediv_of_nonneg positive
  · -- Only the year before the year zero is negative.
    obtain rfl : y = -1 := by omega
    rfl

/-- A shifted month is not negative, whatever the byte it is read from. -/
theorem shiftedMonth_bounds (month : UInt8) :
    0 ≤ (month.toNat : Int) + (if 2 < (month.toNat : Int) then -3 else 9) ∧
      (month.toNat : Int) + (if 2 < (month.toNat : Int) then -3 else 9) ≤ 252 := by
  have bound := month.toNat_lt
  split <;> omega

/-- Only the first two months of the year zero fall into a negative year. -/
theorem shiftedYear_bounds (year : UInt16) (month : Int) :
    -1 ≤ (year.toNat : Int) - (if month ≤ 2 then 1 else 0) ∧
      (year.toNat : Int) - (if month ≤ 2 then 1 else 0) ≤ 65535 := by
  have bound := year.toNat_lt
  split <;> omega

/-- No 32-bit operation overflows, and the days are counted by eras. -/
theorem utcDaysExact_eq (year : UInt16) (month day : UInt8) :
    utcDaysExact year month day = some (utcDays year.toNat month.toNat day.toNat) := by
  have dayBound := day.toNat_lt
  have years := shiftedYear_bounds year month.toNat
  have months := shiftedMonth_bounds month
  unfold utcDaysExact utcDays
  dsimp only
  generalize (year.toNat : Int) - (if (month.toNat : Int) ≤ 2 then 1 else 0) = y at years ⊢
  generalize (month.toNat : Int) + (if 2 < (month.toNat : Int) then -3 else 9) = mp at months ⊢
  have eraYear := era_eq years.1
  have shifted : -400 ≤ (if 0 ≤ y then y else y - 399) ∧
      (if 0 ≤ y then y else y - 399) ≤ 65535 := by
    split <;> omega
  -- The era and the year within it come first.
  rw [exactI32_bind _ (by omega) (by omega), exactI32_bind _ (by omega) (by omega), eraYear]
  clear eraYear shifted
  have within : y - y / 400 * 400 = y % 400 := by omega
  have eraBounds : -1 ≤ y / 400 ∧ y / 400 ≤ 163 := by omega
  have yoeBounds : 0 ≤ y % 400 ∧ y % 400 ≤ 399 := by omega
  generalize y / 400 = era at within eraBounds ⊢
  rw [exactI32_bind _ (by omega) (by omega), exactI32_bind _ (by omega) (by omega), within,
    exactI32_bind _ (by omega) (by omega), exactI32_bind _ (by omega) (by omega)]
  clear within
  generalize y % 400 = yoe at yoeBounds ⊢
  -- The quotients are those of numbers that are not negative.
  have monthDays : 0 ≤ (153 * mp + 2) / 5 ∧ (153 * mp + 2) / 5 ≤ 7711 := by omega
  have leaps : 0 ≤ yoe / 4 ∧ yoe / 4 ≤ 99 := by omega
  have centuries : 0 ≤ yoe / 100 ∧ yoe / 100 ≤ 3 := by omega
  rw [exactI32_bind _ (by omega) (by omega), exactI32_bind _ (by omega) (by omega),
    Int.tdiv_eq_ediv_of_nonneg (by omega), Int.tdiv_eq_ediv_of_nonneg yoeBounds.1,
    Int.tdiv_eq_ediv_of_nonneg yoeBounds.1]
  generalize (153 * mp + 2) / 5 = marchDays at monthDays ⊢
  generalize yoe / 4 = leapYears at leaps ⊢
  generalize yoe / 100 = centuryYears at centuries ⊢
  -- What is left is sums of small numbers.
  rw [exactI32_bind _ (by omega) (by omega), exactI32_bind _ (by omega) (by omega),
    exactI32_bind _ (by omega) (by omega), exactI32_bind _ (by omega) (by omega),
    exactI32_bind _ (by omega) (by omega), exactI32_bind _ (by omega) (by omega),
    exactI32_bind _ (by omega) (by omega), exactI32_bind _ (by omega) (by omega)]
  exact exactI32_eq_some (by omega) (by omega)

/-- The conversion of the source computes its days by eras. -/
theorem unixSecondsFromUtc_eq (year : UInt16) (month day hour min sec : UInt8) :
    unixSecondsFromUtc year.toNat month day hour min sec =
      utcDays year.toNat month.toNat day.toNat * 86400 + hour.toNat * 3600 + min.toNat * 60 +
        sec.toNat := by
  have years := shiftedYear_bounds year month.toNat
  have months := shiftedMonth_bounds month
  unfold unixSecondsFromUtc utcDays
  dsimp only
  generalize (year.toNat : Int) - (if (month.toNat : Int) ≤ 2 then 1 else 0) = y at years ⊢
  generalize (month.toNat : Int) + (if 2 < (month.toNat : Int) then -3 else 9) = mp at months ⊢
  have within : y - y / 400 * 400 = y % 400 := by omega
  have yoeBound : 0 ≤ y % 400 := by omega
  -- Divisions round down, as nothing but the year is negative.
  rw [era_eq years.1, within, Int.tdiv_eq_ediv_of_nonneg yoeBound,
    Int.tdiv_eq_ediv_of_nonneg yoeBound, Int.tdiv_eq_ediv_of_nonneg (by omega)]

/-- The days of all dates a receiver can report are far from the limits. -/
theorem utcDays_bounds (year : UInt16) (month day : UInt8) :
    -1000000 ≤ utcDays year.toNat month.toNat day.toNat ∧
      utcDays year.toNat month.toNat day.toNat ≤ 30000000 := by
  -- The year and the month take part only through their shifted values.
  have dayBound := day.toNat_lt
  have years := shiftedYear_bounds year month.toNat
  have months := shiftedMonth_bounds month
  unfold utcDays
  dsimp only
  generalize (year.toNat : Int) - (if (month.toNat : Int) ≤ 2 then 1 else 0) = y at years ⊢
  generalize (month.toNat : Int) + (if 2 < (month.toNat : Int) then -3 else 9) = mp at months ⊢
  omega

/-- No operation overflows, whatever the fields hold. -/
theorem unixSecondsFromUtcExact_eq (year : UInt16) (month day hour min sec : UInt8) :
    unixSecondsFromUtcExact year month day hour min sec =
      some (unixSecondsFromUtc year.toNat month day hour min sec) := by
  have bounds := utcDays_bounds year month day
  have hourBound := hour.toNat_lt
  have minBound := min.toNat_lt
  have secBound := sec.toNat_lt
  rw [unixSecondsFromUtc_eq, unixSecondsFromUtcExact, utcDaysExact_eq]
  generalize utcDays year.toNat month.toNat day.toNat = days at bounds ⊢
  -- The seconds of that many days are far from the limits of 64 bits.
  show (exactI64 (days * 86400) >>= _) = _
  rw [exactI64_bind _ (by omega) (by omega), exactI64_bind _ (by omega) (by omega),
    exactI64_bind _ (by omega) (by omega)]
  exact exactI64_eq_some (by omega) (by omega)

/-- An era of 400 years has 97 leap days. -/
theorem eraDays_eq (y : Int) :
    y / 400 * 146097 + (y % 400 * 365 + y % 400 / 4 - y % 400 / 100) =
      365 * y + y / 4 - y / 100 + y / 400 := by
  -- Each quotient of the year is that of its era and that of the year of the era.
  have fours : y / 4 = 100 * (y / 400) + y % 400 / 4 := by omega
  have centuries : y / 100 = 4 * (y / 400) + y % 400 / 100 := by omega
  omega

/-- The eras count the days of the calendar. -/
theorem utcDays_date (date : CivilDate) :
    utcDays date.year date.month date.day = date.daysSinceEpoch := by
  rw [CivilDate.daysSinceEpoch, CivilDate.dayNumber_epoch, date.dayNumber_eq rfl rfl]
  unfold utcDays
  dsimp only
  generalize (date.year : Int) - (if (date.month : Int) ≤ 2 then 1 else 0) = y
  -- Whole eras and the years of the last one add up to the days of all years.
  have eras := eraDays_eq y
  omega

/-- For a valid date and time the conversion counts the seconds since the epoch. -/
theorem unixSecondsFromUtc_valid (time : UtcTime) :
    unixSecondsFromUtc time.year.toNat time.month time.day time.hour time.min time.sec =
      time.secondsSinceEpoch := by
  -- The days are those of the date, and the seconds of the day are added as they are.
  have days : utcDays time.year.toNat time.month.toNat time.day.toNat =
      time.date.daysSinceEpoch := utcDays_date time.date
  rw [unixSecondsFromUtc_eq, days, UtcTime.secondsSinceEpoch, UtcTime.secondOfDay]
  omega

/-- For every valid date and time the conversion counts the seconds since the epoch by the days of
the calendar, and whatever bytes it is given, none of its operations overflows. -/
theorem unixSecondsFromUtc_sound :
    (∀ time : UtcTime, unixSecondsFromUtc time.year.toNat time.month time.day time.hour time.min
      time.sec = time.secondsSinceEpoch) ∧
    ∀ (year : UInt16) (month day hour min sec : UInt8),
      unixSecondsFromUtcExact year month day hour min sec =
        some (unixSecondsFromUtc year.toNat month day hour min sec) :=
  ⟨unixSecondsFromUtc_valid, unixSecondsFromUtcExact_eq⟩

end Veloxity
