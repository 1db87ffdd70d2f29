import TransitForecast.Time.Text

/-!
# TransitForecast — the calendar

Year, month and day of a date are those of no other date, so the date can be found again from them.
The year of a day within its cycle is computed by taking the leap days out and dividing by 365. That
this hits the right year is checked at the first and the last day of each of the 400 years of a
cycle; in between the quotient cannot fall.

## Results

* `Date.yearOfCycle_spec`   — the year of the cycle that a day lies in.
* `Date.ofCivil_civil`      — a date is found again from its year, month and day.
* `Date.ofCivil?_civil`     — so is it by the reader, if its year is one of those in use.
* `Instant.years_hold_date` — which the year of every instant is.
-/

namespace TransitForecast

namespace Date

-- ---------------------------------------------------------------------------
-- Days of a cycle
-- ---------------------------------------------------------------------------

/-- Days since a cycle began, without the leap days among them. -/
def evened (n : Nat) : Nat := n - n / 1460 + n / 36524 - n / 146096

theorem evened_mono {a b : Nat} (h : a ≤ b) (hb : b < 146097) : evened a ≤ evened b := by
  unfold evened
  omega

theorem evened_daysBeforeYear :
    ∀ y < 400, 365 * y ≤ evened (daysBeforeYear y) ∧
      evened (daysBeforeYear (y + 1) - 1) < 365 * (y + 1) := by
  decide +kernel

/-- The year of the cycle that a day lies in. -/
theorem yearOfCycle_spec {n : Nat} (h : n < 146097) :
    evened n / 365 < 400 ∧ daysBeforeYear (evened n / 365) ≤ n ∧
      n < daysBeforeYear (evened n / 365) + 366 := by
  have hLast : evened n ≤ 145999 := evened_mono (b := 146096) (by omega) (by omega)
  generalize hYear : evened n / 365 = y
  have hy : y < 400 := by omega
  refine ⟨hy, Nat.le_of_not_lt fun hBefore => ?_, Nat.lt_of_not_le fun hAfter => ?_⟩
  · -- the day would lie in a year before
    cases y with
    | zero => exact Nat.not_lt_zero n hBefore
    | succ y =>
      have hEnd := (evened_daysBeforeYear y (by omega)).2
      have hCycle : daysBeforeYear (y + 1) ≤ 146097 := by
        unfold daysBeforeYear
        omega
      have := evened_mono (Nat.le_sub_one_of_lt hBefore) (by omega)
      omega
  · -- or in a year after; the last year of a cycle has none
    rcases Nat.lt_or_ge (y + 1) 400 with hNext | hEnd
    · have hStart := (evened_daysBeforeYear (y + 1) hNext).1
      have hReached : daysBeforeYear (y + 1) ≤ n := by
        unfold daysBeforeYear at *
        omega
      have := evened_mono hReached h
      omega
    · obtain rfl : y = 399 := by omega
      have : daysBeforeYear 399 = 145731 := rfl
      omega

/-- The month that a day of a year lies in. -/
theorem monthFromMarch_spec {n : Nat} (h : n < 366) :
    (5 * n + 2) / 153 < 12 ∧ daysBeforeMonth ((5 * n + 2) / 153) ≤ n ∧
      n < daysBeforeMonth ((5 * n + 2) / 153) + 31 := by
  unfold daysBeforeMonth
  omega

-- ---------------------------------------------------------------------------
-- Dates
-- ---------------------------------------------------------------------------

/-- How a date is made up of a cycle, a year `y` of it, a month `m` of that, both counted from
March, and a day `k` of the month. -/
structure Splits (d : Date) (cycle : Int) (y m k : Nat) : Prop where
  days : d.days + epochShift = cycle * 146097 + (daysBeforeYear y + (daysBeforeMonth m + k) : Nat)
  year : y < 400
  month : m < 12
  day : k < 31
  within : daysBeforeMonth m + k < 366
  civil : d.civil = ⟨if m < 10 then y + cycle * 400 else y + cycle * 400 + 1,
    if m < 10 then m + 3 else m - 9, k + 1⟩

theorem splits (d : Date) : ∃ cycle y m k, d.Splits cycle y m k := by
  have hRange : ((d.days + epochShift) % 146097).toNat < 146097 := by omega
  obtain ⟨hYear, hFrom, hTo⟩ := yearOfCycle_spec hRange
  have hCivil : d.civil = d.civil := rfl
  conv at hCivil => rhs; unfold civil
  dsimp only at hCivil
  rw [show ∀ n, n - n / 1460 + n / 36524 - n / 146096 = evened n from fun _ => rfl] at hCivil
  generalize hDay : ((d.days + epochShift) % 146097).toNat = n at *
  generalize evened n / 365 = y at *
  obtain ⟨hMonth, hMonthFrom, hMonthTo⟩ :=
    monthFromMarch_spec (n := n - daysBeforeYear y) (by omega)
  generalize (5 * (n - daysBeforeYear y) + 2) / 153 = m at *
  refine ⟨(d.days + epochShift) / 146097, y, m, n - daysBeforeYear y - daysBeforeMonth m, by omega,
    hYear, hMonth, by omega, by omega, ?_⟩
  rw [hCivil, Civil.mk.injEq]
  by_cases hLate : m < 10
  · simp [hLate]
  · have hEarly : m - 9 ≤ 2 := by omega
    simp [hLate, hEarly]

variable {d : Date}

theorem civil_month : 1 ≤ d.civil.month ∧ d.civil.month ≤ 12 := by
  obtain ⟨cycle, y, m, k, h⟩ := d.splits
  have := h.month
  rw [h.civil]
  dsimp only
  split <;> omega

theorem civil_day : 1 ≤ d.civil.day ∧ d.civil.day ≤ 31 := by
  obtain ⟨cycle, y, m, k, h⟩ := d.splits
  have := h.day
  rw [h.civil]
  dsimp only
  omega

/-- A date is found again from its year, month and day. -/
theorem ofCivil_civil (d : Date) : ofCivil d.civil = d := by
  obtain ⟨cycle, y, m, k, h⟩ := d.splits
  have hMonth := h.month
  have hYear := h.year
  have hDays := h.days
  have hDay : k + 1 - 1 = k := rfl
  rw [h.civil, ofCivil]
  by_cases hLate : m < 10
  · have hYearOf : (y + cycle * 400) / 400 = cycle ∧ ((y + cycle * 400) % 400).toNat = y := by omega
    have hMonthOf : (m + 3 + 9) % 12 = m := by omega
    simp only [hLate, if_true, show ¬ m + 3 ≤ 2 by omega, if_false, hYearOf, hMonthOf]
    exact congrArg mk (by omega)
  · have hYearOf : (y + cycle * 400 + 1 - 1) / 400 = cycle ∧
        ((y + cycle * 400 + 1 - 1) % 400).toNat = y := by omega
    have hMonthOf : (m - 9 + 9) % 12 = m := by omega
    simp only [hLate, if_false, show m - 9 ≤ 2 by omega, if_true, hYearOf, hMonthOf]
    exact congrArg mk (by omega)

theorem ofCivil?_civil (h : years.holds d.civil.year = true) : ofCivil? d.civil = some d := by
  unfold ofCivil?
  rw [ofCivil_civil, h]
  simp

end Date

/-- The year of every instant is one of those in use. -/
theorem Instant.years_hold_date (t : Instant) : Date.years.holds t.date.civil.year = true := by
  obtain ⟨cycle, y, m, k, hSplits⟩ := t.date.splits
  have hRange := t.inRange
  have hDays := hSplits.days
  have hMonth := hSplits.month
  have hYear := hSplits.year
  have hDay := hSplits.day
  have hWithin := hSplits.within
  rw [hSplits.civil, Date.years, Decimal.Bounds.holds, Bool.and_eq_true, decide_eq_true_eq,
    decide_eq_true_eq]
  unfold Instant.date Instant.secondsPerDay Date.epochShift at hDays
  unfold Date.daysBeforeYear Date.daysBeforeMonth at *
  dsimp only at *
  constructor
  · -- the first day in use is in the cycle that starts with the year -262400
    rcases Int.lt_trichotomy cycle (-656) with hBefore | rfl | hAfter
    · omega
    · split <;> omega
    · split <;> omega
  · -- the last one in the cycle that starts with the year 262000
    rcases Int.lt_trichotomy cycle 655 with hBefore | rfl | hAfter
    · split <;> omega
    · split <;> omega
    · omega

end TransitForecast
