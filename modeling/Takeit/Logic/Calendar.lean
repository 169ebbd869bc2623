import Mathlib.Algebra.BigOperators.Group.List.Basic
import Mathlib.Algebra.GroupWithZero.Nat
import Mathlib.Data.Nat.Init
import Mathlib.Tactic.Common

/-!
# The Gregorian calendar

Dates with the time of day, and the second of the calendar each one is.
`instant_lt_iff` compares two of them field by field.

Nothing here mentions how a date is written.
-/

namespace Takeit.Logic

/-- Every fourth year, of the centuries every fourth one. -/
def IsLeap (year : Nat) : Prop := year % 4 = 0 ∧ (year % 100 ≠ 0 ∨ year % 400 = 0)

instance : DecidablePred IsLeap :=
  fun year => inferInstanceAs (Decidable (year % 4 = 0 ∧ (year % 100 ≠ 0 ∨ year % 400 = 0)))

/-- The days of a month. -/
def daysIn (year month : Nat) : Nat :=
  if month = 2 then if IsLeap year then 29 else 28
  else if month = 4 ∨ month = 6 ∨ month = 9 ∨ month = 11 then 30
  else 31

/-- The days of a year. -/
def daysInYear (year : Nat) : Nat := if IsLeap year then 366 else 365

/-- The days of all years from the first one to before the given one. -/
def daysBeforeYear (year : Nat) : Nat :=
  365 * (year - 1) + (year - 1) / 4 - (year - 1) / 100 + (year - 1) / 400

/-- The days of a year before a month of it. -/
def daysBeforeMonth (year month : Nat) : Nat :=
  ((List.range (month - 1)).map fun m => daysIn year (m + 1)).sum

/-- A date of the years 1 to 9999 and a time of day. -/
structure DateTime where
  year : Nat
  month : Nat
  day : Nat
  hour : Nat
  minute : Nat
  second : Nat
  year_mem : 1 ≤ year ∧ year ≤ 9999
  month_mem : 1 ≤ month ∧ month ≤ 12
  day_mem : 1 ≤ day ∧ day ≤ daysIn year month
  hour_lt : hour < 24
  minute_lt : minute < 60
  second_lt : second < 60

/-! ## Days -/

theorem daysBeforeYear_succ {year : Nat} (h : 1 ≤ year) :
    daysBeforeYear (year + 1) = daysBeforeYear year + daysInYear year := by
  obtain ⟨n, rfl⟩ := Nat.exists_eq_add_of_le' h
  simp only [daysBeforeYear, daysInYear, Nat.add_sub_cancel]
  have hsmall : n / 100 ≤ 365 * n := by omega
  have hsmall' : (n + 1) / 100 ≤ 365 * (n + 1) := by omega
  by_cases hfour : (n + 1) % 4 = 0
  · have hquarter : (n + 1) / 4 = n / 4 + 1 := by omega
    by_cases hcentury : (n + 1) % 100 = 0
    · have hhundred : (n + 1) / 100 = n / 100 + 1 := by omega
      by_cases hfourth : (n + 1) % 400 = 0
      · have hlast : (n + 1) / 400 = n / 400 + 1 := by omega
        rw [if_pos (show IsLeap (n + 1) from ⟨hfour, .inr hfourth⟩)]
        omega
      · have hlast : (n + 1) / 400 = n / 400 := by omega
        rw [if_neg fun hleap : IsLeap (n + 1) => hleap.2.elim (· hcentury) hfourth]
        omega
    · have hhundred : (n + 1) / 100 = n / 100 := by omega
      have hlast : (n + 1) / 400 = n / 400 := by omega
      rw [if_pos (show IsLeap (n + 1) from ⟨hfour, .inl hcentury⟩)]
      omega
  · have hquarter : (n + 1) / 4 = n / 4 := by omega
    have hhundred : (n + 1) / 100 = n / 100 := by omega
    have hlast : (n + 1) / 400 = n / 400 := by omega
    rw [if_neg fun hleap : IsLeap (n + 1) => hfour hleap.1]
    omega

theorem daysBeforeYear_mono {year year' : Nat} (h : 1 ≤ year) (hle : year ≤ year') :
    daysBeforeYear year ≤ daysBeforeYear year' := by
  induction year', hle using Nat.le_induction with
  | base => exact Nat.le_refl _
  | succ n hn ih =>
      rw [daysBeforeYear_succ (Nat.le_trans h hn)]
      exact Nat.le_trans ih (Nat.le_add_right _ _)

theorem daysBeforeMonth_succ {year month : Nat} (h : 1 ≤ month) :
    daysBeforeMonth year (month + 1) = daysBeforeMonth year month + daysIn year month := by
  obtain ⟨m, rfl⟩ := Nat.exists_eq_add_of_le' h
  simp [daysBeforeMonth, List.range_succ]

theorem daysBeforeMonth_mono {year month month' : Nat} (h : 1 ≤ month) (hle : month ≤ month') :
    daysBeforeMonth year month ≤ daysBeforeMonth year month' := by
  induction month', hle using Nat.le_induction with
  | base => exact Nat.le_refl _
  | succ n hn ih =>
      rw [daysBeforeMonth_succ (Nat.le_trans h hn)]
      exact Nat.le_trans ih (Nat.le_add_right _ _)

/-- The months of a year make up the year. -/
theorem daysBeforeMonth_thirteen (year : Nat) : daysBeforeMonth year 13 = daysInYear year := by
  have hmonths : daysBeforeMonth year 13 = daysIn year 2 + 337 := by
    simp [daysBeforeMonth, List.range_succ, daysIn]
    omega
  rw [hmonths, daysIn, daysInYear, if_pos rfl]
  split <;> rfl

theorem daysIn_le (year month : Nat) : daysIn year month ≤ 31 := by
  unfold daysIn
  split
  · split <;> decide
  · split <;> decide

/-! ## Fields -/

section Fields

variable {base m n x y : Nat}

theorem mul_add_lt_of_lt (hx : x < base) (h : m < n) : m * base + x < n * base + y := by
  have hstep : (m + 1) * base ≤ n * base := Nat.mul_le_mul_right _ h
  rw [Nat.add_mul] at hstep
  omega

/-- Two numbers of two fields compare by the first field first. -/
theorem mul_add_lt_iff (hx : x < base) (hy : y < base) :
    m * base + x < n * base + y ↔ m < n ∨ m = n ∧ x < y := by
  rcases Nat.lt_trichotomy m n with h | rfl | h
  · exact iff_of_true (mul_add_lt_of_lt hx h) (.inl h)
  · omega
  · have hlt := mul_add_lt_of_lt (y := x) hy h
    exact iff_of_false (by omega) (by omega)

theorem mul_add_eq_iff (hx : x < base) (hy : y < base) :
    m * base + x = n * base + y ↔ m = n ∧ x = y := by
  rcases Nat.lt_trichotomy m n with h | rfl | h
  · exact iff_of_false (Nat.ne_of_lt (mul_add_lt_of_lt hx h)) (by omega)
  · omega
  · exact iff_of_false (Nat.ne_of_gt (mul_add_lt_of_lt hy h)) (by omega)

end Fields

namespace DateTime

/-- The day of the calendar. -/
def dayNumber (t : DateTime) : Nat :=
  daysBeforeYear t.year + daysBeforeMonth t.year t.month + t.day

/-- The second of the calendar. -/
def instant (t : DateTime) : Nat := ((t.dayNumber * 24 + t.hour) * 60 + t.minute) * 60 + t.second

variable (t u : DateTime)

/-- A day lies before the next month. -/
theorem day_le : daysBeforeMonth t.year t.month + t.day ≤ daysBeforeMonth t.year (t.month + 1) := by
  rw [daysBeforeMonth_succ t.month_mem.1]
  exact Nat.add_le_add_left t.day_mem.2 _

/-- And before the next year. -/
theorem dayNumber_le : t.dayNumber ≤ daysBeforeYear (t.year + 1) := by
  have hmonth := t.day_le
  have hyear : daysBeforeMonth t.year (t.month + 1) ≤ daysInYear t.year := by
    rw [← daysBeforeMonth_thirteen]
    exact daysBeforeMonth_mono (Nat.le_add_left 1 _) (Nat.add_le_add_right t.month_mem.2 1)
  rw [dayNumber, daysBeforeYear_succ t.year_mem.1]
  omega

theorem lt_dayNumber : daysBeforeYear t.year < t.dayNumber := by
  have hday := t.day_mem.1
  unfold dayNumber
  omega

/-- Later in an earlier field is later. -/
def Before : Prop :=
  t.year < u.year ∨ t.year = u.year ∧ (t.month < u.month ∨ t.month = u.month ∧
    (t.day < u.day ∨ t.day = u.day ∧ (t.hour < u.hour ∨ t.hour = u.hour ∧
      (t.minute < u.minute ∨ t.minute = u.minute ∧ t.second < u.second))))

variable {t u}

theorem dayNumber_lt_of_year_lt (h : t.year < u.year) : t.dayNumber < u.dayNumber :=
  calc t.dayNumber ≤ daysBeforeYear (t.year + 1) := t.dayNumber_le
    _ ≤ daysBeforeYear u.year := daysBeforeYear_mono (Nat.le_add_left 1 _) h
    _ < u.dayNumber := u.lt_dayNumber

theorem dayNumber_lt_of_month_lt (hyear : t.year = u.year) (h : t.month < u.month) :
    t.dayNumber < u.dayNumber := by
  have hmonth := t.day_le
  have hmono : daysBeforeMonth t.year (t.month + 1) ≤ daysBeforeMonth t.year u.month :=
    daysBeforeMonth_mono (Nat.le_add_left 1 t.month) h
  have hday := u.day_mem.1
  unfold dayNumber
  rw [← hyear]
  omega

theorem dayNumber_lt_iff :
    t.dayNumber < u.dayNumber ↔
      t.year < u.year ∨ t.year = u.year ∧
        (t.month < u.month ∨ t.month = u.month ∧ t.day < u.day) := by
  rcases Nat.lt_trichotomy t.year u.year with hyear | hyear | hyear
  · exact iff_of_true (dayNumber_lt_of_year_lt hyear) (.inl hyear)
  · rcases Nat.lt_trichotomy t.month u.month with hmonth | hmonth | hmonth
    · exact iff_of_true (dayNumber_lt_of_month_lt hyear hmonth) (.inr ⟨hyear, .inl hmonth⟩)
    · unfold dayNumber
      rw [hyear, hmonth]
      omega
    · have hlt := dayNumber_lt_of_month_lt hyear.symm hmonth
      exact iff_of_false (by omega) (by omega)
  · have hlt := dayNumber_lt_of_year_lt hyear
    exact iff_of_false (by omega) (by omega)

theorem dayNumber_eq_iff :
    t.dayNumber = u.dayNumber ↔ t.year = u.year ∧ t.month = u.month ∧ t.day = u.day := by
  have hforth := dayNumber_lt_iff (t := t) (u := u)
  have hback := dayNumber_lt_iff (t := u) (u := t)
  omega

/-- Two of them compare field by field. -/
theorem instant_lt_iff : t.instant < u.instant ↔ Before t u := by
  unfold instant
  rw [mul_add_lt_iff t.second_lt u.second_lt, mul_add_lt_iff t.minute_lt u.minute_lt,
    mul_add_eq_iff t.minute_lt u.minute_lt, mul_add_lt_iff t.hour_lt u.hour_lt,
    mul_add_eq_iff t.hour_lt u.hour_lt, dayNumber_lt_iff, dayNumber_eq_iff, Before]
  simp only [and_or_left, and_assoc, or_assoc]

end DateTime

end Takeit.Logic
