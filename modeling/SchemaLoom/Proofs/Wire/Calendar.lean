import Mathlib
import SchemaLoom.Wire.Calendar

/-!
# Days and dates

Every day number is that of one date: the estimated year is off by one at most, the day of the
year falls into one of its months, and counting the days before the date gives the number back.
-/
namespace SchemaLoom.Date

theorem daysBeforeMonth_eq_sum (year : Int) (month : Nat) :
    daysBeforeMonth year month = ((monthLengths year).take (month - 1)).sum :=
  List.sum_eq_foldl.symm

theorem length_monthLengths (year : Int) : (monthLengths year).length = 12 := rfl

theorem sum_monthLengths (year : Int) :
    (monthLengths year).sum = if isLeap year then 366 else 365 := by
  unfold monthLengths
  cases isLeap year <;> rfl

theorem bounds_of_isValid {d : Date} (h : d.isValid = true) : d.month ≤ 12 ∧ d.day ≤ 31 := by
  have hmonth : ∀ leap : Bool, ∀ m ≤ 12,
      [31, if leap then 29 else 28, 31, 30, 31, 30, 31, 31, 30, 31, 30, 31].getD (m - 1) 0 ≤ 31 := by
    decide
  simp only [isValid, Bool.and_eq_true, decide_eq_true_eq] at h
  obtain ⟨⟨⟨-, hle⟩, -⟩, hday⟩ := h
  exact ⟨hle, Nat.le_trans hday (hmonth (isLeap d.year) d.month hle)⟩

theorem daysBeforeYear_succ (year : Int) :
    daysBeforeYear (year + 1) = daysBeforeYear year + (monthLengths year).sum := by
  have h4 : (year + 1 + 3) / 4 = (year + 3) / 4 + if year % 4 = 0 then 1 else 0 := by
    split <;> omega
  have h100 : (year + 1 + 99) / 100 = (year + 99) / 100 + if year % 100 = 0 then 1 else 0 := by
    split <;> omega
  have h400 : (year + 1 + 399) / 400 = (year + 399) / 400 + if year % 400 = 0 then 1 else 0 := by
    split <;> omega
  have hcentury : year % 100 = 0 → year % 4 = 0 := by omega
  have hfourth : year % 400 = 0 → year % 100 = 0 := by omega
  rw [sum_monthLengths, daysBeforeYear, h4, h100, h400, daysBeforeYear]
  by_cases hleap : year % 4 = 0 <;> by_cases hend : year % 100 = 0 <;>
    by_cases hkept : year % 400 = 0 <;> simp_all [isLeap] <;> omega

/-- A year begins less than two days off its mean, 146097 / 400 days after the year before. -/
theorem daysBeforeYear_near (year : Int) :
    146097 * year - 400 < 400 * daysBeforeYear year ∧
      400 * daysBeforeYear year < 146097 * year + 800 := by
  unfold daysBeforeYear
  constructor <;> omega

theorem yearOfDay_spec (n : Int) :
    daysBeforeYear (yearOfDay n) ≤ n ∧ n < daysBeforeYear (yearOfDay n + 1) := by
  unfold yearOfDay
  obtain ⟨e, he⟩ : ∃ e, n * 400 / 146097 = e := ⟨_, rfl⟩
  have hbefore := daysBeforeYear_near (e - 1)
  have hnext := daysBeforeYear_near (e + 1 + 1)
  dsimp only
  rw [he]
  split
  case isTrue hlate => exact ⟨hlate, by omega⟩
  case isFalse hlate =>
    split
    case isTrue hearly =>
      rw [Int.sub_add_cancel]
      exact ⟨by omega, hearly⟩
    case isFalse hearly => exact ⟨by omega, by omega⟩

/-- A day within the months falls into one of them. -/
theorem monthAndDay_spec {lengths : List Nat} {month n : Nat} (h : n < lengths.sum) :
    ∃ i < lengths.length, (monthAndDay month n lengths).1 = month + i ∧
      1 ≤ (monthAndDay month n lengths).2 ∧
      (monthAndDay month n lengths).2 ≤ lengths.getD i 0 ∧
      (lengths.take i).sum + (monthAndDay month n lengths).2 = n + 1 := by
  induction lengths generalizing month n with
  | nil => simp at h
  | cons length rest ih =>
    rw [List.sum_cons] at h
    unfold monthAndDay
    split
    case isTrue hlt => exact ⟨0, by simp, rfl, by simp, hlt, by simp⟩
    case isFalse hge =>
      obtain ⟨i, hi, hmonth, hpos, hday, hsum⟩ := @ih (month + 1) (n - length) (by omega)
      refine ⟨i + 1, by simpa using hi, by omega, hpos, hday, ?_⟩
      rw [List.take_succ_cons, List.sum_cons]
      omega

/-- The day of the year lies within the year. -/
theorem dayOfYear_lt (n : Int) :
    (n - daysBeforeYear (yearOfDay n)).toNat < (monthLengths (yearOfDay n)).sum := by
  obtain ⟨hfrom, hto⟩ := yearOfDay_spec n
  rw [daysBeforeYear_succ] at hto
  omega

theorem ofDayNumber_eq (n : Int) :
    ofDayNumber n =
      let place := monthAndDay 1 (n - daysBeforeYear (yearOfDay n)).toNat
        (monthLengths (yearOfDay n))
      ⟨yearOfDay n, place.1, place.2⟩ := rfl

theorem isValid_ofDayNumber (n : Int) : (ofDayNumber n).isValid = true := by
  obtain ⟨i, hi, hmonth, hpos, hday, -⟩ := @monthAndDay_spec _ 1 _ (dayOfYear_lt n)
  rw [length_monthLengths] at hi
  rw [ofDayNumber_eq]
  simp only [isValid, hmonth, Nat.add_sub_cancel_left, Bool.and_eq_true, decide_eq_true_eq]
  exact ⟨⟨⟨by omega, by omega⟩, hpos⟩, hday⟩

/-- Counting the days before a date gives back the day it was made from. -/
theorem dayNumber_ofDayNumber (n : Int) : (ofDayNumber n).dayNumber = n := by
  obtain ⟨i, hi, hmonth, hpos, -, hsum⟩ := @monthAndDay_spec _ 1 _ (dayOfYear_lt n)
  obtain ⟨hfrom, -⟩ := yearOfDay_spec n
  rw [ofDayNumber_eq]
  simp only [dayNumber, daysBeforeMonth_eq_sum, hmonth, Nat.add_sub_cancel_left]
  omega

end SchemaLoom.Date
