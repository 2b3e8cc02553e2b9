import Mathlib

/-!
# The time stamp of an ingested message

`chrono_iso8601_utc_now` counts the days since 1970 down, year by year and then month by month. The calendar itself is the
succession of its days.
-/

namespace Sonde.Azure

def isLeap (y : Nat) : Bool := y % 4 == 0 && (y % 100 != 0 || y % 400 == 0)

def daysInYear (y : Nat) : Nat := if isLeap y then 366 else 365

def monthDays (leap : Bool) : List Nat := [31, if leap then 29 else 28, 31, 30, 31, 30, 31, 31, 30, 31, 30, 31]

theorem daysInYear_pos (y : Nat) : 0 < daysInYear y := by
  unfold daysInYear
  split <;> decide

def yearLoop (y remaining : Nat) : Nat × Nat :=
  if remaining < daysInYear y then (y, remaining) else yearLoop (y + 1) (remaining - daysInYear y)
termination_by remaining
decreasing_by
  have := daysInYear_pos y
  omega

def monthLoop (m remaining : Nat) : List Nat → Nat × Nat
  | [] => (m, remaining)
  | md :: rest => if remaining < md then (m, remaining) else monthLoop (m + 1) (remaining - md) rest

structure Date where
  year : Nat
  month : Nat
  day : Nat

structure Timestamp extends Date where
  hour : Nat
  minute : Nat
  second : Nat

-- The `i64` counters stay below 2⁴⁸, as `as_secs` is below 2⁶⁴.
def utcTimestamp (secs : Nat) : Timestamp :=
  let days := secs / 86400
  let timeOfDay := secs % 86400
  let (y, remaining) := yearLoop 1970 days
  let (m, remaining) := monthLoop 0 remaining (monthDays (isLeap y))
  ⟨⟨y, m + 1, remaining + 1⟩, timeOfDay / 3600, timeOfDay % 3600 / 60, timeOfDay % 60⟩

def chronoIso8601UtcNow (secs : Nat) : String :=
  let now := utcTimestamp secs
  let padded (width n : Nat) : String := String.leftpad width '0' (toString n)
  padded 4 now.year ++ "-" ++ padded 2 now.month ++ "-" ++ padded 2 now.day ++ "T" ++ padded 2 now.hour ++ ":" ++
    padded 2 now.minute ++ ":" ++ padded 2 now.second ++ "Z"

def daysInMonth (year month : Nat) : Nat :=
  if month = 2 then if year % 4 = 0 ∧ (year % 100 = 0 → year % 400 = 0) then 29 else 28
  else if month ∈ [4, 6, 9, 11] then 30 else 31

def Date.next (date : Date) : Date :=
  if date.day < daysInMonth date.year date.month then { date with day := date.day + 1 }
  else if date.month < 12 then ⟨date.year, date.month + 1, 1⟩
  else ⟨date.year + 1, 1, 1⟩

def unixEpoch : Date := ⟨1970, 1, 1⟩

variable {y m k : Nat}

theorem daysInMonth_pos (y m : Nat) : 0 < daysInMonth y m := by
  unfold daysInMonth
  split_ifs <;> decide

theorem within_month (inside : k < daysInMonth y m) : Date.next^[k] ⟨y, m, 1⟩ = ⟨y, m, k + 1⟩ := by
  induction k with
  | zero => rfl
  | succ k ih =>
    rw [Function.iterate_succ_apply', ih (Nat.lt_of_succ_lt inside)]
    exact if_pos inside

theorem past_month (y m : Nat) :
    Date.next^[daysInMonth y m] ⟨y, m, 1⟩ = if m < 12 then ⟨y, m + 1, 1⟩ else ⟨y + 1, 1, 1⟩ := by
  obtain ⟨k, days⟩ := Nat.exists_eq_add_one.mpr (daysInMonth_pos y m)
  rw [days, Function.iterate_succ_apply', within_month (by omega), Date.next, if_neg (by simp [days])]

def monthsFrom (y m count : Nat) : List Nat := (List.range' m count).map (daysInMonth y)

theorem monthDays_eq (y : Nat) : monthDays (isLeap y) = monthsFrom y 1 12 := by
  have leap : (y % 4 = 0 ∧ (y % 100 = 0 → y % 400 = 0)) ↔ isLeap y = true := by
    simp only [isLeap, Bool.and_eq_true, beq_iff_eq, Bool.or_eq_true, bne_iff_ne]
    omega
  simp [monthsFrom, monthDays, daysInMonth, List.range', leap]

theorem monthsFrom_succ (y m k : Nat) : monthsFrom y m (k + 1) = daysInMonth y m :: monthsFrom y (m + 1) k := rfl

theorem past_year (last : m + k = 12) : Date.next^[(monthsFrom y m (k + 1)).sum] ⟨y, m, 1⟩ = ⟨y + 1, 1, 1⟩ := by
  induction k generalizing m with
  | zero =>
    obtain rfl : m = 12 := last
    exact past_month y 12
  | succ k ih =>
    rw [monthsFrom_succ, List.sum_cons, Nat.add_comm, Function.iterate_add_apply, past_month, if_pos (by omega)]
    exact ih (by omega)

theorem monthLoop_date (last : m + k = 12) {remaining : Nat} (inside : remaining < (monthsFrom y (m + 1) k).sum) :
    (monthLoop m remaining (monthsFrom y (m + 1) k)).1 < 12 ∧
      Date.next^[remaining] ⟨y, m + 1, 1⟩ = ⟨y, (monthLoop m remaining (monthsFrom y (m + 1) k)).1 + 1,
        (monthLoop m remaining (monthsFrom y (m + 1) k)).2 + 1⟩ := by
  induction k generalizing m remaining with
  | zero => cases inside
  | succ k ih =>
    rw [monthsFrom_succ] at inside ⊢
    rw [List.sum_cons] at inside
    by_cases month : remaining < daysInMonth y (m + 1)
    · rw [monthLoop, if_pos month]
      exact ⟨by omega, within_month month⟩
    · rw [monthLoop, if_neg month]
      obtain ⟨rest, rfl⟩ := Nat.exists_eq_add_of_le' (Nat.not_lt.mp month)
      have more : k ≠ 0 := by
        rintro rfl
        simp [monthsFrom] at inside
      rw [Function.iterate_add_apply, past_month, if_pos (by omega), Nat.add_sub_cancel_right]
      exact ih (by omega) (by omega)

theorem daysInYear_eq (y : Nat) : daysInYear y = (monthsFrom y 1 12).sum := by
  rw [← monthDays_eq, daysInYear]
  cases isLeap y <;> rfl

theorem yearLoop_date (y remaining : Nat) : (yearLoop y remaining).2 < daysInYear (yearLoop y remaining).1 ∧
    Date.next^[remaining] ⟨y, 1, 1⟩ = Date.next^[(yearLoop y remaining).2] ⟨(yearLoop y remaining).1, 1, 1⟩ := by
  fun_induction yearLoop y remaining with
  | case1 y remaining inside => exact ⟨inside, rfl⟩
  | case2 y remaining outside ih =>
    obtain ⟨rest, rfl⟩ := Nat.exists_eq_add_of_le' (Nat.not_lt.mp outside)
    have year : Date.next^[daysInYear y] ⟨y, 1, 1⟩ = ⟨y + 1, 1, 1⟩ := daysInYear_eq y ▸ past_year rfl
    rw [Function.iterate_add_apply, year]
    rwa [Nat.add_sub_cancel_right] at ih ⊢

/-- The date is reached from the epoch in as many days as have passed, and the time is that of the day. -/
theorem utc_calendar (secs : Nat) : ∃ days now, utcTimestamp secs = now ∧ now.toDate = Date.next^[days] unixEpoch ∧
      secs = ((days * 24 + now.hour) * 60 + now.minute) * 60 + now.second ∧ now.hour < 24 ∧ now.minute < 60 ∧
      now.second < 60 ∧ 1 ≤ now.month ∧ now.month ≤ 12 := by
  obtain ⟨inside, years⟩ := yearLoop_date 1970 (secs / 86400)
  rw [daysInYear_eq] at inside
  obtain ⟨month, months⟩ := monthLoop_date (m := 0) rfl inside
  rw [Nat.zero_add, ← monthDays_eq] at month months
  refine ⟨secs / 86400, _, rfl, ?_, ?_, ?_, ?_, ?_, Nat.succ_pos _, month⟩
  · rw [unixEpoch, years, months, utcTimestamp]
  all_goals
    simp only [utcTimestamp]
    omega

end Sonde.Azure
