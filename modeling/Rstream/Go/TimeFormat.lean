import Mathlib.Tactic.Ring
import Rstream.Go.Time

/-!
# Formatting instants

The RFC 3339 text of an instant in UTC. In the years the notation has room for,
reading the text back gives the instant, to the second.
-/

namespace Rstream.Go

open Option

section Digits

/-- The last `n` decimal digits of a number. -/
def pad : Nat → Nat → List Char
  | 0, _ => []
  | n + 1, value => Nat.digitChar (value / 10 ^ n % 10) :: pad n value

theorem digit?_digitChar {d : Nat} (h : d < 10) : digit? (Nat.digitChar d) = some d := by
  have hall : ∀ e ∈ List.range 10, digit? (Nat.digitChar e) = some e := by decide
  exact hall d (List.mem_range.mpr h)

/-- Padded digits are read back. -/
theorem digits?_pad (n value : Nat) (rest : List Char) :
    digits? n (pad n value ++ rest) = some (value % 10 ^ n, rest) := by
  induction n with
  | zero => simp [digits?, pad, Nat.mod_one]
  | succ n ih =>
    have hdigit := digit?_digitChar (Nat.mod_lt (value / 10 ^ n) (by decide : 0 < 10))
    have hvalue : value / 10 ^ n % 10 * 10 ^ n + value % 10 ^ n = value % 10 ^ (n + 1) := by
      rw [Nat.mod_pow_succ]
      ring
    simp [digits?, pad, hdigit, ih, hvalue]

theorem digits?_pad_of_lt {n value : Nat} (h : value < 10 ^ n) (rest : List Char) :
    digits? n (pad n value ++ rest) = some (value, rest) := by
  rw [digits?_pad, Nat.mod_eq_of_lt h]

end Digits

section Calendar

/-- Days from 1970-01-01 to the first day of a year. -/
def daysBeforeYear (year : Int) : Int :=
  365 * (year - 1) + (year - 1) / 4 - (year - 1) / 100 + (year - 1) / 400 - 719162

/-- The year of a day: the mean length of a year gives it up to two. -/
def yearOf (days : Int) : Int :=
  let guess := (days + 719162) * 400 / 146097
  if daysBeforeYear (guess + 2) ≤ days then guess + 2
  else if daysBeforeYear (guess + 1) ≤ days then guess + 1
  else guess

/-- The year of a day has begun and has not ended. -/
theorem yearOf_spec (days : Int) :
    daysBeforeYear (yearOf days) ≤ days ∧ days < daysBeforeYear (yearOf days + 1) := by
  have hguess : ∃ n, n = (days + 719162) * 400 / 146097 := ⟨_, rfl⟩
  obtain ⟨n, hn⟩ := hguess
  simp only [yearOf, ← hn]
  have hprev : n + 2 = n + 1 + 1 := by ring
  split_ifs with hlast hmiddle
  · refine ⟨hlast, ?_⟩
    simp only [daysBeforeYear]
    omega
  · exact ⟨hmiddle, hprev ▸ not_le.mp hlast⟩
  · refine ⟨?_, not_le.mp hmiddle⟩
    simp only [daysBeforeYear]
    omega

theorem daysBeforeYear_mono {y z : Int} (h : y ≤ z) : daysBeforeYear y ≤ daysBeforeYear z := by
  simp only [daysBeforeYear]
  omega

/-- The days of the years 0 to 9999. -/
theorem yearOf_eq {days : Int} (hlow : -719528 ≤ days) (hhigh : days < 2932897) :
    ∃ year : Nat, year < 10000 ∧ yearOf days = year := by
  obtain ⟨hbegun, hended⟩ := yearOf_spec days
  have hzero : daysBeforeYear 0 = -719528 := by decide
  have hlast : daysBeforeYear 10000 = 2932897 := by decide
  have hyear0 : 0 ≤ yearOf days := by
    by_contra hneg
    have hmono := daysBeforeYear_mono (show yearOf days + 1 ≤ 0 by omega)
    omega
  have hyear : yearOf days < 10000 := by
    by_contra hge
    have hmono := daysBeforeYear_mono (show 10000 ≤ yearOf days by omega)
    omega
  exact ⟨(yearOf days).toNat, by omega, (Int.toNat_of_nonneg hyear0).symm⟩

/-- The days of the months before a month. -/
def daysBeforeMonth (year month : Nat) : Nat :=
  ((List.range (month - 1)).map fun i => daysIn year (i + 1)).sum

theorem daysBeforeMonth_succ (year : Nat) {month : Nat} (h : 0 < month) :
    daysBeforeMonth year (month + 1) = daysBeforeMonth year month + daysIn year month := by
  obtain ⟨n, rfl⟩ : ∃ n, month = n + 1 := ⟨month - 1, by omega⟩
  simp [daysBeforeMonth, List.range_succ]

/-- A date as days into its year. -/
theorem daysSinceEpoch_eq (year month : Nat) {day : Nat} (hday : 0 < day) :
    daysSinceEpoch year month day =
      daysBeforeYear year + daysBeforeMonth year month + (day - 1 : Nat) := by
  simp only [daysSinceEpoch, daysBeforeYear, daysBeforeMonth]
  push_cast [hday]
  ring

/-- The month and the day of the month, from a month on and a number of days into it. -/
def monthDay (year : Nat) : Nat → Nat → Nat → Nat × Nat
  | 0, month, day => (month, day + 1)
  | fuel + 1, month, day =>
    if day < daysIn year month then (month, day + 1)
    else monthDay year fuel (month + 1) (day - daysIn year month)

/-- The month and day found lie as far into the year as the day asked for. -/
theorem monthDay_spec (year fuel : Nat) {month day : Nat} (hmonth : 0 < month)
    (hday : daysBeforeMonth year month + day < daysBeforeMonth year (month + fuel + 1)) :
    month ≤ (monthDay year fuel month day).1 ∧ (monthDay year fuel month day).1 ≤ month + fuel ∧
      0 < (monthDay year fuel month day).2 ∧
      (monthDay year fuel month day).2 ≤ daysIn year (monthDay year fuel month day).1 ∧
      daysBeforeMonth year (monthDay year fuel month day).1 +
        ((monthDay year fuel month day).2 - 1) = daysBeforeMonth year month + day := by
  induction fuel generalizing month day with
  | zero =>
    have hsucc := daysBeforeMonth_succ year hmonth
    simp only [monthDay, Nat.add_zero] at hday ⊢
    omega
  | succ fuel ih =>
    have hsucc := daysBeforeMonth_succ year hmonth
    simp only [monthDay]
    split_ifs with hin
    · simp only
      omega
    · obtain ⟨hlow, hhigh, hpos, hfit, hsum⟩ := @ih (month + 1) (day - daysIn year month)
        (Nat.succ_pos _) (by rw [show month + 1 + fuel + 1 = month + (fuel + 1) + 1 by omega]; omega)
      refine ⟨by omega, by omega, hpos, hfit, ?_⟩
      omega

/-- A year has the days of its months. -/
theorem daysBeforeMonth_year (year : Nat) :
    daysBeforeYear year + daysBeforeMonth year 13 = daysBeforeYear (year + 1) := by
  have hleap : daysBeforeMonth year 13 = if isLeap year then 366 else 365 := by
    simp only [daysBeforeMonth, daysIn, List.range, List.range.loop, List.map, List.sum_cons,
      List.sum_nil]
    split_ifs <;> rfl
  rw [hleap]
  simp only [isLeap, daysBeforeYear, Bool.and_eq_true, Bool.or_eq_true, beq_iff_eq, bne_iff_ne]
  split_ifs with h <;> omega

end Calendar

section Format

/-- The instants of the years 0 to 9999. -/
def InRFC3339Range (t : Int) : Prop :=
  daysBeforeYear 0 * 86400 * second ≤ t ∧ t < daysBeforeYear 10000 * 86400 * second

/-- `t.Truncate(time.Second)`. -/
def truncateSecond (t : Int) : Int := t / second * second

/-- `t.Format(time.RFC3339)` of an instant in UTC. -/
def formatRFC3339 (t : Int) : String :=
  let seconds := t / second
  let days := seconds / 86400
  let time := (seconds % 86400).toNat
  let year := (yearOf days).toNat
  let date := monthDay year 11 1 (days - daysBeforeYear year).toNat
  String.ofList (pad 4 year ++ '-' :: pad 2 date.1 ++ '-' :: pad 2 date.2 ++ 'T' ::
    pad 2 (time / 3600) ++ ':' :: pad 2 (time / 60 % 60) ++ ':' :: pad 2 (time % 60) ++ ['Z'])

/-- `t.Format(time.RFC3339Nano)` of an instant in UTC: the fraction without trailing zeros. -/
def formatRFC3339Nano (t : Int) : String :=
  let digits := ((pad 9 (t % second).toNat).reverse.dropWhile (· = '0')).reverse
  String.ofList ((formatRFC3339 t).toList.dropLast ++ (if digits = [] then [] else '.' :: digits) ++
    ['Z'])

/-- The text of a valid date and time is read back. -/
theorem parseRFC3339_fields {year month day hour minute sec : Nat} (hyear : year < 10000)
    (hmonth : 0 < month ∧ month ≤ 12) (hday : 0 < day ∧ day ≤ daysIn year month)
    (hhour : hour < 24) (hminute : minute < 60) (hsec : sec < 60) :
    parseRFC3339 (String.ofList (pad 4 year ++ '-' :: pad 2 month ++ '-' :: pad 2 day ++ 'T' ::
      pad 2 hour ++ ':' :: pad 2 minute ++ ':' :: pad 2 sec ++ ['Z'])) =
    some ((daysSinceEpoch year month day * 86400 + hour * 3600 + minute * 60 + sec) * second) := by
  have hdays : daysIn year month ≤ 31 := by
    unfold daysIn
    split <;> (try split_ifs) <;> decide
  have h4 : ∀ rest, digits? 4 (pad 4 year ++ rest) = some (year, rest) :=
    digits?_pad_of_lt (by omega)
  have h2 : ∀ {n}, n < 100 → ∀ rest, digits? 2 (pad 2 n ++ rest) = some (n, rest) :=
    fun h => digits?_pad_of_lt (by omega)
  have hvalid : ¬ (month = 0 ∨ 12 < month ∨ day = 0 ∨ daysIn year month < day ∨ 24 ≤ hour ∨
      60 ≤ minute ∨ 60 ≤ sec) := by omega
  rw [parseRFC3339, String.toList_ofList]
  simp only [List.append_assoc, List.cons_append]
  rw [h4, bind_eq_bind, bind_some]
  simp only [char?, if_true, bind_eq_bind, bind_some]
  rw [h2 (show month < 100 by omega), bind_some]
  simp only [if_true, bind_some]
  rw [h2 (show day < 100 by omega), bind_some]
  simp only [if_true, bind_some, hour?]
  rw [h2 (show hour < 100 by omega), some_or, bind_some]
  simp only [if_true, bind_some]
  rw [h2 (show minute < 100 by omega), bind_some]
  simp only [if_true, bind_some]
  rw [h2 (show sec < 100 by omega), bind_some]
  simp only [fraction?, zone?, bind_some]
  rw [if_neg hvalid, sub_zero, Nat.cast_zero, add_zero, pure_def]

/-- Reading the text of an instant gives the instant, to the second. -/
theorem parseRFC3339_format {t : Int} (h : InRFC3339Range t) :
    parseRFC3339 (formatRFC3339 t) = some (truncateSecond t) := by
  have hlow := h.1
  have hhigh := h.2
  rw [show daysBeforeYear 0 = -719528 by decide] at hlow
  rw [show daysBeforeYear 10000 = 2932897 by decide] at hhigh
  simp only [second] at hlow hhigh
  obtain ⟨seconds, hseconds⟩ : ∃ seconds, seconds = t / second := ⟨_, rfl⟩
  obtain ⟨days, hdays⟩ : ∃ days, days = seconds / 86400 := ⟨_, rfl⟩
  have hrange : -719528 ≤ days ∧ days < 2932897 := by
    rw [second] at hseconds
    omega
  obtain ⟨year, hyear, hyearOf⟩ := yearOf_eq hrange.1 hrange.2
  obtain ⟨hbegun, hended⟩ := yearOf_spec days
  rw [hyearOf] at hbegun hended
  obtain ⟨into, hinto⟩ := Int.eq_ofNat_of_zero_le (Int.sub_nonneg.mpr hbegun)
  have htotal := daysBeforeMonth_year year
  have hzero : daysBeforeMonth year 1 = 0 := rfl
  obtain ⟨hmonth, hmonth', hday, hday', hsum⟩ := monthDay_spec year 11 Nat.one_pos
    (show daysBeforeMonth year 1 + into < daysBeforeMonth year 13 by omega)
  obtain ⟨time, htime⟩ := Int.eq_ofNat_of_zero_le
    (Int.emod_nonneg seconds (show (86400 : Int) ≠ 0 by decide))
  have htimeLt := Int.emod_lt_of_pos seconds (show (0 : Int) < 86400 by decide)
  rw [htime] at htimeLt
  rw [formatRFC3339, ← hseconds, ← hdays, hyearOf, htime]
  simp only [Int.toNat_natCast, hinto]
  rw [parseRFC3339_fields hyear ⟨hmonth, hmonth'⟩ ⟨hday, hday'⟩ (by omega) (by omega) (by omega),
    truncateSecond, ← hseconds, daysSinceEpoch_eq _ _ hday]
  congr 2
  push_cast
  omega

end Format

end Rstream.Go
