import Mathlib.Tactic.IntervalCases
import Mathlib.Tactic.Common
import Mathlib.Tactic.Linarith
import SchemaDesk.Timestamp
/-!
The calendar behind the numbers of days. Months have their lengths, February one day more in leap years; days are
counted by the lengths of the years and months before them. The number of a day follows that count, each day is that of
its number, and later days have greater numbers.
-/

namespace SchemaDesk

/-- Every fourth year is a leap year, of the years that end a century only every fourth one. -/
def IsLeapYear (y : Int) : Prop := y % 4 = 0 ∧ (y % 100 = 0 → y % 400 = 0)

instance : DecidablePred IsLeapYear := fun y => inferInstanceAs (Decidable (y % 4 = 0 ∧ (y % 100 = 0 → y % 400 = 0)))

def yearLength (y : Int) : Int := if IsLeapYear y then 366 else 365

/-- The number of days of a month, the months counted from one on. -/
def monthLength (y m : Int) : Int :=
  if m = 2 then (if IsLeapYear y then 29 else 28) else if m = 4 ∨ m = 6 ∨ m = 9 ∨ m = 11 then 30 else 31

namespace Day

/-- The day is one of the calendar. -/
structure IsValid (d : Day) : Prop where
  one_le_month : 1 ≤ d.month
  month_le : d.month ≤ 12
  one_le_day : 1 ≤ d.day
  day_le : d.day ≤ monthLength d.year d.month

/-- How many days there are from the first day of the year 1 up to the given one, without that: whole years, then whole
months, then days. -/
def count (d : Day) : Int :=
  ((List.range (d.year - 1).toNat).map fun k : Nat => yearLength (k + 1)).sum +
    ((List.range (d.month - 1).toNat).map fun k : Nat => monthLength d.year (k + 1)).sum + (d.day - 1)

theorem sum_yearLength (n : Nat) :
    ((List.range n).map fun k : Nat => yearLength (k + 1)).sum = 365 * n + n / 4 - n / 100 + n / 400 := by
  induction n with
  | zero => rfl
  | succ n ih =>
    rw [List.range_succ, List.map_append, List.sum_append, ih, List.map_singleton, List.sum_singleton, yearLength]
    by_cases hleap : IsLeapYear (n + 1)
    · rw [if_pos hleap]
      unfold IsLeapYear at hleap
      omega
    · rw [if_neg hleap]
      unfold IsLeapYear at hleap
      omega

/-! ### Numbers of days -/

theorem number_day (y m d : Int) : number ⟨y, m, d⟩ = number ⟨y, m, 1⟩ + (d - 1) := by
  simp only [number]
  omega

theorem number_january (y : Int) :
    number ⟨y, 1, 1⟩ = 365 * (y - 1) + (y - 1) / 4 - (y - 1) / 100 + (y - 1) / 400 + 306 := by
  simp [number]

/-- The first days of two months that follow each other are apart by the length of the first one. -/
theorem number_month (y : Int) {m : Int} (hm : 1 ≤ m) (hm' : m < 12) :
    number ⟨y, m + 1, 1⟩ = number ⟨y, m, 1⟩ + monthLength y m := by
  interval_cases m <;> simp [number, monthLength, IsLeapYear] <;> omega

theorem number_december (y : Int) : number ⟨y + 1, 1, 1⟩ = number ⟨y, 12, 1⟩ + monthLength y 12 := by
  simp [number, monthLength]
  omega

/-- The lengths of the months before a month lead from the first day of the year to that of the month. -/
theorem sum_monthLength (y : Int) {n : Nat} (hn : n < 12) :
    ((List.range n).map fun k : Nat => monthLength y (k + 1)).sum = number ⟨y, n + 1, 1⟩ - number ⟨y, 1, 1⟩ := by
  induction n with
  | zero => simp
  | succ n ih =>
    have hstep := number_month y (m := n + 1) (by omega) (by omega)
    rw [List.range_succ, List.map_append, List.sum_append, ih (by omega), List.map_singleton, List.sum_singleton,
      Nat.cast_succ, hstep]
    omega

/-- Numbers of days start in the March of the year 0, 306 days earlier than the count. -/
theorem number_eq_count {d : Day} (h : d.IsValid) (hyear : 1 ≤ d.year) : d.number = d.count + 306 := by
  obtain ⟨year, month, day⟩ := d
  obtain ⟨hmonth, hmonth', -, -⟩ := h
  dsimp only at hyear hmonth hmonth'
  have hyears : ((year - 1).toNat : Int) = year - 1 := Int.toNat_of_nonneg (by omega)
  have hmonths : ((month - 1).toNat : Int) = month - 1 := Int.toNat_of_nonneg (by omega)
  have hfew : (month - 1).toNat < 12 := by omega
  rw [number_day, count, sum_yearLength, sum_monthLength year hfew, hyears, hmonths, Int.sub_add_cancel, number_january]
  dsimp only
  omega

/-! ### The following day -/

/-- The next day of the calendar. -/
def next (d : Day) : Day :=
  if d.day < monthLength d.year d.month then ⟨d.year, d.month, d.day + 1⟩
  else if d.month < 12 then ⟨d.year, d.month + 1, 1⟩
  else ⟨d.year + 1, 1, 1⟩

theorem one_le_monthLength (y m : Int) : 1 ≤ monthLength y m := by
  unfold monthLength
  split_ifs <;> decide

theorem IsValid.next {d : Day} (h : d.IsValid) : d.next.IsValid := by
  obtain ⟨hmonth, hmonth', hday, hday'⟩ := h
  unfold Day.next
  split_ifs with hinner hlast
  · exact ⟨hmonth, hmonth', Int.le_add_one hday, Int.add_one_le_of_lt hinner⟩
  · exact ⟨Int.le_add_one hmonth, Int.add_one_le_of_lt hlast, Int.le_refl 1, one_le_monthLength _ _⟩
  · exact ⟨Int.le_refl 1, (by decide : (1 : Int) ≤ 12), Int.le_refl 1, one_le_monthLength _ _⟩

theorem number_next {d : Day} (h : d.IsValid) : d.next.number = d.number + 1 := by
  obtain ⟨year, month, day⟩ := d
  obtain ⟨hmonth, hmonth', hday, hday'⟩ := h
  dsimp only at hmonth hmonth' hday hday'
  rw [number_day year month day]
  unfold Day.next
  dsimp only
  split_ifs with hinner hlast
  · rw [number_day]
    omega
  · rw [number_month year hmonth hlast]
    omega
  · obtain rfl : month = 12 := by omega
    rw [number_december]
    omega

/-! ### The day of a number -/

/-- The year of its era, from the days of the era that have gone by. Years are counted from March, in blocks of four. -/
theorem yearOfEra_eq {q s r n : Int} (hq : 0 ≤ q) (hq' : q < 100) (hs : 0 ≤ s) (hs' : s < 4) (hr : 0 ≤ r)
    (hr' : r < 365 ∨ r = 365 ∧ s = 3 ∧ (q % 25 = 24 → q = 99)) (hn : n = 1461 * q + 365 * s - q / 25 + r) :
    0 ≤ n ∧ n < 146097 ∧ (n - n / 1460 + n / 36524 - n / 146096) / 365 = 4 * q + s := by
  have hcentury : n / 36524 = q / 25 ∨ n = 146096 := by omega
  have hblock : n / 1460 = q ∨ n / 1460 = q + 1 := by omega
  refine ⟨by omega, by omega, ?_⟩
  rcases hcentury with hcentury | rfl
  · have hera : n / 146096 = 0 := by omega
    rcases hblock with hblock | hblock <;> omega
  · omega

/-- The leap days before a year of an era. -/
theorem leapDays_eq (era : Int) {q s : Int} (hq : 0 ≤ q) (hq' : q < 100) (hs : 0 ≤ s) (hs' : s < 4) :
    (400 * era + (4 * q + s)) / 4 - (400 * era + (4 * q + s)) / 100 + (400 * era + (4 * q + s)) / 400 =
      97 * era + (q - q / 25) ∧ (4 * q + s) / 4 - (4 * q + s) / 100 = q - q / 25 := by
  omega

/-- The month of its year, counted from March on, from the days of the year that have gone by. -/
theorem monthOfYear_eq {m day r : Int} (hday : 1 ≤ day) (hday' : day ≤ (153 * (m + 1) + 2) / 5 - (153 * m + 2) / 5)
    (hr : r = (153 * m + 2) / 5 + day - 1) : (5 * r + 2) / 153 = m := by
  omega

/-- The days of a year that have gone by before a day, the year counted from March on. -/
theorem dayOfYear_lt {m day y : Int} (hm : 0 ≤ m) (hm' : m < 12) (hday : 1 ≤ day)
    (hday' : day ≤ (153 * (m + 1) + 2) / 5 - (153 * m + 2) / 5)
    (hlast : m = 11 → day < 29 ∨ day = 29 ∧ IsLeapYear (y + 1)) :
    0 ≤ (153 * m + 2) / 5 + day - 1 ∧ ((153 * m + 2) / 5 + day - 1 < 365 ∨
      (153 * m + 2) / 5 + day - 1 = 365 ∧ IsLeapYear (y + 1)) := by
  refine ⟨by omega, ?_⟩
  by_cases h : m = 11
  · subst h
    rcases hlast rfl with h | ⟨rfl, hleap⟩
    · exact Or.inl (by omega)
    · exact Or.inr ⟨rfl, hleap⟩
  · exact Or.inl (by omega)

/-- A leap year ends its block of four, and only that century that ends the era. -/
theorem block_of_isLeapYear {era q s : Int} (hq : 0 ≤ q) (hq' : q < 100) (hs : 0 ≤ s) (hs' : s < 4)
    (h : IsLeapYear (400 * era + (4 * q + s) + 1)) : s = 3 ∧ (q % 25 = 24 → q = 99) := by
  obtain ⟨hfour, hhundred⟩ := h
  have hs : s = 3 := by omega
  refine ⟨hs, fun hq => ?_⟩
  have := hhundred (by omega)
  omega

/-- The day of a number, where the steps of the search are known. -/
theorem ofNumber_era {era k y r m : Int} (hk : 0 ≤ k) (hk' : k < 146097)
    (hyear : (k - k / 1460 + k / 36524 - k / 146096) / 365 = y) (hday : k - (365 * y + y / 4 - y / 100) = r)
    (hmonth : (5 * r + 2) / 153 = m) :
    ofNumber (146097 * era + k) = ⟨era * 400 + y + (if (if m < 10 then m + 3 else m - 9) ≤ 2 then 1 else 0),
      if m < 10 then m + 3 else m - 9, r - (153 * m + 2) / 5 + 1⟩ := by
  have hera : (146097 * era + k) / 146097 = era := by omega
  have hrest : (146097 * era + k) % 146097 = k := by omega
  simp only [ofNumber, hera, hrest, hyear, hday, hmonth]

/-- A day whose month and year are counted from March on. Only before a leap year, the last month has a day more. -/
theorem ofNumber_eq {y m day : Int} (hm : 0 ≤ m) (hm' : m < 12) (hday : 1 ≤ day)
    (hday' : day ≤ (153 * (m + 1) + 2) / 5 - (153 * m + 2) / 5)
    (hlast : m = 11 → day < 29 ∨ day = 29 ∧ IsLeapYear (y + 1)) :
    ofNumber (365 * y + y / 4 - y / 100 + y / 400 + (153 * m + 2) / 5 + day - 1) =
      ⟨y + (if (if m < 10 then m + 3 else m - 9) ≤ 2 then 1 else 0), if m < 10 then m + 3 else m - 9, day⟩ := by
  obtain ⟨era, q, s, hq, hq', hs, hs', rfl⟩ : ∃ era q s : Int, 0 ≤ q ∧ q < 100 ∧ 0 ≤ s ∧ s < 4 ∧
      y = 400 * era + (4 * q + s) := ⟨y / 400, y % 400 / 4, y % 4, by omega⟩
  obtain ⟨hr, hr'⟩ := dayOfYear_lt hm hm' hday hday' hlast
  obtain ⟨r, hreq⟩ : ∃ r, r = (153 * m + 2) / 5 + day - 1 := ⟨_, rfl⟩
  have hmonth : (5 * r + 2) / 153 = m := monthOfYear_eq hday hday' hreq
  rw [← hreq] at hr hr'
  have hblock : r < 365 ∨ r = 365 ∧ s = 3 ∧ (q % 25 = 24 → q = 99) :=
    hr'.imp_right fun h => ⟨h.1, block_of_isLeapYear hq hq' hs hs' h.2⟩
  obtain ⟨hlow, hhigh, hyear⟩ := yearOfEra_eq hq hq' hs hs' hr hblock rfl
  obtain ⟨hleap, hleap'⟩ := leapDays_eq era hq hq' hs hs'
  have hdays : 1461 * q + 365 * s - q / 25 + r - (365 * (4 * q + s) + (4 * q + s) / 4 - (4 * q + s) / 100) = r := by
    linarith only [hleap']
  have hnumber : 365 * (400 * era + (4 * q + s)) + (400 * era + (4 * q + s)) / 4 - (400 * era + (4 * q + s)) / 100 +
      (400 * era + (4 * q + s)) / 400 + (153 * m + 2) / 5 + day - 1 =
        146097 * era + (1461 * q + 365 * s - q / 25 + r) := by
    linarith only [hleap, hreq]
  have hdayOfMonth : r - (153 * m + 2) / 5 + 1 = day := by linarith only [hreq]
  rw [hnumber, ofNumber_era hlow hhigh hyear hdays hmonth, hdayOfMonth, Int.mul_comm era 400]

/-- Counted from March on, the months have the lengths of the search, the last one at most. -/
theorem monthLength_le {y m k : Int} (hm : 1 ≤ m) (hm' : m ≤ 12) (hk : k = if m ≤ 2 then m + 9 else m - 3) :
    monthLength y m ≤ (153 * (k + 1) + 2) / 5 - (153 * k + 2) / 5 := by
  subst hk
  interval_cases m <;> simp [monthLength]
  split_ifs <;> decide

/-- A day is found again by its number. -/
theorem ofNumber_number {d : Day} (h : d.IsValid) : ofNumber d.number = d := by
  obtain ⟨year, month, day⟩ := d
  obtain ⟨hmonth, hmonth', hday, hday'⟩ := h
  dsimp only at hmonth hmonth' hday hday'
  have hlength := hday'.trans (monthLength_le hmonth hmonth' rfl)
  simp only [number]
  by_cases hearly : month ≤ 2
  · simp only [if_pos hearly] at hlength ⊢
    have hlast : month + 9 = 11 → day < 29 ∨ day = 29 ∧ IsLeapYear (year - 1 + 1) := by
      intro hlast
      obtain rfl : month = 2 := by omega
      rw [monthLength, if_pos rfl] at hday'
      rw [Int.sub_add_cancel]
      by_cases hleap : IsLeapYear year
      · rw [if_pos hleap] at hday'
        exact (Int.lt_or_eq_of_le hday').imp_right fun h => ⟨h, hleap⟩
      · rw [if_neg hleap] at hday'
        exact Or.inl (by omega)
    rw [ofNumber_eq (by omega) (by omega) hday hlength hlast, Day.mk.injEq]
    omega
  · simp only [if_neg hearly] at hlength ⊢
    rw [ofNumber_eq (by omega) (by omega) hday hlength (by omega), Day.mk.injEq]
    omega

/-! ### The order of days -/

/-- The fields of a day, the one that counts most first. -/
def fields (d : Day) : List Int := [d.year, d.month, d.day]

theorem fields_lt_fields_next (d : Day) : d.fields < d.next.fields := by
  unfold Day.next
  split_ifs <;> simp [fields, List.cons_lt_cons_iff]

theorem isValid_iterate_next {d : Day} (h : d.IsValid) (n : Nat) : (next^[n] d).IsValid := by
  induction n with
  | zero => exact h
  | succ n ih =>
    rw [Function.iterate_succ_apply']
    exact ih.next

theorem number_iterate_next {d : Day} (h : d.IsValid) (n : Nat) : (next^[n] d).number = d.number + n := by
  induction n with
  | zero => rw [Function.iterate_zero_apply, Nat.cast_zero, Int.add_zero]
  | succ n ih =>
    rw [Function.iterate_succ_apply', number_next (isValid_iterate_next h n), ih, Nat.cast_succ, Int.add_assoc]

/-- The days from a day on are those of its number and of all later ones. -/
theorem ofNumber_add {d : Day} (h : d.IsValid) (n : Nat) : ofNumber (d.number + n) = next^[n] d := by
  rw [← number_iterate_next h, ofNumber_number (isValid_iterate_next h n)]

theorem fields_lt_fields_iterate_next (d : Day) (n : Nat) : d.fields < (next^[n + 1] d).fields := by
  induction n with
  | zero => exact fields_lt_fields_next d
  | succ n ih =>
    rw [Function.iterate_succ_apply']
    exact List.lt_trans ih (fields_lt_fields_next _)

theorem number_inj {d e : Day} (hd : d.IsValid) (he : e.IsValid) (h : d.number = e.number) : d = e := by
  rw [← ofNumber_number hd, h, ofNumber_number he]

theorem fields_lt_fields_of_number_lt {d e : Day} (hd : d.IsValid) (he : e.IsValid) (h : d.number < e.number) :
    d.fields < e.fields := by
  obtain ⟨n, hn⟩ : ∃ n : Nat, e.number = d.number + (n + 1 : Nat) := ⟨(e.number - d.number - 1).toNat, by omega⟩
  have hlater : e = next^[n + 1] d := by rw [← ofNumber_number he, hn, ofNumber_add hd]
  exact hlater ▸ fields_lt_fields_iterate_next d n

/-- Numbers of days are in the order of the calendar. -/
theorem number_lt_number_iff {d e : Day} (hd : d.IsValid) (he : e.IsValid) :
    d.number < e.number ↔ d.fields < e.fields := by
  refine ⟨fields_lt_fields_of_number_lt hd he, fun h => ?_⟩
  by_contra hnot
  rcases Int.lt_or_eq_of_le (Int.not_lt.mp hnot) with hlt | heq
  · exact List.lt_asymm h (fields_lt_fields_of_number_lt he hd hlt)
  · rw [number_inj he hd heq] at h
    exact List.lt_irrefl _ h

theorem isValid_newYear (y : Int) : IsValid ⟨y, 1, 1⟩ :=
  ⟨Int.le_refl 1, (by decide : (1 : Int) ≤ 12), Int.le_refl 1, one_le_monthLength y 1⟩

theorem number_lt_newYear_iff {d : Day} (h : d.IsValid) {y : Int} : d.number < number ⟨y, 1, 1⟩ ↔ d.year < y := by
  have hmonth := h.one_le_month
  have hday := h.one_le_day
  rw [number_lt_number_iff h (isValid_newYear y)]
  simp only [fields, List.cons_lt_cons_iff, List.not_lt_nil, and_false, or_false]
  omega

/-- From the first year on, each number is that of the day that is found for it. -/
theorem ofNumber_spec {n : Int} (h : number ⟨1, 1, 1⟩ ≤ n) : (ofNumber n).IsValid ∧ (ofNumber n).number = n := by
  obtain ⟨k, rfl⟩ : ∃ k : Nat, n = number ⟨1, 1, 1⟩ + k := ⟨(n - number ⟨1, 1, 1⟩).toNat, by omega⟩
  rw [ofNumber_add (isValid_newYear 1)]
  exact ⟨isValid_iterate_next (isValid_newYear 1) k, number_iterate_next (isValid_newYear 1) k⟩

end Day

end SchemaDesk
