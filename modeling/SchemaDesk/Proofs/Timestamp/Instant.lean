import Mathlib.Data.List.Forall2
import Mathlib.Data.String.Basic
import SchemaDesk.Proofs.Text.Digit
import SchemaDesk.Proofs.Timestamp.Calendar
/-!
Times, the instants that they are, and their texts. An instant within the years 1 to 9999 has one universal time, whose
fields are written with zeros in front, to the millisecond. Numbers of one width are in the order of their texts, and so
are instants.
-/

namespace SchemaDesk.DateTime

/-! ### Numbers of a fixed width -/

/-- The characters are the decimal digits of a number, with zeros in front up to the given width. -/
structure IsPadded (width : Nat) (n : Int) (cs : List Char) : Prop where
  length : cs.length = width
  digits : ∀ c ∈ cs, c.isDigit = true
  value : (Nat.ofDigitChars 10 cs 0 : Int) = n

theorem isDigit_of_mem_padded {width : Nat} {n : Int} {c : Char} (h : c ∈ padded width n) : c.isDigit = true := by
  rw [padded, List.mem_append] at h
  rcases h with h | h
  · obtain rfl := List.eq_of_mem_replicate h
    rfl
  · exact Text.isDigit_of_mem_toDigits h

theorem isPadded_padded {width : Nat} {n : Int} (hwidth : 0 < width) (hn : 0 ≤ n) (h : n < 10 ^ width) :
    IsPadded width n (padded width n) where
  length := by
    have hnat : n.toNat < 10 ^ width := (Int.toNat_lt hn).mpr (by exact_mod_cast h)
    have hlength := (Nat.length_toDigits_le_iff (by decide) hwidth).mpr hnat
    rw [padded, List.length_append, List.length_replicate, Nat.sub_add_cancel hlength]
  digits _ := isDigit_of_mem_padded
  value := by
    rw [padded, Nat.ofDigitChars_append, Nat.ofDigitChars_replicate_zero, Nat.mul_zero, Nat.ofDigitChars_ten_toDigits,
      Int.toNat_of_nonneg hn]

/-! ### The order of padded numbers -/

theorem ofDigitChars_lt {cs : List Char} (h : ∀ c ∈ cs, c.isDigit = true) :
    Nat.ofDigitChars 10 cs 0 < 10 ^ cs.length := by
  induction cs with
  | nil => decide
  | cons c cs ih =>
    obtain ⟨hc, hcs⟩ := List.forall_mem_cons.mp h
    have hdigit : c.toNat - '0'.toNat ≤ 9 := Nat.sub_le_of_le_add (Char.isDigit_iff_toNat.mp hc).2
    have htail := ih hcs
    rw [Nat.ofDigitChars_cons, Nat.mul_zero, Nat.zero_add, Nat.ofDigitChars_eq_ofDigitChars_zero, List.length_cons,
      Nat.pow_succ]
    nlinarith only [hdigit, htail]

/-- The digit in front decides, and where it is the same, the digits behind it. -/
theorem lt_or_lt_of_add_lt {k x y u v : Nat} (hv : v < k) (h : k * x + u < k * y + v) : x < y ∨ x = y ∧ u < v := by
  rcases Nat.lt_trichotomy x y with hlt | rfl | hgt
  · exact Or.inl hlt
  · exact Or.inr ⟨rfl, Nat.lt_of_add_lt_add_left h⟩
  · have hscaled := Nat.mul_le_mul_left k hgt
    rw [Nat.mul_succ] at hscaled
    omega

theorem lt_of_ofDigitChars_lt {as bs : List Char} (hlength : as.length = bs.length)
    (has : ∀ c ∈ as, c.isDigit = true) (hbs : ∀ c ∈ bs, c.isDigit = true)
    (h : Nat.ofDigitChars 10 as 0 < Nat.ofDigitChars 10 bs 0) : as < bs := by
  induction as generalizing bs with
  | nil =>
    obtain rfl := List.length_eq_zero_iff.mp hlength.symm
    exact (Nat.lt_irrefl _ h).elim
  | cons a as ih =>
    cases bs with
    | nil => cases hlength
    | cons b bs =>
      obtain ⟨ha, hdigits⟩ := List.forall_mem_cons.mp has
      obtain ⟨hb, hdigits'⟩ := List.forall_mem_cons.mp hbs
      have htails : as.length = bs.length := Nat.succ.inj hlength
      rw [Nat.ofDigitChars_cons, Nat.ofDigitChars_cons, Nat.mul_zero, Nat.zero_add, Nat.zero_add,
        Nat.ofDigitChars_eq_ofDigitChars_zero, Nat.ofDigitChars_eq_ofDigitChars_zero (l := bs), htails] at h
      have hlow := (Char.isDigit_iff_toNat.mp ha).1
      have hlow' := (Char.isDigit_iff_toNat.mp hb).1
      rw [List.cons_lt_cons_iff]
      rcases lt_or_lt_of_add_lt (ofDigitChars_lt hdigits') h with hlt | ⟨heq, hlt⟩
      · exact Or.inl ((Nat.sub_lt_sub_iff_right hlow).mp hlt)
      · exact Or.inr ⟨Char.toNat_inj.mp (by omega), ih htails hdigits hdigits' hlt⟩

theorem IsPadded.lt {width : Nat} {m n : Int} {as bs : List Char} (hm : IsPadded width m as)
    (hn : IsPadded width n bs) (h : m < n) : as < bs := by
  refine lt_of_ofDigitChars_lt (hm.length.trans hn.length.symm) hm.digits hn.digits ?_
  have hvalues : (Nat.ofDigitChars 10 as 0 : Int) < Nat.ofDigitChars 10 bs 0 := by rwa [hm.value, hn.value]
  exact_mod_cast hvalues

/-- A difference between parts of one length decides, whatever stands behind them. -/
theorem append_lt_append_of_lt {α : Type} [LT α] {as bs : List α} (hlength : as.length = bs.length) (h : as < bs)
    (cs ds : List α) : as ++ cs < bs ++ ds := by
  induction as generalizing bs with
  | nil =>
    obtain rfl := List.length_eq_zero_iff.mp hlength.symm
    exact (List.not_lt_nil _ h).elim
  | cons a as ih =>
    cases bs with
    | nil => cases hlength
    | cons b bs =>
      rw [List.cons_append, List.cons_append, List.cons_lt_cons_iff]
      exact (List.cons_lt_cons_iff.mp h).imp_right fun ⟨heq, h⟩ => ⟨heq, ih (Nat.succ.inj hlength) h⟩

/-! ### Several numbers -/

/-- The text of a number, then a mark, for each of the numbers. The form gives their widths and marks. -/
def marked : List (Nat × Char) → List Int → List Char
  | (width, mark) :: form, n :: ns => padded width n ++ mark :: marked form ns
  | _, _ => []

/-- A number for each place of a form, not too large for its width. -/
def Fits (form : List (Nat × Char)) (ns : List Int) : Prop :=
  List.Forall₂ (fun p n => 0 < p.1 ∧ 0 ≤ n ∧ n < 10 ^ p.1) form ns

theorem Fits.isPadded {form : List (Nat × Char)} {ns : List Int} (h : Fits form ns) :
    List.Forall₂ (fun p n => IsPadded p.1 n (padded p.1 n)) form ns :=
  h.imp fun _ _ hn => isPadded_padded hn.1 hn.2.1 hn.2.2

theorem length_marked {form : List (Nat × Char)} {ns : List Int} (h : Fits form ns) :
    (marked form ns).length = (form.map fun p => p.1 + 1).sum := by
  induction h with
  | nil => rfl
  | cons hn _ ih =>
    rw [marked, List.length_append, List.length_cons, ih, (isPadded_padded hn.1 hn.2.1 hn.2.2).length, List.map_cons,
      List.sum_cons]
    omega

theorem marked_lt {form : List (Nat × Char)} {ms ns : List Int} (hm : Fits form ms) (hn : Fits form ns) (h : ms < ns) :
    marked form ms < marked form ns := by
  induction hm generalizing ns with
  | nil =>
    cases hn
    exact (List.lt_irrefl _ h).elim
  | @cons p m form ms hm _ ih =>
    cases hn with
    | @cons _ n _ ns hn hns =>
      have hpadded := isPadded_padded hm.1 hm.2.1 hm.2.2
      have hpadded' := isPadded_padded hn.1 hn.2.1 hn.2.2
      rw [marked, marked]
      rcases List.cons_lt_cons_iff.mp h with hlt | ⟨rfl, hlt⟩
      · exact append_lt_append_of_lt (hpadded.length.trans hpadded'.length.symm) (hpadded.lt hpadded' hlt) _ _
      · exact List.append_left_lt (List.cons_lt_cons_iff.mpr (Or.inr ⟨rfl, ih hns hlt⟩))

/-! ### Times -/

/-- The day of the local time. -/
def date (t : DateTime) : Day := ⟨t.year, t.month, t.day⟩

/-- A date and a time of day, with less than a day between local and universal time. -/
structure IsValid (t : DateTime) : Prop where
  one_le_year : 1 ≤ t.year
  year_le : t.year ≤ 9999
  date : t.date.IsValid
  hour : 0 ≤ t.hour ∧ t.hour < 24
  minute : 0 ≤ t.minute ∧ t.minute < 60
  second : 0 ≤ t.second ∧ t.second < 60
  microsecond : 0 ≤ t.microsecond ∧ t.microsecond < 1000000
  offset : -86400 < t.offsetSeconds ∧ t.offsetSeconds < 86400

/-- The local time is universal time. -/
structure IsUniversal (u : DateTime) : Prop extends IsValid u where
  offset_eq : u.offsetSeconds = 0

/-- Microseconds since the year 1 began in universal time. -/
def elapsed (t : DateTime) : Int :=
  (t.date.count * 86400 + t.hour * 3600 + t.minute * 60 + t.second - t.offsetSeconds) * 1000000 + t.microsecond

/-- The text consists of the fields of a time, to the millisecond: `YYYY-MM-DDTHH:MM:SS.mmmZ`. -/
def IsStampOf (u : DateTime) (s : String) : Prop :=
  ∃ year month day hour minute second millisecond : List Char,
    s.toList = year ++ '-' :: month ++ '-' :: day ++ 'T' :: hour ++ ':' :: minute ++ ':' :: second ++
      '.' :: millisecond ++ ['Z'] ∧
    IsPadded 4 u.year year ∧ IsPadded 2 u.month month ∧ IsPadded 2 u.day day ∧ IsPadded 2 u.hour hour ∧
    IsPadded 2 u.minute minute ∧ IsPadded 2 u.second second ∧ IsPadded 3 (u.microsecond / 1000) millisecond

variable {t u : DateTime} {i j : Int}

/-! ### Instants -/

/-- The microseconds of the local day that have gone by. -/
def timeOfDay (t : DateTime) : Int := (t.hour * 3600 + t.minute * 60 + t.second) * 1000000 + t.microsecond

theorem IsValid.timeOfDay (h : t.IsValid) : 0 ≤ t.timeOfDay ∧ t.timeOfDay < microsPerDay := by
  obtain ⟨-, -, -, hhour, hminute, hsecond, hmicrosecond, -⟩ := h
  unfold DateTime.timeOfDay microsPerDay
  omega

/-- Instants are counted from a day 306 days earlier. -/
theorem instant_eq_elapsed (h : t.IsValid) : t.instant = t.elapsed + 306 * microsPerDay := by
  have hday : Day.number ⟨t.year, t.month, t.day⟩ = t.date.count + 306 := Day.number_eq_count h.date h.one_le_year
  unfold instant elapsed microsPerDay
  rw [hday]
  omega

theorem instant_eq_instant_iff (ht : t.IsValid) (hu : u.IsValid) : u.instant = t.instant ↔ u.elapsed = t.elapsed := by
  rw [instant_eq_elapsed ht, instant_eq_elapsed hu, Int.add_left_inj]

/-- Whole milliseconds of an instant are those that have gone by, and a constant number of them. -/
theorem instant_div (h : t.IsValid) : t.instant / 1000 = t.elapsed / 1000 + 306 * 86400000 := by
  rw [instant_eq_elapsed h, microsPerDay]
  omega

theorem instant_of_isUniversal (h : u.IsUniversal) : u.instant = u.date.number * microsPerDay + u.timeOfDay := by
  unfold instant timeOfDay microsPerDay
  rw [h.offset_eq]
  show (u.date.number * 86400 + _ + _ + _ - 0) * 1000000 + _ = _
  omega

/-- The instant begins on the day of the universal time. -/
theorem instant_div_microsPerDay (h : u.IsUniversal) :
    u.instant / microsPerDay = u.date.number ∧ u.instant % microsPerDay = u.timeOfDay := by
  obtain ⟨hlow, hhigh⟩ := h.toIsValid.timeOfDay
  rw [instant_of_isUniversal h]
  unfold microsPerDay at *
  omega

theorem inRange_iff : inRange i = true ↔
    Day.number ⟨1, 1, 1⟩ ≤ i / microsPerDay ∧ i / microsPerDay < Day.number ⟨10000, 1, 1⟩ := by
  rw [inRange, Bool.and_eq_true, decide_eq_true_iff, decide_eq_true_iff, Int.le_ediv_iff_mul_le (by decide),
    Int.ediv_lt_iff_lt_mul (by decide)]

/-! ### The universal time of an instant -/

/-- The universal time of an instant: the day of its number, and what is left of the day. -/
def universal (i : Int) : DateTime :=
  let day := Day.ofNumber (i / microsPerDay)
  let micros := i % microsPerDay
  { year := day.year
    month := day.month
    day := day.day
    hour := micros / 3600000000
    minute := micros / 60000000 % 60
    second := micros / 1000000 % 60
    microsecond := micros % 1000000 }

theorem date_universal (i : Int) : (universal i).date = Day.ofNumber (i / microsPerDay) := rfl

theorem timeOfDay_universal (i : Int) : (universal i).timeOfDay = i % microsPerDay := by
  unfold timeOfDay universal
  dsimp only
  omega

theorem isUniversal_universal (h : inRange i = true) : (universal i).IsUniversal := by
  obtain ⟨hfirst, hlast⟩ := inRange_iff.mp h
  obtain ⟨hvalid, hnumber⟩ := Day.ofNumber_spec hfirst
  have hyear : ¬ (Day.ofNumber (i / microsPerDay)).year < 1 := by
    rw [← Day.number_lt_newYear_iff hvalid, hnumber]
    exact Int.not_lt.mpr hfirst
  have hyear' : (Day.ofNumber (i / microsPerDay)).year < 10000 := by
    rwa [← Day.number_lt_newYear_iff hvalid, hnumber]
  have hmicros : 0 ≤ i % microsPerDay := Int.emod_nonneg i (by decide)
  have hmicros' : i % microsPerDay < 86400000000 := Int.emod_lt_of_pos i (by decide)
  exact
    { one_le_year := Int.not_lt.mp hyear
      year_le := Int.le_of_lt_add_one hyear'
      date := hvalid
      hour := ⟨Int.ediv_nonneg hmicros (by decide), Int.ediv_lt_of_lt_mul (by decide) hmicros'⟩
      minute := ⟨Int.emod_nonneg _ (by decide), Int.emod_lt_of_pos _ (by decide)⟩
      second := ⟨Int.emod_nonneg _ (by decide), Int.emod_lt_of_pos _ (by decide)⟩
      microsecond := ⟨Int.emod_nonneg _ (by decide), Int.emod_lt_of_pos _ (by decide)⟩
      offset := ⟨(by decide : (-86400 : Int) < 0), (by decide : (0 : Int) < 86400)⟩
      offset_eq := rfl }

theorem instant_universal (h : inRange i = true) : (universal i).instant = i := by
  rw [instant_of_isUniversal (isUniversal_universal h), date_universal, timeOfDay_universal,
    (Day.ofNumber_spec (inRange_iff.mp h).1).2]
  exact Int.ediv_mul_add_emod i microsPerDay

theorem inRange_instant (h : u.IsUniversal) : inRange u.instant = true := by
  have hfirst : ¬ u.date.number < Day.number ⟨1, 1, 1⟩ := by
    rw [Day.number_lt_newYear_iff h.date]
    exact Int.not_lt.mpr h.one_le_year
  have hlast : u.date.number < Day.number ⟨10000, 1, 1⟩ := by
    rw [Day.number_lt_newYear_iff h.date]
    exact Int.lt_add_one_of_le h.year_le
  rw [inRange_iff, (instant_div_microsPerDay h).1]
  exact ⟨Int.not_lt.mp hfirst, hlast⟩

/-- A universal time is that of its instant. -/
theorem universal_instant (h : u.IsUniversal) : universal u.instant = u := by
  obtain ⟨hday, hmicros⟩ := instant_div_microsPerDay h
  have hdate := Day.ofNumber_number h.date
  obtain ⟨⟨-, -, -, hhour, hminute, hsecond, hmicrosecond, -⟩, hoffset⟩ := h
  rw [universal, hday, hmicros, hdate, timeOfDay]
  obtain ⟨year, month, day, hour, minute, second, microsecond, offset⟩ := u
  dsimp only at hhour hminute hsecond hmicrosecond hoffset
  simp only [date, mk.injEq, true_and]
  omega

/-- An instant is in range where some universal time has it. -/
theorem inRange_iff_exists (ht : t.IsValid) :
    inRange t.instant = true ↔ ∃ u : DateTime, u.IsUniversal ∧ u.elapsed = t.elapsed := by
  constructor
  · intro h
    have huniversal := isUniversal_universal h
    exact ⟨_, huniversal, (instant_eq_instant_iff ht huniversal.toIsValid).mp (instant_universal h)⟩
  · rintro ⟨u, hu, helapsed⟩
    rw [← (instant_eq_instant_iff ht hu.toIsValid).mpr helapsed]
    exact inRange_instant hu

/-! ### Texts -/

/-- The form of a text: the widths of its numbers, and the mark behind each. -/
def stampForm : List (Nat × Char) := [(4, '-'), (2, '-'), (2, 'T'), (2, ':'), (2, ':'), (2, '.'), (3, 'Z')]

/-- The numbers of a text. -/
def stampFields (t : DateTime) : List Int :=
  t.date.fields ++ [t.hour, t.minute, t.second, t.microsecond / 1000]

theorem toList_instantText (i : Int) : (instantText i).toList = marked stampForm (universal i).stampFields := by
  have hmillis : i % microsPerDay / 1000 % 1000 = i % microsPerDay % 1000000 / 1000 := by omega
  simp [instantText, stampForm, stampFields, date, Day.fields, marked, universal, hmillis]

theorem fits_stampFields (h : u.IsValid) : Fits stampForm u.stampFields := by
  obtain ⟨hyear, hyear', ⟨hmonth, hmonth', hday, hday'⟩, hhour, hminute, hsecond, hmicrosecond, -⟩ := h
  have hlength : monthLength u.date.year u.date.month ≤ 31 := by
    unfold monthLength
    split_ifs <;> decide
  simp only [Fits, stampForm, stampFields, Day.fields, List.cons_append, List.nil_append, List.forall₂_cons,
    List.forall₂_nil_left_iff, and_true]
  unfold date at *
  dsimp only at *
  omega

theorem isStampOf_instantText (h : u.IsUniversal) : IsStampOf u (instantText u.instant) := by
  have hpadded := (fits_stampFields h.toIsValid).isPadded
  simp only [stampForm, stampFields, Day.fields, date, List.cons_append, List.nil_append, List.forall₂_cons,
    List.forall₂_nil_left_iff, and_true] at hpadded
  refine ⟨padded 4 u.year, padded 2 u.month, padded 2 u.day, padded 2 u.hour, padded 2 u.minute, padded 2 u.second,
    padded 3 (u.microsecond / 1000), ?_, hpadded⟩
  rw [toList_instantText, universal_instant h]
  simp [stampForm, stampFields, date, Day.fields, marked]

theorem length_instantText (h : inRange i = true) : (instantText i).length = 24 := by
  rw [← String.length_toList, toList_instantText, length_marked (fits_stampFields (isUniversal_universal h).toIsValid)]
  rfl

/-! ### The order of texts -/

/-- Of two times of one day, the hours, then the minutes, the seconds and the milliseconds tell which is earlier. -/
theorem timeFields_lt {a b : Int} (h : a / 1000 < b / 1000) :
    [a / 3600000000, a / 60000000 % 60, a / 1000000 % 60, a % 1000000 / 1000] <
      [b / 3600000000, b / 60000000 % 60, b / 1000000 % 60, b % 1000000 / 1000] := by
  simp only [List.cons_lt_cons_iff, List.not_lt_nil, and_false, or_false]
  omega

theorem stampFields_universal (i : Int) : (universal i).stampFields = (Day.ofNumber (i / microsPerDay)).fields ++
    [i % microsPerDay / 3600000000, i % microsPerDay / 60000000 % 60, i % microsPerDay / 1000000 % 60,
      i % microsPerDay % 1000000 / 1000] := rfl

theorem stampFields_lt (hi : inRange i = true) (hj : inRange j = true) (h : i / 1000 < j / 1000) :
    (universal i).stampFields < (universal j).stampFields := by
  obtain ⟨hvalid, hnumber⟩ := Day.ofNumber_spec (inRange_iff.mp hi).1
  obtain ⟨hvalid', hnumber'⟩ := Day.ofNumber_spec (inRange_iff.mp hj).1
  rw [stampFields_universal, stampFields_universal]
  have hdays : i / microsPerDay < j / microsPerDay ∨
      i / microsPerDay = j / microsPerDay ∧ i % microsPerDay / 1000 < j % microsPerDay / 1000 := by
    unfold microsPerDay
    omega
  rcases hdays with hlt | ⟨heq, htime⟩
  · rw [← hnumber, ← hnumber'] at hlt
    exact append_lt_append_of_lt (by rfl) (Day.fields_lt_fields_of_number_lt hvalid hvalid' hlt) _ _
  · rw [heq]
    exact List.append_left_lt (timeFields_lt htime)

theorem instantText_lt (hi : inRange i = true) (hj : inRange j = true) (h : i / 1000 < j / 1000) :
    instantText i < instantText j := by
  rw [String.lt_iff_toList_lt, toList_instantText, toList_instantText]
  exact marked_lt (fits_stampFields (isUniversal_universal hi).toIsValid)
    (fits_stampFields (isUniversal_universal hj).toIsValid) (stampFields_lt hi hj h)

/-- Parts of a millisecond are not in the text. -/
theorem instantText_congr (h : i / 1000 = j / 1000) : instantText i = instantText j := by
  have hday : i / microsPerDay = j / microsPerDay := by
    unfold microsPerDay
    omega
  have htime : [i % microsPerDay / 3600000000, i % microsPerDay / 60000000 % 60, i % microsPerDay / 1000000 % 60,
      i % microsPerDay % 1000000 / 1000] = [j % microsPerDay / 3600000000, j % microsPerDay / 60000000 % 60,
        j % microsPerDay / 1000000 % 60, j % microsPerDay % 1000000 / 1000] := by
    simp only [List.cons.injEq, and_true]
    unfold microsPerDay
    omega
  rw [← String.toList_inj, toList_instantText, toList_instantText, stampFields_universal, stampFields_universal, hday,
    htime]

theorem instantText_eq_iff (hi : inRange i = true) (hj : inRange j = true) :
    instantText i = instantText j ↔ i / 1000 = j / 1000 := by
  refine ⟨fun h => ?_, instantText_congr⟩
  rcases Int.lt_trichotomy (i / 1000) (j / 1000) with hlt | heq | hgt
  · exact absurd h (ne_of_lt (instantText_lt hi hj hlt))
  · exact heq
  · exact absurd h.symm (ne_of_lt (instantText_lt hj hi hgt))

theorem instantText_le (hi : inRange i = true) (hj : inRange j = true) (h : i ≤ j) : instantText i ≤ instantText j := by
  rcases Int.lt_or_eq_of_le (Int.ediv_le_ediv (by decide) h : i / 1000 ≤ j / 1000) with hlt | heq
  · exact le_of_lt (instantText_lt hi hj hlt)
  · exact le_of_eq (instantText_congr heq)

theorem text_eq_ok_iff {s : String} : t.text = .ok s ↔ inRange t.instant = true ∧ instantText t.instant = s := by
  unfold text
  split_ifs with h <;> simp [h]

theorem text_eq_error_iff : t.text = .error .dateOutOfRange ↔ ¬ inRange t.instant = true := by
  unfold text
  split_ifs with h <;> simp [h]

end SchemaDesk.DateTime

namespace SchemaDesk.Timestamp

open DateTime

/-- A time has a text unless its instant lies outside of the years 1 to 9999 of universal time. The text is that of the
universal time, without parts of a millisecond: it is the same for instants of the same millisecond, and that of an
earlier instant does not come after that of a later one. -/
theorem toText_orders_instants {t t' : DateTime} (ht : t.IsValid) (ht' : t'.IsValid) :
    ((time t).toText = .error .dateOutOfRange ↔ ¬ ∃ u : DateTime, u.IsUniversal ∧ u.elapsed = t.elapsed) ∧
    (∀ u : DateTime, u.IsUniversal → u.elapsed = t.elapsed →
      ∃ s, (time t).toText = .ok s ∧ s.length = 24 ∧ u.IsStampOf s) ∧
    ∀ s s', (time t).toText = .ok s → (time t').toText = .ok s' →
      (s = s' ↔ t.elapsed / 1000 = t'.elapsed / 1000) ∧ (t.elapsed ≤ t'.elapsed → s ≤ s') := by
  refine ⟨?_, fun u hu helapsed => ?_, fun s s' hs hs' => ?_⟩
  · rw [toText, text_eq_error_iff, inRange_iff_exists ht]
  · have hinstant := (instant_eq_instant_iff ht hu.toIsValid).mpr helapsed
    have hrange : inRange t.instant = true := (inRange_iff_exists ht).mpr ⟨u, hu, helapsed⟩
    exact ⟨instantText t.instant, text_eq_ok_iff.mpr ⟨hrange, rfl⟩, length_instantText hrange,
      hinstant ▸ isStampOf_instantText hu⟩
  · obtain ⟨hrange, rfl⟩ := text_eq_ok_iff.mp hs
    obtain ⟨hrange', rfl⟩ := text_eq_ok_iff.mp hs'
    constructor
    · rw [instantText_eq_iff hrange hrange', instant_div ht, instant_div ht', Int.add_left_inj]
    · intro h
      refine instantText_le hrange hrange' ?_
      rw [instant_eq_elapsed ht, instant_eq_elapsed ht']
      exact Int.add_le_add_right h _

/-- The end of a leap day, in a place whose time is a second behind. -/
def leapDay : DateTime :=
  { year := 2024, month := 2, day := 29, hour := 23, minute := 59, second := 59, microsecond := 999999
    offsetSeconds := -1 }

/-- The same instant, in universal time. -/
def firstOfMarch : DateTime :=
  { year := 2024, month := 3, day := 1, hour := 0, minute := 0, second := 0, microsecond := 999999 }

/-- One microsecond later, in a place whose time is ahead. -/
def morning : DateTime :=
  { year := 2024, month := 3, day := 1, hour := 5, minute := 30, second := 1, microsecond := 0, offsetSeconds := 19800 }

/-- The start of the year 1, in a place whose time is a second ahead. -/
def firstDay : DateTime :=
  { year := 1, month := 1, day := 1, hour := 0, minute := 0, second := 0, microsecond := 0, offsetSeconds := 1 }

theorem isValid_leapDay : leapDay.IsValid := by
  refine ⟨?_, ?_, ⟨?_, ?_, ?_, ?_⟩, ?_, ?_, ?_, ?_, ?_⟩ <;> decide

theorem isUniversal_firstOfMarch : firstOfMarch.IsUniversal := by
  refine ⟨⟨?_, ?_, ⟨?_, ?_, ?_, ?_⟩, ?_, ?_, ?_, ?_, ?_⟩, ?_⟩ <;> decide

theorem isValid_morning : morning.IsValid := by
  refine ⟨?_, ?_, ⟨?_, ?_, ?_, ?_⟩, ?_, ?_, ?_, ?_, ?_⟩ <;> decide

theorem isValid_firstDay : firstDay.IsValid := by
  refine ⟨?_, ?_, ⟨?_, ?_, ?_, ?_⟩, ?_, ?_, ?_, ?_, ?_⟩ <;> decide

theorem toText_orders_instants_leapDay :
    (leapDay.IsValid ∧ morning.IsValid ∧ firstDay.IsValid) ∧
      firstOfMarch.IsStampOf "2024-03-01T00:00:00.999Z" ∧ leapDay.elapsed / 1000 ≠ morning.elapsed / 1000 ∧
      "2024-03-01T00:00:00.999Z" ≤ "2024-03-01T00:00:01.000Z" ∧
      ¬ ∃ u : DateTime, u.IsUniversal ∧ u.elapsed = firstDay.elapsed := by
  have hleapDay : (time leapDay).toText = .ok "2024-03-01T00:00:00.999Z" := rfl
  have hmorning : (time morning).toText = .ok "2024-03-01T00:00:01.000Z" := rfl
  have hfirstDay : (time firstDay).toText = .error .dateOutOfRange := rfl
  obtain ⟨-, hstamp, horder⟩ := toText_orders_instants isValid_leapDay isValid_morning
  obtain ⟨s, hs, -, hstamp⟩ := hstamp firstOfMarch isUniversal_firstOfMarch (by decide +kernel)
  obtain rfl := Except.ok.inj (hleapDay.symm.trans hs)
  obtain ⟨hsame, hle⟩ := horder _ _ hleapDay hmorning
  refine ⟨⟨isValid_leapDay, isValid_morning, isValid_firstDay⟩, hstamp, ?_, hle (by decide +kernel), ?_⟩
  · intro h
    exact absurd (hsame.mpr h) (by decide)
  · exact (toText_orders_instants isValid_firstDay isValid_morning).1.mp hfirstDay

end SchemaDesk.Timestamp
