import Mathlib.Algebra.Order.Field.Rat
import Mathlib.Data.Nat.Digits.Defs
import Mathlib.Tactic.FieldSimp
import Mathlib.Tactic.Linarith
import SchemaDesk.Number.Binary64

/-!
The values of floating-point numbers. An integer that is the value of one is rounded to itself.
-/

namespace SchemaDesk.Binary64

/-- The value of a finite number. -/
def value? : Binary64 → Option ℚ
  | finite negative m e => some ((if negative then -1 else 1) * (m * 2 ^ e))
  | infinite _ => none

/-- The mantissa and the exponent are ones of the format. -/
def IsDouble : Binary64 → Prop
  | finite _ m e => m < 2 ^ 53 ∧ minExponent ≤ e ∧ e ≤ 971
  | infinite _ => False

/-! ### Rounding of integers -/

theorem divNearest_of_dvd {num den : Nat} (hden : 0 < den) (h : den ∣ num) : divNearest num den = num / den := by
  rw [divNearest, Nat.mod_eq_zero_of_dvd h]
  exact if_pos (by omega)

theorem div_le_divNearest (num den : Nat) : num / den ≤ divNearest num den := by
  unfold divNearest
  dsimp only
  split
  · exact le_refl _
  · split
    · exact Nat.le_succ _
    · split <;> omega

/-- With too many bits for a mantissa, the rounded quotient has too many as well. -/
theorem le_scaled {num : Nat} (hnum : num ≠ 0) : 2 ^ 53 ≤ scaled num 1 ((Nat.log2 num : Int) - 53) := by
  have hlow : 2 ^ Nat.log2 num ≤ num := Nat.log2_self_le hnum
  unfold scaled
  split
  · next h =>
    obtain ⟨j, hj⟩ : ∃ j : Nat, Nat.log2 num = j + 53 := ⟨Nat.log2 num - 53, by omega⟩
    have hexponent : ((Nat.log2 num : Int) - 53).toNat = j := by omega
    rw [hexponent, one_mul]
    refine le_trans ?_ (div_le_divNearest _ _)
    show 2 ^ 53 ≤ num / 2 ^ j
    rw [Nat.le_div_iff_mul_le (Nat.two_pow_pos j)]
    calc 2 ^ 53 * 2 ^ j = 2 ^ Nat.log2 num := by rw [hj, pow_add, mul_comm]
      _ ≤ num := hlow
  · next h =>
    obtain ⟨j, hj⟩ : ∃ j : Nat, Nat.log2 num + j = 53 := ⟨53 - Nat.log2 num, by omega⟩
    have hexponent : (-((Nat.log2 num : Int) - 53)).toNat = j := by omega
    rw [hexponent, divNearest_of_dvd one_pos (one_dvd _), Nat.div_one]
    calc 2 ^ 53 = 2 ^ Nat.log2 num * 2 ^ j := by rw [← pow_add, hj]
      _ ≤ num * 2 ^ j := Nat.mul_le_mul_right _ hlow

/-- An integer with few enough bits up to its last one has an exact quotient. -/
theorem scaled_eq {num a k : Nat} (hnum : num ≠ 0) (h : num = a * 2 ^ k) (ha : a < 2 ^ 53) :
    scaled num 1 ((Nat.log2 num : Int) - 52) < 2 ^ 53 ∧
      (scaled num 1 ((Nat.log2 num : Int) - 52) : ℚ) * 2 ^ ((Nat.log2 num : Int) - 52) = num := by
  have hhigh : num < 2 ^ (Nat.log2 num + 1) := Nat.lt_log2_self
  have hlow : 2 ^ Nat.log2 num ≤ num := Nat.log2_self_le hnum
  unfold scaled
  split
  · next hexponent =>
    obtain ⟨j, hj⟩ : ∃ j : Nat, Nat.log2 num = j + 52 := ⟨Nat.log2 num - 52, by omega⟩
    have hexponent : (Nat.log2 num : Int) - 52 = j := by omega
    have hjk : j ≤ k := by
      by_contra hjk
      have hpow : 2 ^ k * 2 ≤ 2 ^ j := by
        rw [← pow_succ]
        exact Nat.pow_le_pow_right (by decide) (by omega)
      have hlt : num < 2 ^ 53 * 2 ^ k := h ▸ Nat.mul_lt_mul_of_pos_right ha (by positivity)
      have hle : 2 ^ 52 * 2 ^ j ≤ num := by rwa [← pow_add, add_comm, ← hj]
      have hsame : 2 ^ 53 * 2 ^ k = 2 ^ 52 * (2 ^ k * 2) := by ring
      have := Nat.mul_le_mul_left (2 ^ 52) hpow
      omega
    have hdvd : 2 ^ j ∣ num := h ▸ (pow_dvd_pow 2 hjk).mul_left a
    have hquotient : divNearest num (1 * twoTo j) = num / 2 ^ j := by
      rw [one_mul]
      exact divNearest_of_dvd (by positivity : 0 < 2 ^ j) hdvd
    rw [hexponent, Int.toNat_natCast, hquotient]
    constructor
    · rw [Nat.div_lt_iff_lt_mul (by positivity)]
      calc num < 2 ^ (Nat.log2 num + 1) := hhigh
        _ = 2 ^ 53 * 2 ^ j := by rw [hj]; ring
    · rw [zpow_natCast]
      exact_mod_cast Nat.div_mul_cancel hdvd
  · next hexponent =>
    obtain ⟨j, hj⟩ : ∃ j : Nat, Nat.log2 num + j = 52 := ⟨52 - Nat.log2 num, by omega⟩
    have hexponent : (Nat.log2 num : Int) - 52 = -(j : Int) := by omega
    have hquotient : divNearest (num * twoTo j) 1 = num * 2 ^ j := by
      rw [divNearest_of_dvd one_pos (one_dvd _), Nat.div_one]
      rfl
    rw [hexponent, neg_neg, Int.toNat_natCast, hquotient]
    constructor
    · calc num * 2 ^ j < 2 ^ (Nat.log2 num + 1) * 2 ^ j := Nat.mul_lt_mul_of_pos_right hhigh (by positivity)
        _ = 2 ^ 53 := by rw [← pow_add]; congr 1; omega
    · rw [zpow_neg, zpow_natCast]
      push_cast
      field_simp

theorem lt_of_bits {a k : Nat} (ha : a < 2 ^ 53) : a * 2 ^ k < 2 ^ (53 + k) := by
  rw [pow_add]
  exact Nat.mul_lt_mul_of_pos_right ha (Nat.two_pow_pos k)

/-- Four decimal digits hold more than thirteen bits. -/
theorem length_toDigits_le {n j i : Nat} (hn : n < 2 ^ j) (hj : j ≤ 13 * i) (hi : 0 < i) :
    (Nat.toDigits 10 n).length ≤ 4 * i := by
  refine Nat.toDigits_length 10 n (4 * i) (by omega) ?_
  calc n < 2 ^ j := hn
    _ ≤ 2 ^ (13 * i) := Nat.pow_le_pow_right (by decide) hj
    _ = (2 ^ 13) ^ i := pow_mul _ _ _
    _ ≤ (10 ^ 4) ^ i := Nat.pow_le_pow_left (by decide) i
    _ = 10 ^ (4 * i) := (pow_mul _ _ _).symm

/-- An integer with few enough bits up to its last one, and few enough in all, is a magnitude exactly. -/
theorem exists_magnitude? {num a k : Nat} (hnum : num ≠ 0) (h : num = a * 2 ^ k) (ha : a < 2 ^ 53) (hk : k ≤ 971) :
    ∃ m e, magnitude? num 1 = some (m, e) ∧ (m : ℚ) * 2 ^ e = num := by
  obtain ⟨hlt, heq⟩ := scaled_eq hnum h ha
  have hsize : Nat.log2 num < 53 + k := by
    rw [Nat.log2_lt hnum]
    exact h ▸ lt_of_bits ha
  have hguess : max minExponent ((Nat.log2 num : Int) - (Nat.log2 1 : Int) - 53) = (Nat.log2 num : Int) - 53 := by
    have hone : Nat.log2 1 = 0 := by decide
    rw [hone, minExponent]
    omega
  have hnext : (Nat.log2 num : Int) - 53 + 1 = (Nat.log2 num : Int) - 52 := by omega
  have hmany : ¬ scaled num 1 ((Nat.log2 num : Int) - 53) < twoTo 53 := not_lt.mpr (le_scaled hnum)
  have hfew : scaled num 1 ((Nat.log2 num : Int) - 52) < twoTo 53 := hlt
  refine ⟨scaled num 1 ((Nat.log2 num : Int) - 52), (Nat.log2 num : Int) - 52, ?_, heq⟩
  simp only [magnitude?, hguess, if_neg hmany, hnext, if_pos hfew]
  exact if_neg (by omega)

/-- The bits of an integer that is the value of a floating-point number. -/
theorem exists_bits {n : Int} {x : Binary64} (hx : x.IsDouble) (hvalue : x.value? = some (n : ℚ)) :
    ∃ a k : Nat, n.natAbs = a * 2 ^ k ∧ a < 2 ^ 53 ∧ k ≤ 971 := by
  cases x with
  | infinite => cases hx
  | finite negative m e =>
    obtain ⟨hm, -, he⟩ := hx
    have habs : (n.natAbs : ℚ) = m * 2 ^ e := by
      have hsign : (n : ℚ) = (if negative then -1 else 1) * (m * 2 ^ e) := (Option.some.inj hvalue).symm
      have hpositive : (0 : ℚ) ≤ m * 2 ^ e := mul_nonneg (Nat.cast_nonneg m) (zpow_nonneg (by norm_num) e)
      rw [Nat.cast_natAbs, Int.cast_abs, hsign]
      cases negative <;> simp [abs_of_nonneg hpositive]
    by_cases hexponent : 0 ≤ e
    · obtain ⟨k, rfl⟩ := Int.eq_ofNat_of_zero_le hexponent
      rw [zpow_natCast] at habs
      exact ⟨m, k, by exact_mod_cast habs, hm, by omega⟩
    · refine ⟨n.natAbs, 0, by simp, lt_of_le_of_lt ?_ hm, by omega⟩
      have hsmall : (2 : ℚ) ^ e ≤ 1 := zpow_le_one_of_nonpos₀ (by norm_num) (by omega)
      have hle : (n.natAbs : ℚ) ≤ m := by
        rw [habs]
        exact mul_le_of_le_one_right (Nat.cast_nonneg m) hsmall
      exact_mod_cast hle

/-- An integer that is the value of some floating-point number is that of the one to which it is rounded. -/
theorem value?_ofInt {n : Int} {x : Binary64} (hx : x.IsDouble) (hvalue : x.value? = some (n : ℚ)) :
    (ofInt n).value? = some (n : ℚ) := by
  obtain ⟨a, k, hn, ha, hk⟩ := exists_bits hx hvalue
  rw [ofInt, ofDecimal]
  by_cases hzero : n = 0
  · subst hzero
    simp [value?]
  · have hnum : n.natAbs ≠ 0 := Int.natAbs_ne_zero.mpr hzero
    have hdigits : (Nat.toDigits 10 n.natAbs).length ≤ 4 * 79 :=
      length_toDigits_le (hn ▸ lt_of_bits ha) (by omega) (by decide)
    obtain ⟨m, e, hmagnitude, hvalue⟩ := exists_magnitude? hnum hn ha hk
    have hten : n.natAbs * tenTo (0 : Int).toNat = n.natAbs := Nat.mul_one _
    rw [if_neg (by simp only [Bool.or_eq_true, decide_eq_true_eq]; omega), if_neg (by omega)]
    simp only [le_refl, if_true, hten, hmagnitude, value?, hvalue]
    rw [Nat.cast_natAbs, Int.cast_abs]
    by_cases hnegative : n < 0
    · rw [if_pos (by simpa using hnegative), abs_of_neg (by exact_mod_cast hnegative), neg_one_mul, neg_neg]
    · rw [if_neg (by simpa using hnegative), abs_of_nonneg (by exact_mod_cast not_lt.mp hnegative), one_mul]

end SchemaDesk.Binary64
