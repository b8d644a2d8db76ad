import SchemaDesk.Proofs.Text.Blank
import SchemaDesk.Proofs.Text.Name
/-!
Numerals in decimal digits are read back as the numbers that they were written for.
-/

namespace SchemaDesk.Text

theorem digitValue?_of_isDigit {c : Char} (h : c.isDigit = true) :
    digitValue? c = some (c.toNat - '0'.toNat) := by
  rw [digitValue?, if_pos (isAscii_of_isDigit h), if_pos h]
  rfl

theorem readDigits_eq {cs : List Char} (h : ∀ c ∈ cs, c.isDigit = true) (n : Nat) :
    readDigits n cs = some (Nat.ofDigitChars 10 cs n) := by
  induction cs generalizing n with
  | nil => rfl
  | cons c cs ih =>
    have hc := h c (by simp)
    have hunderscore : c ≠ '_' := by
      rintro rfl
      cases hc
    rw [readDigits.eq_def]
    split
    · next heq => cases heq
    · next heq => exact (hunderscore (List.cons.inj heq).1).elim
    · next heq =>
      obtain ⟨rfl, rfl⟩ := List.cons.inj heq
      simp only [digitValue?_of_isDigit hc, ih fun x hx => h x (by simp [hx]), Nat.ofDigitChars_cons]

theorem isDigit_of_mem_toDigits {n : Nat} {c : Char} (h : c ∈ Nat.toDigits 10 n) : c.isDigit = true :=
  Nat.isDigit_of_mem_toDigits (by decide) (by decide) h

/-- Digits in ASCII are read as a natural number. -/
theorem readNat?_eq {cs : List Char} (hne : cs ≠ []) (h : ∀ c ∈ cs, c.isDigit = true) :
    readNat? cs = some (Nat.ofDigitChars 10 cs 0) := by
  cases cs with
  | nil => exact (hne rfl).elim
  | cons c cs =>
    rw [readNat?, digitValue?_of_isDigit (h c (by simp))]
    simp only [Option.bind_some]
    rw [readDigits_eq fun x hx => h x (by simp [hx]), Nat.ofDigitChars_cons]
    simp

theorem allDigits_of_isDigit {cs : List Char} (hne : cs ≠ []) (h : ∀ c ∈ cs, c.isDigit = true) :
    allDigits cs = true := by
  simp only [allDigits, Bool.and_eq_true, Bool.not_eq_true', List.isEmpty_eq_false_iff, List.all_eq_true]
  exact ⟨hne, fun c hc => isDigit_of_isDigit (h c hc)⟩

/-- A natural number is read back from its decimal digits. -/
theorem readNat?_toDigits (n : Nat) : readNat? (Nat.toDigits 10 n) = some n := by
  rw [readNat?_eq Nat.toDigits_ne_nil fun _ hc => isDigit_of_mem_toDigits hc, Nat.ofDigitChars_ten_toDigits]

theorem allDigits_toDigits (n : Nat) : allDigits (Nat.toDigits 10 n) = true :=
  allDigits_of_isDigit Nat.toDigits_ne_nil fun _ hc => isDigit_of_mem_toDigits hc

/-- No blank is cut off from a numeral itself. -/
theorem stripChars_toDigits {bs es : List Char} (hbs : ∀ b ∈ bs, isBlank b = true) (hes : ∀ e ∈ es, isBlank e = true)
    (n : Nat) : stripChars (bs ++ (Nat.toDigits 10 n ++ es)) = Nat.toDigits 10 n := by
  have hdigit (c : Char) (hc : c ∈ Nat.toDigits 10 n) : isBlank c = false :=
    isBlank_of_isNameChar (by simp [isNameChar, Char.isAlphanum, isDigit_of_mem_toDigits hc])
  exact stripChars_append hbs hes (fun c hc => hdigit c (List.mem_of_head? hc))
    fun c hc => hdigit c (List.mem_of_getLast? hc)

end SchemaDesk.Text
