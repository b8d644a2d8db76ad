import Mathlib.Data.List.Forall2
import Mathlib.Data.List.TakeWhile
import SchemaDesk.Proofs.Text.Name
import SchemaDesk.Text.Caseless
/-!
Words that are looked for whatever their letter case, the blanks around them, and the first place of a text where
something is found.
-/

namespace SchemaDesk.Text

variable {c : Char} {cs rest : List Char}

/-- A run of characters of a kind ends where one stands that is not of the kind. -/
theorem takeWhile_run {p : Char → Bool} (hcs : ∀ c ∈ cs, p c = true) (hrest : ∀ c ∈ rest.head?, p c = false) :
    (cs ++ rest).takeWhile p = cs := by
  have hnone : rest.takeWhile p = [] := by
    cases rest with
    | nil => rfl
    | cons c rest => exact List.takeWhile_cons_of_neg (by simp [hrest c rfl])
  rw [List.takeWhile_append_of_pos hcs, hnone, List.append_nil]

/-! ### Blanks -/

/-- The numbers of the blank characters, from and up to. -/
def blankRanges : List (Nat × Nat) :=
  [(0x9, 0xD), (0x1C, 0x20), (0x85, 0x85), (0xA0, 0xA0), (0x1680, 0x1680), (0x2000, 0x200A), (0x2028, 0x2029),
    (0x202F, 0x202F), (0x205F, 0x205F), (0x3000, 0x3000)]

set_option maxRecDepth 8000 in
theorem blankRanges_apart_words :
    ∀ r ∈ ClassTable.alphanumericRanges, ∀ b ∈ blankRanges, b.2 < r.1 ∨ r.2 < b.1 := by
  decide +kernel

theorem blankRanges_apart_digits :
    ∀ z ∈ ClassTable.decimalZeros, ∀ b ∈ blankRanges, b.2 < z ∨ z + 9 < b.1 := by
  decide +kernel

theorem exists_blankRange (h : isBlank c = true) : ∃ b ∈ blankRanges, b.1 ≤ c.toNat ∧ c.toNat ≤ b.2 := by
  simp only [isBlank, Bool.or_eq_true, Bool.and_eq_true, decide_eq_true_eq, beq_iff_eq] at h
  simp only [blankRanges, List.exists_mem_cons_iff]
  omega

theorem isWordChar_of_isBlank (h : isBlank c = true) : isWordChar c = false := by
  obtain ⟨b, hb, hlow, hhigh⟩ := exists_blankRange h
  rw [isWordChar, Bool.or_eq_false_iff, beq_eq_false_iff_ne]
  constructor
  · rintro rfl
    cases h
  · refine List.any_eq_false.mpr fun r hr hwithin => ?_
    simp only [Bool.and_eq_true, decide_eq_true_eq] at hwithin
    have hapart := blankRanges_apart_words r hr b hb
    omega

theorem isBlank_of_isDecimal (h : isDecimal c = true) : isBlank c = false := by
  refine Bool.eq_false_iff.mpr fun hblank => ?_
  obtain ⟨b, hb, hlow, hhigh⟩ := exists_blankRange hblank
  obtain ⟨d, hd⟩ := Option.isSome_iff_exists.mp h
  rw [digitValue?] at hd
  split at hd
  · split at hd
    · next hdigit =>
      rw [isBlank_of_isNameChar (by simp [isNameChar, Char.isAlphanum, hdigit])] at hblank
      cases hblank
    · cases hd
  · obtain ⟨z, hz, -⟩ := Option.map_eq_some_iff.mp hd
    have hwithin := List.find?_some hz
    simp only [Bool.and_eq_true, decide_eq_true_eq] at hwithin
    have hapart := blankRanges_apart_digits z (List.mem_of_find?_eq_some hz) b hb
    omega

theorem blankRanges_upperChar :
    ∀ b ∈ blankRanges, ∀ n ∈ List.range' b.1 (b.2 + 1 - b.1), upperChar (Char.ofNat n) = [Char.ofNat n] := by
  decide +kernel

/-- Blanks have no letter case. -/
theorem upperChar_of_isBlank (h : isBlank c = true) : upperChar c = [c] := by
  obtain ⟨b, hb, hlow, hhigh⟩ := exists_blankRange h
  have hupper := blankRanges_upperChar b hb c.toNat (List.mem_range'_1.mpr (by omega))
  rwa [Char.ofNat_toNat] at hupper

/-- Blanks alone are dropped up to a character that is none. -/
theorem dropBlanks_append {gap : List Char} (hgap : ∀ b ∈ gap, isBlank b = true)
    (hrest : ∀ c ∈ rest.head?, isBlank c = false) : dropBlanks (gap ++ rest) = rest := by
  have hsplit := List.takeWhile_append_dropWhile (p := isBlank) (l := gap ++ rest)
  rw [takeWhile_run hgap hrest] at hsplit
  exact List.append_cancel_left hsplit

theorem isBlank_head?_dropBlanks : ∀ c ∈ (dropBlanks cs).head?, isBlank c = false := by
  intro c hc
  have hhead := List.head?_dropWhile_not isBlank cs
  rw [← dropBlanks, Option.mem_def.mp hc] at hhead
  simpa using hhead

theorem exists_eq_append_dropBlanks (cs : List Char) :
    ∃ gap, (∀ b ∈ gap, isBlank b = true) ∧ cs = gap ++ dropBlanks cs :=
  ⟨cs.takeWhile isBlank, fun _ => List.mem_takeWhile_imp, List.takeWhile_append_dropWhile.symm⟩

/-- The margins of a text. -/
theorem exists_eq_append_stripChars (cs : List Char) :
    ∃ margin, cs = cs.takeWhile isBlank ++ (stripChars cs ++ margin) := by
  have hback : stripChars cs ++ ((dropBlanks cs).reverse.takeWhile isBlank).reverse = dropBlanks cs := by
    change ((dropBlanks cs).reverse.dropWhile isBlank).reverse ++ _ = _
    rw [← List.reverse_append, List.takeWhile_append_dropWhile, List.reverse_reverse]
  refine ⟨((dropBlanks cs).reverse.takeWhile isBlank).reverse, ?_⟩
  rw [hback]
  exact List.takeWhile_append_dropWhile.symm

theorem isBlank_head?_stripChars : ∀ c ∈ (stripChars cs).head?, isBlank c = false := by
  intro c hc
  obtain ⟨margin, hsplit⟩ := exists_eq_append_stripChars cs
  have hdrop : dropBlanks cs = stripChars cs ++ margin := by
    have htake := List.takeWhile_append_dropWhile (p := isBlank) (l := cs)
    exact List.append_cancel_left (htake.trans hsplit)
  have hhead : c ∈ (dropBlanks cs).head? := by
    rw [hdrop, List.head?_append, Option.mem_def.mp hc]
    rfl
  exact isBlank_head?_dropBlanks c hhead

theorem dropSomeBlanks?_eq_some_iff : dropSomeBlanks? cs = some rest ↔
    (∃ gap, gap ≠ [] ∧ (∀ b ∈ gap, isBlank b = true) ∧ cs = gap ++ rest) ∧ ∀ c ∈ rest.head?, isBlank c = false := by
  cases cs with
  | nil => simp [dropSomeBlanks?]
  | cons x cs =>
    rw [dropSomeBlanks?]
    constructor
    · intro h
      split at h
      · next hx =>
        obtain rfl := Option.some.inj h
        obtain ⟨gap, hgap, hsplit⟩ := exists_eq_append_dropBlanks cs
        exact ⟨⟨x :: gap, by simp, List.forall_mem_cons.mpr ⟨hx, hgap⟩, by rw [List.cons_append, ← hsplit]⟩,
          isBlank_head?_dropBlanks⟩
      · cases h
    · rintro ⟨⟨gap, hne, hgap, hsplit⟩, hrest⟩
      cases gap with
      | nil => exact (hne rfl).elim
      | cons y gap =>
        rw [List.cons_append, List.cons.injEq] at hsplit
        obtain ⟨rfl, rfl⟩ := hsplit
        obtain ⟨hx, hgap⟩ := List.forall_mem_cons.mp hgap
        rw [if_pos hx, dropBlanks_append hgap hrest]

/-! ### Words -/

/-- The characters are a word of small letters, each letter in one of its cases. -/
def Spells (word : String) (cs : List Char) : Prop :=
  List.Forall₂ (fun small c => isLetter small c = true) word.toList cs

theorem isLetter_cases {small : Char} (h : isLetter small c = true) (hplain : small ∉ ['i', 's', 'k']) :
    c = small ∨ c = small.toUpper := by
  simp only [List.mem_cons, List.not_mem_nil, or_false, not_or] at hplain
  simpa [isLetter, hplain.1, hplain.2.1, hplain.2.2] using h

theorem isBlank_of_isLetter {small : Char} (h : isLetter small c = true) (hsmall : isNameChar small = true) :
    isBlank c = false := by
  simp only [isLetter, Bool.or_eq_true, Bool.and_eq_true, beq_iff_eq] at h
  rcases h with (((rfl | rfl) | ⟨-, rfl | rfl⟩) | ⟨-, rfl⟩) | ⟨-, rfl⟩
  · exact isBlank_of_isNameChar hsmall
  · exact isBlank_of_isNameChar (toUpper_nameChar hsmall)
  all_goals decide

theorem dropCaseless?_eq_some_iff {word : String} : dropCaseless? word.toList cs = some rest ↔
    ∃ spelled, Spells word spelled ∧ cs = spelled ++ rest := by
  simp only [Spells]
  generalize word.toList = ps
  induction ps generalizing cs with
  | nil =>
    rw [dropCaseless?, Option.some.injEq]
    exact ⟨fun h => ⟨[], .nil, h⟩, fun ⟨_, hspelled, h⟩ => by cases hspelled; exact h⟩
  | cons p ps ih =>
    cases cs with
    | nil =>
      refine iff_of_false nofun fun ⟨_, hspelled, h⟩ => ?_
      cases hspelled
      cases h
    | cons c cs =>
      rw [dropCaseless?]
      constructor
      · intro h
        split at h
        · next hc =>
          obtain ⟨spelled, hspelled, rfl⟩ := ih.mp h
          exact ⟨c :: spelled, .cons hc hspelled, rfl⟩
        · cases h
      · rintro ⟨_, _ | ⟨hc, hspelled⟩, hsplit⟩
        obtain ⟨rfl, rfl⟩ := List.cons.inj hsplit
        rw [if_pos hc]
        exact ih.mpr ⟨_, hspelled, rfl⟩

/-! ### First places -/

/-- The first place where something is found, which may be the end. -/
theorem firstMatch_eq_some_iff {α : Type} {find : List Char → Option α} {a : α} :
    firstMatch find cs = some a ↔
      ∃ before rest, cs = before ++ rest ∧ find rest = some a ∧
        ∀ j < before.length, find (cs.drop j) = none := by
  induction cs with
  | nil =>
    rw [firstMatch]
    constructor
    · exact fun h => ⟨[], [], rfl, h, nofun⟩
    · rintro ⟨before, rest, hsplit, h, -⟩
      obtain ⟨rfl, rfl⟩ := List.append_eq_nil_iff.mp hsplit.symm
      exact h
  | cons c cs ih =>
    rw [firstMatch]
    constructor
    · intro h
      cases hfound : find (c :: cs) with
      | some b =>
        rw [hfound] at h
        exact ⟨[], c :: cs, rfl, hfound.trans h, nofun⟩
      | none =>
        rw [hfound] at h
        obtain ⟨before, rest, rfl, hrest, hnone⟩ := ih.mp h
        refine ⟨c :: before, rest, rfl, hrest, fun j hj => ?_⟩
        cases j with
        | zero => exact hfound
        | succ j => exact hnone j (Nat.lt_of_succ_lt_succ hj)
    · rintro ⟨before, rest, hsplit, hrest, hnone⟩
      cases before with
      | nil =>
        obtain rfl : c :: cs = rest := hsplit
        rw [hrest]
      | cons x before =>
        rw [List.cons_append, List.cons.injEq] at hsplit
        obtain ⟨rfl, rfl⟩ := hsplit
        have hfirst : find (c :: (before ++ rest)) = none := hnone 0 (Nat.succ_pos _)
        rw [hfirst]
        exact ih.mpr ⟨before, rest, rfl, hrest, fun j hj => hnone (j + 1) (Nat.succ_lt_succ hj)⟩

end SchemaDesk.Text
