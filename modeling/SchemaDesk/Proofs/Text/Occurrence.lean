import Mathlib.Algebra.GroupWithZero.Nat
import Mathlib.Data.List.Infix
/-!
How often a word occurs in a text. A text is counted part by part where it is cut at a character that the word does not
have; a cut at a blank inside of the word may add one occurrence.
-/

namespace SchemaDesk.Text

variable {w as bs cs : List Char}

/-- At how many places of a text the word stands. -/
def occurrences (w cs : List Char) : Nat := cs.tails.countP fun rest => w <+: rest

theorem occurrences_nil (hw : w ≠ []) : occurrences w [] = 0 := by
  simp [occurrences, hw]

theorem occurrences_cons (w : List Char) (c : Char) (cs : List Char) :
    occurrences w (c :: cs) = occurrences w cs + if w <+: c :: cs then 1 else 0 := by
  rw [occurrences, List.tails_cons, List.countP_cons, ← occurrences]
  simp only [decide_eq_true_eq]

theorem occurrences_pos_iff : 0 < occurrences w cs ↔ w <:+: cs := by
  rw [occurrences, List.countP_pos_iff, List.infix_iff_prefix_suffix]
  simp only [List.mem_tails, decide_eq_true_eq, and_comm]

theorem occurrences_eq_zero_iff : occurrences w cs = 0 ↔ ¬ w <:+: cs := by
  rw [← occurrences_pos_iff, Nat.not_lt, Nat.le_zero]

/-- A word does not occur in a text that lacks one of its characters. -/
theorem occurrences_eq_zero_of_notMem {c : Char} (hc : c ∈ w) (h : c ∉ cs) : occurrences w cs = 0 :=
  occurrences_eq_zero_iff.mpr fun hwithin => h (hwithin.subset hc)

/-! ### Cuts -/

theorem prefix_append_cons_iff {x : Char} (hx : x ∉ w) (as bs : List Char) : w <+: as ++ x :: bs ↔ w <+: as := by
  constructor
  · intro h
    have hcut : as ++ [x] <+: as ++ x :: bs := ⟨bs, by simp⟩
    rcases List.prefix_or_prefix_of_prefix h hcut with hw | hw
    · rcases List.prefix_concat_iff.mp hw with rfl | hw
      · exact (hx (by simp)).elim
      · exact hw
    · exact (hx (hw.subset (by simp))).elim
  · exact fun h => h.trans (List.prefix_append as _)

/-- No occurrence reaches across a character that the word does not have. -/
theorem occurrences_append_cons (hw : w ≠ []) {x : Char} (hx : x ∉ w) (as bs : List Char) :
    occurrences w (as ++ x :: bs) = occurrences w as + occurrences w bs := by
  induction as with
  | nil =>
    have hfirst : ¬ w <+: x :: bs := fun h => hw (by simpa using (prefix_append_cons_iff hx [] bs).mp h)
    rw [List.nil_append, occurrences_cons, if_neg hfirst, occurrences_nil hw, Nat.zero_add, Nat.add_zero]
  | cons a as ih =>
    have hfirst : w <+: a :: (as ++ x :: bs) ↔ w <+: a :: as := prefix_append_cons_iff hx (a :: as) bs
    rw [List.cons_append, occurrences_cons, occurrences_cons, ih]
    simp only [hfirst]
    omega

/-- What occurs in the parts of a text occurs in the text. -/
theorem occurrences_eq_sum (hw : w ≠ []) {x : Char} (hx : x ∉ w) (cs : List Char) :
    occurrences w cs = ((cs.splitOn x).map (occurrences w)).sum := by
  have hparts (vs : List (List Char)) : occurrences w ([x].intercalate vs) = (vs.map (occurrences w)).sum := by
    induction vs with
    | nil => exact occurrences_nil hw
    | cons v vs ih =>
      cases vs with
      | nil => simp
      | cons u vs =>
        rw [List.intercalate_cons_cons, List.append_assoc, List.singleton_append, occurrences_append_cons hw hx, ih]
        rfl
  rw [← hparts, List.intercalate_splitOn]

theorem infix_append_cons_iff (hw : w ≠ []) {x : Char} (hx : x ∉ w) :
    w <:+: as ++ x :: bs ↔ w <:+: as ∨ w <:+: bs := by
  simp only [← occurrences_pos_iff, occurrences_append_cons hw hx]
  omega

/-- An occurrence does not start in a part that lacks the first character of the word. -/
theorem infix_append_iff_of_notMem {c : Char} {v : List Char} (hc : c ∉ as) : c :: v <:+: as ++ bs ↔ c :: v <:+: bs := by
  induction as with
  | nil => rfl
  | cons a as ih =>
    rw [List.mem_cons, not_or] at hc
    rw [List.cons_append, List.infix_cons_iff, List.cons_prefix_cons, ih hc.2]
    simp [hc.1]

theorem infix_intercalate_iff (hw : w ≠ []) {x : Char} (hx : x ∉ w) (vs : List (List Char)) :
    w <:+: [x].intercalate vs ↔ ∃ v ∈ vs, w <:+: v := by
  match vs with
  | [] => simp [hw]
  | [v] => simp
  | v :: u :: vs =>
    rw [List.intercalate_cons_cons, List.append_assoc, List.singleton_append, infix_append_cons_iff hw hx,
      infix_intercalate_iff hw hx (u :: vs)]
    simp

/-- A word without separators occurs in one of the parts between them. -/
theorem infix_iff_exists_mem_splitOnP {p : Char → Bool} (hw : w ≠ []) (hp : ∀ c ∈ w, p c = false) {cs : List Char} :
    w <:+: cs ↔ ∃ v ∈ cs.splitOnP p, w <:+: v := by
  -- the part that is being read has no separator yet
  have hread (as : List Char) (has : ∀ c ∈ as, p c = false) : w <:+: as ++ cs ↔ ∃ v ∈ (as ++ cs).splitOnP p, w <:+: v := by
    induction cs generalizing as with
    | nil =>
      rw [List.append_nil, List.splitOnP_eq_singleton has]
      simp
    | cons x cs ih =>
      cases hx : p x with
      | true =>
        have hnot : x ∉ w := fun h => by simp [hp x h] at hx
        have hrest := ih [] nofun
        rw [List.nil_append] at hrest
        rw [List.splitOnP_append_cons_of_forall_mem has x hx, infix_append_cons_iff hw hnot, hrest]
        simp
      | false =>
        have hmore : ∀ c ∈ as ++ [x], p c = false :=
          List.forall_mem_append.mpr ⟨has, fun c hc => List.eq_of_mem_singleton hc ▸ hx⟩
        have h := ih (as ++ [x]) hmore
        rwa [List.append_assoc, List.singleton_append] at h
  exact hread [] nofun

/-- Two words with a blank between them start a text that goes on behind a blank: within the part in front of it, or with
the first word for this part. -/
theorem pair_prefix_iff {u v : List Char} (hu : ' ' ∉ u) (hv : ' ' ∉ v) (as bs : List Char) :
    u ++ ' ' :: v <+: as ++ ' ' :: bs ↔ u ++ ' ' :: v <+: as ∨ u = as ∧ v <+: bs := by
  constructor
  · rintro ⟨rest, hrest⟩
    rw [List.append_assoc, List.cons_append, List.append_eq_append_iff] at hrest
    rcases hrest with ⟨cs, rfl, hcs⟩ | ⟨cs, rfl, hcs⟩
    · cases cs with
      | nil =>
        obtain ⟨-, rfl⟩ := List.cons.inj hcs
        exact Or.inr ⟨by simp, List.prefix_append v rest⟩
      | cons c cs =>
        obtain ⟨rfl, htail⟩ := List.cons.inj hcs
        have hv : v <+: cs := (prefix_append_cons_iff hv cs bs).mp ⟨rest, htail⟩
        exact Or.inl (by simpa using hv)
    · cases cs with
      | nil =>
        obtain ⟨-, rfl⟩ := List.cons.inj hcs
        exact Or.inr ⟨by simp, List.prefix_append v rest⟩
      | cons c cs =>
        obtain ⟨rfl, -⟩ := List.cons.inj hcs
        exact (hu (by simp)).elim
  · rintro (h | ⟨rfl, h⟩)
    · exact h.trans (List.prefix_append as _)
    · simpa using h

/-- Two words with a blank between them occur on both sides of a blank, and once more across it where the first word ends
the one side and the second word starts the other. -/
theorem occurrences_pair_append {u v : List Char} (hu : ' ' ∉ u) (hv : ' ' ∉ v) (as bs : List Char) :
    occurrences (u ++ ' ' :: v) (as ++ ' ' :: bs) = occurrences (u ++ ' ' :: v) as + occurrences (u ++ ' ' :: v) bs +
      if u <:+ as ∧ v <+: bs then 1 else 0 := by
  have hne : u ++ ' ' :: v ≠ [] := by simp
  induction as with
  | nil =>
    have hfirst : u ++ ' ' :: v <+: ' ' :: bs ↔ u <:+ [] ∧ v <+: bs := by
      have h := pair_prefix_iff hu hv [] bs
      simpa using h
    rw [List.nil_append, occurrences_cons, occurrences_nil hne, Nat.zero_add]
    simp only [hfirst]
  | cons a as ih =>
    have hfirst : u ++ ' ' :: v <+: a :: (as ++ ' ' :: bs) ↔ u ++ ' ' :: v <+: a :: as ∨ u = a :: as ∧ v <+: bs :=
      pair_prefix_iff hu hv (a :: as) bs
    rw [List.cons_append, occurrences_cons, occurrences_cons, ih]
    simp only [hfirst, List.suffix_cons_iff]
    -- A word that is the whole part is no ending of the part without its first character.
    by_cases hwhole : u = a :: as
    · have hsuffix : ¬ u <:+ as := fun h => by
        have hlength := h.length_le
        rw [hwhole, List.length_cons] at hlength
        omega
      have hstarts : ¬ u ++ ' ' :: v <+: a :: as := fun h => by
        have hlength := h.length_le
        simp only [hwhole, List.length_append, List.length_cons] at hlength
        omega
      simp only [hwhole, true_and, true_or] at hsuffix hstarts ⊢
      simp only [hsuffix, hstarts, false_and, false_or, if_false]
      omega
    · simp only [hwhole, false_and, or_false, false_or]
      omega

end SchemaDesk.Text
