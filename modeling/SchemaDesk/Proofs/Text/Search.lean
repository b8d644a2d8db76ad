import Mathlib.Data.List.Infix
import SchemaDesk.Text.Find
/-!
Where a search finds a word: at the first or at the last of the offsets at which the word stands.
-/

namespace SchemaDesk.Text

variable {p cs : List Char} {i : Nat}

theorem startsWith_iff : startsWith p cs = true ↔ p <+: cs := by
  induction p generalizing cs with
  | nil => simp [startsWith, dropStart?]
  | cons x p ih =>
    cases cs with
    | nil => simp [startsWith, dropStart?]
    | cons c cs =>
      rw [List.cons_prefix_cons, ← ih, startsWith, startsWith, dropStart?]
      split <;> simp [*]

/-- The word stands at the offset of the text and at none before it. -/
structure StandsFirst (p cs : List Char) (i : Nat) : Prop where
  stands : p <+: cs.drop i
  first : ∀ j < i, ¬ p <+: cs.drop j

/-- The word stands at the offset of the text and at none behind it. -/
structure StandsLast (p cs : List Char) (i : Nat) : Prop where
  stands : p <+: cs.drop i
  last : ∀ j, i < j → ¬ p <+: cs.drop j

theorem StandsFirst.unique {j : Nat} (hi : StandsFirst p cs i) (hj : StandsFirst p cs j) : i = j := by
  rcases Nat.lt_trichotomy i j with hlt | heq | hlt
  · exact (hj.first i hlt hi.stands).elim
  · exact heq
  · exact (hi.first j hlt hj.stands).elim

theorem StandsLast.unique {j : Nat} (hi : StandsLast p cs i) (hj : StandsLast p cs j) : i = j := by
  rcases Nat.lt_trichotomy i j with hlt | heq | hlt
  · exact (hi.last j hlt hj.stands).elim
  · exact heq
  · exact (hj.last i hlt hi.stands).elim

theorem standsFirst_succ_iff {c : Char} :
    StandsFirst p (c :: cs) (i + 1) ↔ ¬ p <+: c :: cs ∧ StandsFirst p cs i := by
  constructor
  · rintro ⟨hstands, hfirst⟩
    exact ⟨hfirst 0 (Nat.succ_pos i), hstands, fun j hj => hfirst (j + 1) (Nat.succ_lt_succ hj)⟩
  · rintro ⟨hhead, hstands, hfirst⟩
    refine ⟨hstands, fun j hj => ?_⟩
    cases j with
    | zero => exact hhead
    | succ j => exact hfirst j (Nat.lt_of_succ_lt_succ hj)

theorem find?_eq_some_iff : find? p cs = some i ↔ StandsFirst p cs i := by
  induction cs generalizing i with
  | nil =>
    by_cases hp : p = []
    · have hzero : StandsFirst p [] 0 := ⟨by simp [hp], nofun⟩
      rw [find?, if_pos (by simpa using hp), Option.some.injEq]
      exact ⟨fun h => h ▸ hzero, fun h => hzero.unique h⟩
    · rw [find?, if_neg (by simpa using hp)]
      exact iff_of_false nofun fun h => hp (by simpa using h.stands)
  | cons c cs ih =>
    rw [find?]
    by_cases hstart : startsWith p (c :: cs) = true
    · have hzero : StandsFirst p (c :: cs) 0 := ⟨startsWith_iff.mp hstart, nofun⟩
      rw [if_pos hstart, Option.some.injEq]
      exact ⟨fun h => h ▸ hzero, fun h => hzero.unique h⟩
    · rw [if_neg hstart]
      cases i with
      | zero => exact iff_of_false (by simp) fun h => hstart (startsWith_iff.mpr h.stands)
      | succ i =>
        rw [standsFirst_succ_iff, ← ih, ← startsWith_iff]
        simp [hstart]

theorem contains_iff : contains p cs = true ↔ p <:+: cs := by
  rw [contains]
  induction cs with
  | nil => cases p <;> simp [find?]
  | cons c cs ih =>
    rw [List.infix_cons_iff, ← ih, ← startsWith_iff, find?]
    split <;> simp [*]

theorem hasWord_iff {s w : String} : hasWord s w = true ↔ w.toList <:+: s.toList := contains_iff

/-- A word that stands at an offset is found there or before. -/
theorem exists_find?_le (h : p <+: cs.drop i) : ∃ o ≤ i, find? p cs = some o := by
  have hsome : (find? p cs).isSome = true :=
    contains_iff.mpr (h.isInfix.trans (List.drop_suffix i cs).isInfix)
  obtain ⟨o, ho⟩ := Option.isSome_iff_exists.mp hsome
  refine ⟨o, Nat.le_of_not_lt fun hlt => ?_, ho⟩
  exact (find?_eq_some_iff.mp ho).first i hlt h

theorem standsLast_succ_iff {c : Char} : StandsLast p (c :: cs) (i + 1) ↔ StandsLast p cs i := by
  constructor
  · rintro ⟨hstands, hlast⟩
    exact ⟨hstands, fun j hj => hlast (j + 1) (Nat.succ_lt_succ hj)⟩
  · rintro ⟨hstands, hlast⟩
    refine ⟨hstands, fun j hj => ?_⟩
    cases j with
    | zero => exact (Nat.not_lt_zero _ hj).elim
    | succ j => exact hlast j (Nat.lt_of_succ_lt_succ hj)

theorem findLast?_spec (hp : p ≠ []) (cs : List Char) :
    (∀ i, findLast? p cs = some i → StandsLast p cs i) ∧ (findLast? p cs = none → ∀ j, ¬ p <+: cs.drop j) := by
  induction cs with
  | nil =>
    rw [findLast?, if_neg (by simpa using hp)]
    exact ⟨nofun, fun _ j h => hp (by simpa using h)⟩
  | cons c cs ih =>
    rw [findLast?]
    cases hfound : findLast? p cs with
    | some k =>
      refine ⟨fun i hi => ?_, nofun⟩
      obtain rfl := Option.some.inj hi
      exact standsLast_succ_iff.mpr (ih.1 k hfound)
    | none =>
      have hnone := ih.2 hfound
      by_cases hstart : startsWith p (c :: cs) = true
      · refine ⟨fun i hi => ?_, fun h => by simp [hstart] at h⟩
        obtain rfl : 0 = i := by simpa [hstart] using hi
        refine ⟨startsWith_iff.mp hstart, fun j hj => ?_⟩
        cases j with
        | zero => exact (Nat.lt_irrefl 0 hj).elim
        | succ j => exact hnone j
      · refine ⟨fun i hi => by simp [hstart] at hi, fun _ j => ?_⟩
        cases j with
        | zero => exact fun h => hstart (startsWith_iff.mpr h)
        | succ j => exact hnone j

theorem findLast?_eq_some_iff (hp : p ≠ []) : findLast? p cs = some i ↔ StandsLast p cs i := by
  obtain ⟨hsome, hnone⟩ := findLast?_spec hp cs
  refine ⟨hsome i, fun h => ?_⟩
  cases hfound : findLast? p cs with
  | none => exact (hnone hfound i h.stands).elim
  | some k => rw [(hsome k hfound).unique h]

/-- A word that is not empty stands in the beginning of a text if it ends there. -/
theorem prefix_drop_take_iff {n : Nat} (hp : p ≠ []) :
    p <+: (cs.take n).drop i ↔ i + p.length ≤ n ∧ p <+: cs.drop i := by
  have hpos : 0 < p.length := List.length_pos_of_ne_nil hp
  rw [List.drop_take, List.prefix_take_iff, and_comm]
  exact and_congr_left' (by omega)

end SchemaDesk.Text
