import Mathlib.Data.List.TakeWhile
import SchemaDesk.Text.Blank
/-!
The blank margins of a text.
-/

namespace SchemaDesk.Text

/-- A text that starts and ends with no blank is left of its margins. -/
theorem stripChars_append {bs cs es : List Char} (hbs : ∀ b ∈ bs, isBlank b = true)
    (hes : ∀ e ∈ es, isBlank e = true) (hhead : ∀ c ∈ cs.head?, isBlank c = false)
    (hlast : ∀ c ∈ cs.getLast?, isBlank c = false) : stripChars (bs ++ (cs ++ es)) = cs := by
  have hfront : (bs ++ (cs ++ es)).dropWhile isBlank = (cs ++ es).dropWhile isBlank :=
    List.dropWhile_append_of_pos hbs
  have hback : dropTrailingBlanks (cs ++ es) = cs := by
    have hes : ∀ e ∈ es.reverse, isBlank e = true := fun e he => hes e (List.mem_reverse.mp he)
    rw [dropTrailingBlanks, List.reverse_append, List.dropWhile_append_of_pos hes]
    rw [← List.head?_reverse] at hlast
    cases hcs : cs.reverse with
    | nil => simpa using hcs.symm
    | cons c ds =>
      have hc : isBlank c = false := hlast c (by simp [hcs])
      rw [List.dropWhile_cons_of_neg (by simp [hc]), ← hcs, List.reverse_reverse]
  rw [stripChars, hfront]
  cases cs with
  | nil =>
    rw [List.nil_append] at hback ⊢
    have hall : es.dropWhile isBlank = [] := List.dropWhile_eq_nil_iff.mpr hes
    rw [hall]
    rfl
  | cons c cs =>
    have hc : isBlank c = false := hhead c rfl
    rw [List.cons_append, List.dropWhile_cons_of_neg (by simp [hc]), ← List.cons_append, hback]

/-- Only blanks are cut off. -/
theorem mem_stripChars {c : Char} {cs : List Char} (hc : isBlank c = false) (h : c ∈ cs) : c ∈ stripChars cs := by
  have hdrop {l : List Char} (h : c ∈ l) : c ∈ l.dropWhile isBlank := by
    rw [← List.takeWhile_append_dropWhile (p := isBlank) (l := l), List.mem_append] at h
    refine h.resolve_left fun h => ?_
    rw [List.mem_takeWhile_imp h] at hc
    cases hc
  rw [stripChars, dropTrailingBlanks, List.mem_reverse]
  exact hdrop (List.mem_reverse.mpr (hdrop h))

theorem strip_ne_empty {c : Char} {s : String} (hc : isBlank c = false) (h : c ∈ s.toList) : strip s ≠ "" := by
  intro hempty
  have hmem := mem_stripChars hc h
  rw [← String.toList_ofList (l := stripChars s.toList), ← strip, hempty] at hmem
  cases hmem

end SchemaDesk.Text
