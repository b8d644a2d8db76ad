import Mathlib.Data.List.Forall2
import SchemaDesk.Definition.Reference
/-!
The first of several sources that gives an answer.
-/

namespace SchemaDesk

/-- The answer of the first source that gives one; there is none if no source does. -/
inductive FirstGiven {α : Type} : List (α → Prop) → Option α → Prop
  | nothing : FirstGiven [] none
  | here {P : α → Prop} {Ps : List (α → Prop)} {a : α} (h : P a) : FirstGiven (P :: Ps) (some a)
  | later {P : α → Prop} {Ps : List (α → Prop)} {r : Option α} (h : ∀ a, ¬ P a) (hr : FirstGiven Ps r) :
      FirstGiven (P :: Ps) r

/-- An answer is that of one of the sources. -/
theorem FirstGiven.exists_mem {α : Type} {Ps : List (α → Prop)} {r : Option α} (h : FirstGiven Ps r) {a : α}
    (ha : r = some a) : ∃ P ∈ Ps, P a := by
  induction h with
  | nothing => cases ha
  | here h =>
    obtain rfl := Option.some.inj ha
    exact ⟨_, List.mem_cons_self, h⟩
  | later _ _ ih =>
    obtain ⟨P, hP, hPa⟩ := ih ha
    exact ⟨P, List.mem_cons_of_mem _ hP, hPa⟩

/-- Answers that are looked up one after the other are given by the first source that has one. -/
theorem firstGiven_firstSome {α : Type} {xs : List (Option α)} {Ps : List (α → Prop)}
    (h : List.Forall₂ (fun x P => ∀ a, x = some a ↔ P a) xs Ps) : FirstGiven Ps (firstSome xs) := by
  induction h with
  | nil => exact .nothing
  | @cons x P xs Ps hx _ ih =>
    cases x with
    | some a => exact .here ((hx a).mp rfl)
    | none => exact .later (fun a ha => nomatch (hx a).mpr ha) ih

theorem FirstGiven.eq_firstSome {α : Type} {xs : List (Option α)} {Ps : List (α → Prop)} {r : Option α}
    (hr : FirstGiven Ps r) (h : List.Forall₂ (fun x P => ∀ a, x = some a ↔ P a) xs Ps) : r = firstSome xs := by
  induction hr generalizing xs with
  | nothing =>
    cases h
    rfl
  | here ha =>
    cases h with
    | cons hx _ => rw [(hx _).mpr ha]; rfl
  | later hnone _ ih =>
    cases h with
    | cons hx hxs =>
      rw [Option.eq_none_iff_forall_ne_some.mpr fun a ha => hnone a ((hx a).mp ha), ih hxs]
      rfl

end SchemaDesk
