import Mathlib.Tactic.Common
import SchemaDesk.Text.Digit
import SchemaDesk.Text.Find
/-!
Names in ASCII letters, digits and underscores: they have no blanks, and both letter cases are what one
expects.
-/

namespace SchemaDesk.Text

/-! What holds of all listed characters is decided by trying these, and no others. -/

instance (priority := high) decidableForallMem (p : Char → Prop) [DecidablePred p] (cs : List Char) :
    Decidable (∀ c ∈ cs, p c) := List.decidableBAll p cs

instance (priority := high) decidableForallMemOption (p : Char → Prop) [DecidablePred p] (c? : Option Char) :
    Decidable (∀ c ∈ c?, p c) := decidable_of_iff (∀ c ∈ c?.toList, p c) (by simp)

/-- A name may start with a letter or an underscore. -/
def isNameStart (c : Char) : Bool := c.isAlpha || c == '_'

/-- Behind its start, a name may have digits as well. -/
def isNameChar (c : Char) : Bool := c.isAlphanum || c == '_'

def isName : List Char → Bool
  | [] => false
  | c :: cs => isNameStart c && cs.all isNameChar

theorem isNameChar_of_isNameStart {c : Char} (h : isNameStart c) : isNameChar c := by
  simp only [isNameStart, isNameChar, Char.isAlphanum, Bool.or_eq_true] at h ⊢
  tauto

theorem isAscii_of_isNameChar {c : Char} (h : isNameChar c) : c.toNat < 128 := by
  -- the letters of either case and the digits end below the same bound
  have hrange (hi : UInt32) (hhi : hi.toNat < 128) (hc : c.val ≤ hi) : c.toNat < 128 :=
    Nat.lt_of_le_of_lt (UInt32.le_iff_toNat_le.mp hc) hhi
  rw [isNameChar, Char.isAlphanum, Bool.or_eq_true, Bool.or_eq_true, beq_iff_eq] at h
  rcases h with (hletter | hdigit) | rfl
  · rcases (Bool.or_eq_true _ _).mp hletter with hupper | hlower
    · exact hrange 'Z'.val (by decide) (of_decide_eq_true hupper).2
    · exact hrange 'z'.val (by decide) (of_decide_eq_true ((Bool.and_eq_true _ _).mp hlower).2)
  · exact hrange '9'.val (by decide) (of_decide_eq_true ((Bool.and_eq_true _ _).mp hdigit).2)
  · decide

/-- What holds of all ASCII characters of a kind can be tried out. -/
theorem forall_ascii {p q : Char → Bool} (hp : ∀ c, p c → c.toNat < 128)
    (h : ∀ n < 128, p (Char.ofNat n) → q (Char.ofNat n)) {c : Char} (hc : p c) : q c := by
  have hn := h c.toNat (hp c hc)
  rw [Char.ofNat_toNat] at hn
  exact hn hc

theorem forall_nameChar {q : Char → Bool}
    (h : ∀ n < 128, isNameChar (Char.ofNat n) → q (Char.ofNat n)) {c : Char} (hc : isNameChar c) :
    q c :=
  forall_ascii (fun _ => isAscii_of_isNameChar) h hc

/-- What the tables of characters say of ASCII, tried out for all properties at once. -/
theorem ascii_known : ∀ n < 128,
    (isNameChar (Char.ofNat n) → isBlank (Char.ofNat n) = false ∧
      upperChar (Char.ofNat n) = [(Char.ofNat n).toUpper] ∧ isNameChar (Char.ofNat n).toUpper = true) ∧
    (isNameStart (Char.ofNat n) → isDigit (Char.ofNat n) = false) ∧
    ((Char.ofNat n).isDigit → isDigit (Char.ofNat n) = true) := by
  decide +kernel

theorem known_of_isAscii {c : Char} (hc : c.toNat < 128) :
    (isNameChar c → isBlank c = false ∧ upperChar c = [c.toUpper] ∧ isNameChar c.toUpper = true) ∧
    (isNameStart c → isDigit c = false) ∧ (c.isDigit → isDigit c = true) := by
  simpa only [Char.ofNat_toNat] using ascii_known c.toNat hc

theorem isBlank_of_isNameChar {c : Char} (h : isNameChar c) : isBlank c = false :=
  ((known_of_isAscii (isAscii_of_isNameChar h)).1 h).1

theorem isDigit_of_isNameStart {c : Char} (h : isNameStart c) : isDigit c = false :=
  (known_of_isAscii (isAscii_of_isNameChar (isNameChar_of_isNameStart h))).2.1 h

theorem upperChar_of_isNameChar {c : Char} (h : isNameChar c) : upperChar c = [c.toUpper] :=
  ((known_of_isAscii (isAscii_of_isNameChar h)).1 h).2.1

theorem isAscii_of_isDigit {c : Char} (h : c.isDigit = true) : c.toNat < 128 := by
  refine isAscii_of_isNameChar ?_
  simp [isNameChar, Char.isAlphanum, h]

theorem forall_digit {q : Char → Bool}
    (h : ∀ n < 128, (Char.ofNat n).isDigit → q (Char.ofNat n)) {c : Char} (hc : c.isDigit = true) : q c :=
  forall_ascii (fun _ => isAscii_of_isDigit) h hc

theorem isDigit_of_isDigit {c : Char} (h : c.isDigit = true) : isDigit c = true :=
  (known_of_isAscii (isAscii_of_isDigit h)).2.2 h

/-- A text without blanks is a single word. -/
theorem collapseChars_eq_self {cs : List Char} (h : ∀ c ∈ cs, isBlank c = false) :
    collapseChars cs = cs := by
  rw [collapseChars, words, List.splitOnP_eq_singleton h]
  cases cs <;> simp

theorem toUpper_nameChar {c : Char} (h : isNameChar c) : isNameChar c.toUpper :=
  ((known_of_isAscii (isAscii_of_isNameChar h)).1 h).2.2

theorem upperChars_name {cs : List Char} (h : ∀ c ∈ cs, isNameChar c) :
    upperChars cs = cs.map Char.toUpper := by
  induction cs with
  | nil => rfl
  | cons c cs ih =>
    have hcs := ih fun x hx => h x (by simp [hx])
    rw [upperChars] at hcs ⊢
    rw [List.flatMap_cons, upperChar_of_isNameChar (h c (by simp)), hcs]
    rfl

/-- A name in upper case has no blanks to be collapsed. -/
theorem collapse_upper_name {s : String} (h : ∀ c ∈ s.toList, isNameChar c) :
    collapse (upper s) = upper s := by
  have hupper : (upper s).toList = s.toList.map Char.toUpper := by
    rw [upper, String.toList_ofList, upperChars_name h]
  have hblank : ∀ c ∈ (upper s).toList, isBlank c = false := by
    rw [hupper]
    intro x hx
    obtain ⟨c, hc, rfl⟩ := List.mem_map.mp hx
    exact isBlank_of_isNameChar (toUpper_nameChar (h c hc))
  rw [collapse, collapseChars_eq_self hblank, String.ofList_toList]

end SchemaDesk.Text
