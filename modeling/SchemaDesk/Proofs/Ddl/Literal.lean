import SchemaDesk.Proofs.Sql.Lexing.Fixed
import SchemaDesk.Proofs.Sql.Lexing.Tokens
import SchemaDesk.Proofs.Sql.Reading.Sum
/-!
The simple defaults: how they are written, and what the grammar makes of them.
-/

namespace SchemaDesk.Ddl

open Sql Sql.Reader Sql.Grammar Sql.Cursor

/-- A default that needs a token or two. -/
inductive Literal
  | number (negative : Bool) (digits : List Char)
  | text (content : List Char)
  | bool (b : Bool)
  | null
  | now
  deriving DecidableEq

namespace Literal

def IsValid : Literal → Prop
  | number _ digits => digits ≠ [] ∧ ∀ c ∈ digits, c.isDigit = true
  | text content => '\\' ∉ content
  | _ => True

/-- The lexer of the dialect finds the literal. -/
def IsFound (d : Dialect) : Literal → Prop
  | number _ digits => digits ≠ [] ∧ ∀ c ∈ digits, c.isDigit = true
  | text content => Lexer.StandsForItself d content
  | _ => True

theorem IsValid.isFound {x : Literal} (hx : x.IsValid) (d : Dialect) : x.IsFound d := by
  cases x with
  | number => exact hx
  | text => exact Lexer.standsForItself_of_notMem d hx
  | bool | null | now => trivial

def lexemes : Literal → List Lexeme
  | number true digits => [.mark '-', .number digits]
  | number false digits => [.number digits]
  | text content => [.text content]
  | bool true => [.verbatim (.keyword "TRUE") "TRUE"]
  | bool false => [.verbatim (.keyword "FALSE") "FALSE"]
  | null => [.verbatim (.type "NULL") "NULL"]
  | now => [.verbatim (.keyword "CURRENT_TIMESTAMP") "CURRENT_TIMESTAMP"]

/-- The text of the default in a statement. -/
def written (x : Literal) : String := String.ofList (Lexeme.allWritten x.lexemes)

def expr (d : Dialect) : Literal → Expr
  | number true digits => .unary "neg" "-" (.number (String.ofList digits))
  | number false digits => .number (String.ofList digits)
  | text content => .text (String.ofList content)
  | bool b => .bool b
  | null => .null
  | now => Grammar.now d

theorem IsFound.written_ne_empty {d : Dialect} {x : Literal} (hx : x.IsFound d) : x.written ≠ "" := by
  intro hempty
  have hchars : Lexeme.allWritten x.lexemes = [] := by
    rw [← String.toList_ofList (l := Lexeme.allWritten x.lexemes)]
    exact congrArg String.toList hempty
  cases x with
  | number negative digits =>
    cases negative with
    | false => exact hx.1 (by simpa [lexemes, Lexeme.number, Lexeme.written] using hchars)
    | true => cases hchars
  | text => cases hchars
  | bool b => cases b <;> cases hchars
  | null | now => cases hchars

theorem cuts {d : Dialect} {x : Literal} (hx : x.IsFound d) {rest : List Char}
    (hrest : Lexer.Delimited rest) : Lexeme.Cuts d x.lexemes rest := by
  have hfixed {s : String} {k : TokenKind} (hs : (s, k) ∈ Lexeme.fixedWords) :
      Lexeme.Cuts d [.verbatim k s] rest :=
    ⟨Lexeme.fixed_cutBefore d hs hrest, trivial⟩
  cases x with
  | number negative digits =>
    obtain ⟨hne, hdigits⟩ := hx
    have hnumber : (Lexeme.number digits).CutBefore d rest := Lexeme.number_cutBefore hne hdigits hrest
    cases negative with
    | false => exact ⟨hnumber, trivial⟩
    | true =>
      refine ⟨Lexeme.minus_cutBefore ?_, hnumber, trivial⟩
      obtain - | ⟨c, cs⟩ := digits
      · exact (hne rfl).elim
      · simp [Lexeme.number, Lexeme.written, hdigits c (by simp)]
  | text content => exact ⟨Lexeme.text_cutBefore hx hrest, trivial⟩
  | bool b =>
    cases b with
    | false => exact hfixed (by decide)
    | true => exact hfixed (by decide)
  | null => exact hfixed (by decide)
  | now => exact hfixed (by decide)

/-- The first token of a default other than `NULL` is no word of a rule. -/
structure Starts (t : Token) : Prop where
  kind : t.kind ∈ [.mark "-", .number, .text, .keyword "TRUE", .keyword "FALSE",
    .keyword "CURRENT_TIMESTAMP"]
  reads : ∀ w, (∀ c ∈ w.toList.head?, c.isDigit = false) →
    w ∉ ["-", "TRUE", "FALSE", "CURRENT_TIMESTAMP"] → t.reads w = false

theorem starts_of_is {t : Token} {k : TokenKind} {s : String} (ht : t.Is k s)
    (hk : k ∈ [.mark "-", .keyword "TRUE", .keyword "FALSE", .keyword "CURRENT_TIMESTAMP"])
    (hs : s ∈ ["-", "TRUE", "FALSE", "CURRENT_TIMESTAMP"]) : Starts t := by
  refine ⟨?_, fun w _ hw => ?_⟩
  · rw [ht.kind]
    revert hk
    simp
    tauto
  · have hcapital : ∀ s ∈ ["-", "TRUE", "FALSE", "CURRENT_TIMESTAMP"], s ∈ Token.capitals := by decide
    have htext : k ≠ .text := by
      rintro rfl
      simp at hk
    rw [ht.reads htext (hcapital s hs), beq_eq_false_iff_ne]
    rintro rfl
    exact hw hs

theorem starts_number {t : Token} {digits : List Char} (hne : digits ≠ [])
    (hdigits : ∀ c ∈ digits, c.isDigit = true) (ht : t.Is .number (String.ofList digits)) : Starts t := by
  refine ⟨by simp [ht.kind], fun w hw _ => ?_⟩
  have hname : ∀ c ∈ (String.ofList digits).toList, Text.isNameChar c := by
    intro c hc
    rw [String.toList_ofList] at hc
    simp [Text.isNameChar, Char.isAlphanum, hdigits c hc]
  have hcaseless : t.caseless.toList = digits.map Char.toUpper := by
    rw [Token.caseless, ht.text, Text.collapse_upper_name hname, Text.upper, String.toList_ofList,
      Text.upperChars_name hname, String.toList_ofList]
  have hword : t.caseless ≠ w := by
    rintro rfl
    obtain - | ⟨c, cs⟩ := digits
    · exact hne rfl
    · rw [hcaseless] at hw
      have hc := hw c.toUpper rfl
      have hupper : c.toUpper.isDigit = true :=
        Text.forall_digit (q := fun c => c.toUpper.isDigit) (by decide +kernel) (hdigits c (by simp))
      rw [hupper] at hc
      cases hc
  simp [Token.reads_eq, hword]

theorem exists_first {d : Dialect} {x : Literal} (hx : x.IsFound d) (hnull : x ≠ null) {us : List Token}
    (hus : us.map Token.shape = x.lexemes.filterMap Lexeme.shape?) :
    ∃ t vs, us = t :: vs ∧ Starts t := by
  have hfixed {k : TokenKind} {s : String} (hus : us.map Token.shape = [⟨k, s, []⟩])
      (hk : k ∈ [.mark "-", .keyword "TRUE", .keyword "FALSE", .keyword "CURRENT_TIMESTAMP"])
      (hs : s ∈ ["-", "TRUE", "FALSE", "CURRENT_TIMESTAMP"]) : ∃ t vs, us = t :: vs ∧ Starts t := by
    obtain ⟨t, rfl, ht⟩ := List.map_eq_singleton_iff.mp hus
    exact ⟨t, [], rfl, starts_of_is (Token.is_iff_shape.mpr ht) hk hs⟩
  cases x with
  | number negative digits =>
    cases negative with
    | false =>
      obtain ⟨t, rfl, ht⟩ := List.map_eq_singleton_iff.mp hus
      exact ⟨t, [], rfl, starts_number hx.1 hx.2 (Token.is_iff_shape.mpr ht)⟩
    | true =>
      obtain ⟨m, vs, rfl, hm, -⟩ := List.map_eq_cons_iff.mp hus
      exact ⟨m, vs, rfl, starts_of_is (Token.is_iff_shape.mpr hm) (by simp) (by simp)⟩
  | text content =>
    obtain ⟨t, rfl, ht⟩ := List.map_eq_singleton_iff.mp hus
    have ht : t.Is .text (String.ofList content) := Token.is_iff_shape.mpr ht
    exact ⟨t, [], rfl, by simp [ht.kind], fun w _ _ => by simp [Token.reads_eq, ht.kind]⟩
  | bool b =>
    cases b with
    | false => exact hfixed hus (by decide) (by decide)
    | true => exact hfixed hus (by decide) (by decide)
  | null => exact (hnull rfl).elim
  | now => exact hfixed hus (by decide) (by decide)

/-- In front of a follower, the grammar takes the whole default. -/
theorem takes_sum (d : Dialect) (k : Nat) (x : Literal) {us ts : List Token}
    (hus : us.map Token.shape = x.lexemes.filterMap Lexeme.shape?) (h : FollowedBy ts) :
    Takes (sum d (nested d (k + 1))) us ts (some (x.expr d)) := by
  have hvalue {t : Token} {e : Expr} (ht : IsValue t e) :
      Takes (sum d (nested d (k + 1))) [t] ts (some e) :=
    .of_run_cons ht.comments fun _ _ => ht.run_sum h
  cases x with
  | number negative digits =>
    cases negative with
    | false =>
      obtain ⟨t, rfl, ht⟩ := List.map_eq_singleton_iff.mp hus
      exact hvalue (.number (Token.is_iff_shape.mpr ht))
    | true =>
      obtain ⟨m, us, rfl, hm, hus⟩ := List.map_eq_cons_iff.mp hus
      obtain ⟨t, rfl, ht⟩ := List.map_eq_singleton_iff.mp hus
      have ht := Token.is_iff_shape.mpr ht
      exact fun l _ => ⟨t, ht.comments, run_sum_negative (Token.is_iff_shape.mpr hm) ht h⟩
  | text content =>
    obtain ⟨t, rfl, ht⟩ := List.map_eq_singleton_iff.mp hus
    exact hvalue (.text (Token.is_iff_shape.mpr ht))
  | bool b =>
    cases b with
    | false =>
      obtain ⟨t, rfl, ht⟩ := List.map_eq_singleton_iff.mp hus
      exact hvalue (.no (Token.is_iff_shape.mpr ht))
    | true =>
      obtain ⟨t, rfl, ht⟩ := List.map_eq_singleton_iff.mp hus
      exact hvalue (.yes (Token.is_iff_shape.mpr ht))
  | null =>
    obtain ⟨t, rfl, ht⟩ := List.map_eq_singleton_iff.mp hus
    exact hvalue (.null (Token.is_iff_shape.mpr ht))
  | now =>
    obtain ⟨t, rfl, ht⟩ := List.map_eq_singleton_iff.mp hus
    have ht := Token.is_iff_shape.mpr ht
    exact .of_run_cons ht.comments fun _ _ => run_sum_now ht h

end Literal

end SchemaDesk.Ddl
