import SchemaDesk.Proofs.Sql.Reading.Reader
import SchemaDesk.Sql.Grammar.Statement
/-!
What may stand behind a type, a value or a constraint in a definition. No reader of a further part
takes any of it.
-/

namespace SchemaDesk.Sql

namespace Token

/-- The words and marks of definitions that are written in capital letters. -/
def capitals : List String := [
  "(", ")", ",", "-", "NOT", "NULL", "PRIMARY KEY", "UNIQUE", "DEFAULT", "AUTO_INCREMENT",
  "AUTOINCREMENT", "TRUE", "FALSE", "CURRENT_TIMESTAMP", "CREATE", "TABLE", "ALTER", "ADD",
  "CONSTRAINT", "FOREIGN KEY", "REFERENCES", "ON", "DELETE", "UPDATE", "CASCADE", "SET", "RESTRICT",
  "NO", "ACTION"]

theorem upper_capital : ∀ s ∈ capitals, Text.upper s = s := by
  decide +kernel

theorem collapse_capital : ∀ s ∈ capitals, Text.collapse s = s := by
  decide +kernel

theorem Is.caseless {t : Token} {k : TokenKind} {s : String} (h : t.Is k s) (hs : s ∈ capitals) :
    t.caseless = s := by
  rw [Token.caseless, h.text, upper_capital s hs, collapse_capital s hs]

theorem Is.reads {t : Token} {k : TokenKind} {s : String} (h : t.Is k s) (hk : k ≠ .text)
    (hs : s ∈ capitals) (w : String) : t.reads w = (s == w) := by
  simp [reads_eq, h.kind, hk, h.caseless hs]

/-- The tokens behind a part of a column. -/
def followers : List (TokenKind × String) := [
  (.mark ",", ","), (.mark ")", ")"), (.keyword "NOT", "NOT"), (.keyword "PRIMARY KEY", "PRIMARY KEY"),
  (.keyword "UNIQUE", "UNIQUE"), (.keyword "DEFAULT", "DEFAULT"),
  (.keyword "AUTO_INCREMENT", "AUTO_INCREMENT"), (.keyword "AUTO_INCREMENT", "AUTOINCREMENT")]

def Follows (t : Token) : Prop := ∃ x ∈ followers, t.Is x.1 x.2

namespace Follows

variable {t : Token} (h : t.Follows)

include h

theorem exists_caseless : ∃ x ∈ followers, t.kind = x.1 ∧ t.text = x.2 ∧ t.caseless = x.2 := by
  obtain ⟨x, hx, ht⟩ := h
  have hcapital : ∀ x ∈ followers, x.2 ∈ capitals := by decide
  exact ⟨x, hx, ht.kind, ht.text, ht.caseless (hcapital x hx)⟩

/-- What holds of the kinds and texts of all followers holds of this one. -/
theorem induct {p : TokenKind → String → Bool} (hp : ∀ x ∈ followers, p x.1 x.2) :
    p t.kind t.caseless := by
  obtain ⟨x, hx, hkind, -, hcaseless⟩ := h.exists_caseless
  rw [hkind, hcaseless]
  exact hp x hx

theorem comments : t.comments = [] := by
  obtain ⟨x, -, ht⟩ := h
  exact ht.comments

theorem isMark_eq_false {m : String} (hm : m ∉ [",", ")"]) : t.isMark m = false := by
  obtain ⟨x, hx, hkind, -⟩ := h.exists_caseless
  rw [isMark_eq, hkind]
  simp only [followers, List.mem_cons, List.not_mem_nil, or_false] at hx hm
  rcases hx with rfl | rfl | rfl | rfl | rfl | rfl | rfl | rfl <;>
    simp only [beq_eq_false_iff_ne, ne_eq, TokenKind.mark.injEq, reduceCtorEq, not_false_eq_true]
  · exact fun h => hm (Or.inl h.symm)
  · exact fun h => hm (Or.inr h.symm)

theorem isKeyword_eq_false {name : String}
    (hname : name ∉ ["NOT", "PRIMARY KEY", "UNIQUE", "DEFAULT", "AUTO_INCREMENT"]) :
    t.isKeyword name = false := by
  obtain ⟨x, hx, hkind, -⟩ := h.exists_caseless
  rw [isKeyword_eq, hkind]
  simp only [followers, List.mem_cons, List.not_mem_nil, or_false] at hx hname
  rcases hx with rfl | rfl | rfl | rfl | rfl | rfl | rfl | rfl <;>
    simp only [beq_eq_false_iff_ne, ne_eq, TokenKind.keyword.injEq, reduceCtorEq, not_false_eq_true] <;>
    exact fun h => hname (by simp [← h])

theorem caseless_mem : t.caseless ∈ followers.map (·.2) := by
  obtain ⟨x, hx, -, -, hcaseless⟩ := h.exists_caseless
  exact hcaseless ▸ List.mem_map_of_mem hx

theorem reads_eq_false {w : String} (hw : w ∉ followers.map (·.2)) : t.reads w = false := by
  have hne : t.caseless ≠ w := by
    rintro rfl
    exact hw h.caseless_mem
  simp [reads_eq, hne]

end Follows

end Token

/-- Nothing or a follower stands next. -/
def FollowedBy (ts : List Token) : Prop := ∀ t ∈ ts.head?, t.Follows

namespace Reader

open Cursor

variable {l : Token} {ts : List Token}

theorem run_takeIf_of_none {p : Token → Bool} (hp : ∀ t ∈ ts.head?, p t = false) :
    (takeIf p).run (behind l ts) = .ok (none, behind l ts) := by
  cases ts with
  | nil => rfl
  | cons t ts => rw [run_takeIf_cons, if_neg (by simp [hp t rfl])]

theorem run_skipIf_of_none {p : Token → Bool} (hp : ∀ t ∈ ts.head?, p t = false) :
    (skipIf p).run (behind l ts) = .ok (false, behind l ts) := by
  rw [skipIf, run_bind (run_takeIf_of_none hp)]
  rfl

theorem run_wordsFrom_of_none {w : String} {ws : List String} (hw : ∀ t ∈ ts.head?, t.reads w = false) :
    (words (w :: ws)).run (behind l ts) = .ok (false, behind l ts) := by
  rw [words, run_bind run_get, wordsFrom, run_bind (run_skipIf_of_none hw)]
  simp

theorem run_oneOf_of_none {ws : List String} (hws : ∀ t ∈ ts.head?, ws.contains t.caseless = false) :
    (oneOf ws).run (behind l ts) = .ok (none, behind l ts) := by
  rw [oneOf, run_bind (run_takeIf_of_none fun t ht => by rw [hws t ht, Bool.and_false])]
  rfl

theorem run_nextIs_of_none {p : Token → Bool} (hp : ∀ t ∈ ts.head?, p t = false) :
    (nextIs p).run (behind l ts) = .ok (false, behind l ts) := by
  rw [run_nextIs]
  cases ts with
  | nil => rfl
  | cons t ts => simp [hp t rfl]

theorem run_pair_of_none {p q : Token → Bool} (hp : ∀ t ∈ ts.head?, p t = false) :
    (pair p q).run (behind l ts) = .ok (false, behind l ts) := by
  rw [pair, run_bind (run_andM (run_nextIs_of_none hp))]
  simp

end Reader

namespace FollowedBy

open Cursor Reader

variable {l : Token} {ts : List Token} (h : FollowedBy ts)

theorem nil : FollowedBy [] := by simp [FollowedBy]

theorem cons {t : Token} {ts : List Token} (h : t.Follows) : FollowedBy (t :: ts) := by
  simpa [FollowedBy] using h

include h

theorem run_mark {m : String} (hm : m ∉ [",", ")"]) :
    (mark m).run (behind l ts) = .ok (false, behind l ts) :=
  run_skipIf_of_none fun t ht => (h t ht).isMark_eq_false hm

theorem run_keyword {name : String}
    (hname : name ∉ ["NOT", "PRIMARY KEY", "UNIQUE", "DEFAULT", "AUTO_INCREMENT"]) :
    (keyword name).run (behind l ts) = .ok (false, behind l ts) :=
  run_skipIf_of_none fun t ht => (h t ht).isKeyword_eq_false hname

theorem run_words {w : String} {ws : List String} (hw : w ∉ Token.followers.map (·.2)) :
    (words (w :: ws)).run (behind l ts) = .ok (false, behind l ts) :=
  run_wordsFrom_of_none fun t ht => (h t ht).reads_eq_false hw

theorem run_word {w : String} (hw : w ∉ Token.followers.map (·.2)) :
    (word w).run (behind l ts) = .ok (false, behind l ts) :=
  h.run_words hw

theorem run_takeIf_kind {p : TokenKind → Bool} (hp : ∀ x ∈ Token.followers, p x.1 = false) :
    (takeIf fun t => p t.kind).run (behind l ts) = .ok (none, behind l ts) :=
  run_takeIf_of_none fun t ht => by
    simpa using (h t ht).induct (p := fun k _ => !p k) fun x hx => by simp [hp x hx]

end FollowedBy

end SchemaDesk.Sql
