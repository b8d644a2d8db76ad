import Mathlib.Tactic.Common
import SchemaDesk.Sql.Lexer
/-!
Lexemes: the stretches of a script that the lexer cuts off, one after the other. A script that is put
together from lexemes has the tokens of its lexemes.
-/

namespace SchemaDesk.Sql

inductive Lexeme
  | blank (c : Char)
  | comment (text : String) (written : List Char)
  | token (kind : TokenKind) (text : String) (written : List Char)

/-- What the grammar sees of a token: everything but its place. -/
structure TokenShape where
  kind : TokenKind
  text : String
  comments : List String := []
  deriving DecidableEq

namespace Token

def shape (t : Token) : TokenShape := ⟨t.kind, t.text, t.comments⟩

end Token

namespace Lexeme

def written : Lexeme → List Char
  | blank c => [c]
  | comment _ cs => cs
  | token _ _ cs => cs

def piece : Lexeme → Piece
  | blank _ => .blank
  | comment s cs => .comment s cs.length
  | token k s cs => .token k s cs.length

/-- In front of the given rest of a text, the lexer takes the lexeme for its first piece. -/
def CutBefore (d : Dialect) (l : Lexeme) (rest : List Char) : Prop :=
  ∃ c cs, l.written = c :: cs ∧ Lexer.piece d c (cs ++ rest) = l.piece

def item? (offset : Nat) : Lexeme → Option Lexer.Item
  | blank _ => none
  | comment s cs => some (.comment s offset (offset + (cs.length - 1)))
  | token k s cs => some (.token ⟨k, s, offset, offset + (cs.length - 1), []⟩)

def allWritten (ls : List Lexeme) : List Char := ls.flatMap written

@[simp] theorem allWritten_nil : allWritten [] = [] := rfl

@[simp] theorem allWritten_cons (l : Lexeme) (ls : List Lexeme) :
    allWritten (l :: ls) = l.written ++ allWritten ls := rfl

@[simp] theorem allWritten_append (ls ms : List Lexeme) :
    allWritten (ls ++ ms) = allWritten ls ++ allWritten ms :=
  List.flatMap_append

def itemsFrom (offset : Nat) : List Lexeme → List Lexer.Item
  | [] => []
  | l :: ls => (l.item? offset).toList ++ itemsFrom (offset + l.written.length) ls

/-- The lexer cuts a text into these lexemes and the rest. -/
def Cuts (d : Dialect) : List Lexeme → List Char → Prop
  | [], _ => True
  | l :: ls, rest => l.CutBefore d (allWritten ls ++ rest) ∧ Cuts d ls rest

theorem Cuts.append {d : Dialect} {ls ms : List Lexeme} {rest : List Char}
    (hls : Cuts d ls (allWritten ms ++ rest)) (hms : Cuts d ms rest) : Cuts d (ls ++ ms) rest := by
  induction ls with
  | nil => exact hms
  | cons l ls ih =>
    refine ⟨?_, ih hls.2⟩
    simpa using hls.1

theorem Cuts.written_ne_nil {d : Dialect} {ls : List Lexeme} {rest : List Char} (h : Cuts d ls rest) :
    ∀ l ∈ ls, l.written ≠ [] := by
  induction ls with
  | nil => simp
  | cons l ls ih =>
    intro m hm
    rcases List.mem_cons.mp hm with rfl | hm
    · obtain ⟨c, cs, hwritten, -⟩ := h.1
      simp [hwritten]
    · exact ih h.2 m hm

theorem items_cons_zero (d : Dialect) (offset : Nat) (c : Char) (cs : List Char) :
    Lexer.items d offset 0 (c :: cs) =
      match Lexer.piece d c cs with
      | .blank => Lexer.items d (offset + 1) 0 cs
      | .comment text n =>
        (Lexer.items d (offset + 1) (n - 1) cs).map (.comment text offset (offset + (n - 1)) :: ·)
      | .token kind text n =>
        (Lexer.items d (offset + 1) (n - 1) cs).map
          (.token ⟨kind, text, offset, offset + (n - 1), []⟩ :: ·)
      | .unclosed => none := by
  rfl

theorem items_skip (d : Dialect) (cs rest : List Char) (offset : Nat) :
    Lexer.items d offset cs.length (cs ++ rest) = Lexer.items d (offset + cs.length) 0 rest := by
  induction cs generalizing offset with
  | nil => rfl
  | cons c cs ih =>
    have hstep : Lexer.items d offset (cs.length + 1) (c :: (cs ++ rest)) =
        Lexer.items d (offset + 1) cs.length (cs ++ rest) := rfl
    rw [List.length_cons, List.cons_append, hstep, ih, Nat.add_assoc, Nat.add_comm 1]

theorem items_of_cuts {d : Dialect} {ls : List Lexeme} (h : Cuts d ls []) (offset : Nat) :
    Lexer.items d offset 0 (allWritten ls) = some (itemsFrom offset ls) := by
  induction ls generalizing offset with
  | nil => rfl
  | cons l ls ih =>
    obtain ⟨⟨c, cs, hwritten, hpiece⟩, hls⟩ := h
    have hlen : l.written.length = 1 + cs.length := by rw [hwritten, List.length_cons, Nat.add_comm]
    rw [List.append_nil] at hpiece
    rw [allWritten_cons, hwritten, List.cons_append, items_cons_zero, hpiece, itemsFrom, hlen,
      ← Nat.add_assoc]
    cases l with
    | blank b =>
      obtain ⟨rfl, rfl⟩ : b = c ∧ cs = [] := by simpa [written] using hwritten
      exact ih hls _
    | comment s ds =>
      obtain rfl : ds = c :: cs := hwritten
      simp only [piece, List.length_cons, Nat.add_sub_cancel]
      rw [items_skip, ih hls]
      simp [item?]
    | token k s ds =>
      obtain rfl : ds = c :: cs := hwritten
      simp only [piece, List.length_cons, Nat.add_sub_cancel]
      rw [items_skip, ih hls]
      simp [item?]

end Lexeme

end SchemaDesk.Sql
