import Mathlib.Tactic.Common
import SchemaDesk.Proofs.Sql.Lexing.Lexeme
import SchemaDesk.Sql.Reader
/-!
What the readers of single tokens do behind a token, depending on the tokens in front of them.
-/

namespace SchemaDesk.Sql

namespace Cursor

/-- The place behind a token, where its comments wait. -/
def behind (l : Token) (ts : List Token) : Cursor :=
  { last := some l, rest := ts, comments := l.comments }

end Cursor

namespace Token

/-- A token of a kind with a text and without comments, wherever it stands. -/
structure Is (t : Token) (k : TokenKind) (s : String) : Prop where
  kind : t.kind = k
  text : t.text = s
  comments : t.comments = []

theorem is_iff_shape {t : Token} {k : TokenKind} {s : String} : t.Is k s ↔ t.shape = ⟨k, s, []⟩ := by
  constructor
  · rintro ⟨rfl, rfl, hcomments⟩
    rw [shape, hcomments]
  · intro h
    simp only [shape, TokenShape.mk.injEq] at h
    exact ⟨h.1, h.2.1, h.2.2⟩

theorem isMark_eq (t : Token) (m : String) : t.isMark m = (t.kind == .mark m) := rfl

theorem isKeyword_eq (t : Token) (name : String) : t.isKeyword name = (t.kind == .keyword name) := rfl

theorem reads_eq (t : Token) (w : String) : t.reads w = (t.kind != .text && t.caseless == w) := rfl

end Token

namespace Reader

open Cursor

variable {α β : Type} {l t : Token} {ts : List Token} {c c' : Cursor}

/-- What a reader does where it gives something goes on with what it gives. -/
theorem run_bind {r : Reader α} {a : α} (h : r.run c = .ok (a, c')) (f : α → Reader β) :
    (r >>= f).run c = (f a).run c' := by
  rw [StateT.run_bind, h]
  rfl

/-- Nothing goes on where a reader fails. -/
theorem run_bind_error {r : Reader α} {e : SyntaxFault} (h : r.run c = .error e) (f : α → Reader β) :
    (r >>= f).run c = .error e := by
  rw [StateT.run_bind, h]
  rfl

@[simp] theorem ok_bind {ε : Type} (a : α) (f : α → Except ε β) : (Except.ok a >>= f) = f a := rfl

@[simp] theorem pure_eq_ok {ε : Type} (a : α) : (pure a : Except ε α) = .ok a := rfl

@[simp] theorem error_bind {ε : Type} (e : ε) (f : α → Except ε β) :
    (Except.error e >>= f) = .error e := rfl

@[simp] theorem map_ok {ε : Type} (f : α → β) (a : α) : (f <$> (.ok a : Except ε α)) = .ok (f a) := rfl

@[simp] theorem run_get : (get : Reader Cursor).run c = .ok (c, c) := rfl

@[simp] theorem run_peek : peek.run (behind l ts) = .ok (ts.head?, behind l ts) := rfl

@[simp] theorem run_peekSecond : peekSecond.run (behind l ts) = .ok (ts.tail.head?, behind l ts) := rfl

@[simp] theorem run_last : last.run (behind l ts) = .ok (some l, behind l ts) := rfl

@[simp] theorem run_remaining : remaining.run (behind l ts) = .ok (ts.length, behind l ts) := rfl

@[simp] theorem run_atEnd : atEnd.run (behind l ts) = .ok (ts.isEmpty, behind l ts) := rfl

@[simp] theorem run_next_nil : next.run (behind l []) = .ok (none, behind l []) := rfl

@[simp] theorem run_next_cons : next.run (behind l (t :: ts)) = .ok (some t, behind t ts) := rfl

@[simp] theorem run_returnTo : (returnTo (behind l ts)).run c = .ok ((), behind l ts) := rfl

/-- Going back behind a token is nothing where the cursor is there already. -/
@[simp] theorem run_backTo_self : (backTo (behind l ts)).run (behind l ts) = .ok ((), behind l ts) := by
  simp [backTo, behind, remaining]

/-- Going back behind a token. -/
theorem run_backTo {ts' : List Token} (h : ts'.length ≠ ts.length) :
    (backTo (behind l ts)).run (behind t ts') = .ok ((), behind l ts) := by
  rw [backTo, run_bind run_remaining]
  simp [behind, h, bne_iff_ne]
  rfl

@[simp] theorem run_waiting : waiting.run (behind l ts) = .ok (l.comments, behind l ts) := rfl

theorem run_takeComments (hl : l.comments = []) :
    takeComments.run (behind l ts) = .ok ([], behind l ts) := by
  rw [← hl]
  simp [takeComments, behind, hl]

@[simp] theorem run_takeIf_nil (p : Token → Bool) :
    (takeIf p).run (behind l []) = .ok (none, behind l []) := rfl

@[simp] theorem run_takeIf_cons (p : Token → Bool) :
    (takeIf p).run (behind l (t :: ts)) =
      if p t then .ok (some t, behind t ts) else .ok (none, behind l (t :: ts)) := by
  rw [takeIf, run_bind run_peek]
  cases h : p t <;> simp [h]

@[simp] theorem run_skipIf_nil (p : Token → Bool) :
    (skipIf p).run (behind l []) = .ok (false, behind l []) := rfl

@[simp] theorem run_skipIf_cons (p : Token → Bool) :
    (skipIf p).run (behind l (t :: ts)) =
      if p t then .ok (true, behind t ts) else .ok (false, behind l (t :: ts)) := by
  rw [skipIf, StateT.run_bind, run_takeIf_cons]
  cases p t <;> rfl

@[simp] theorem run_nextIs (p : Token → Bool) :
    (nextIs p).run (behind l ts) = .ok ((ts.head?.map p).getD false, behind l ts) := by
  rw [nextIs, run_bind run_peek]
  cases ts <;> simp

@[simp] theorem run_secondIs (p : Token → Bool) :
    (secondIs p).run (behind l ts) = .ok ((ts.tail.head?.map p).getD false, behind l ts) := by
  rw [secondIs, run_bind run_peekSecond]
  cases ts.tail <;> simp

@[simp] theorem run_lastIs (p : Token → Bool) :
    (lastIs p).run (behind l ts) = .ok (p l, behind l ts) := rfl

theorem run_keyword (name : String) : keyword name = skipIf (·.isKeyword name) := rfl

theorem run_andM {r s : Reader Bool} {a : Bool} (h : r.run c = .ok (a, c')) :
    (r <&&> s).run c = if a then s.run c' else .ok (false, c') := by
  rw [andM, run_bind h]
  cases a <;> simp [toBool]

theorem run_orElse_some {r s : Reader (Option α)} {a : α} (h : r.run c = .ok (some a, c')) :
    (orElse r s).run c = .ok (some a, c') := by
  rw [orElse, run_bind h]
  rfl

theorem run_orElse_none {r s : Reader (Option α)} (h : r.run c = .ok (none, c')) :
    (orElse r s).run c = s.run c' := by
  rw [orElse, run_bind h]

theorem run_repeatFor_none {r : Reader (Option α)} (h : r.run c = .ok (none, c)) :
    ∀ fuel, (repeatFor r fuel).run c = .ok ([], c)
  | 0 => rfl
  | fuel + 1 => by
    rw [repeatFor, run_bind h]
    rfl

theorem run_many_none {r : Reader (Option α)} (h : r.run (behind l ts) = .ok (none, behind l ts)) :
    (many r).run (behind l ts) = .ok ([], behind l ts) := by
  rw [many, run_bind run_remaining]
  exact run_repeatFor_none h _

theorem run_extend_none {step : α → Reader (Option α)} {a : α}
    (h : (step a).run (behind l ts) = .ok (none, behind l ts)) :
    (extend step a).run (behind l ts) = .ok (a, behind l ts) := by
  rw [extend, run_bind run_remaining, extendFor, run_bind h]
  rfl

theorem run_noted (hl : l.comments = []) (e : Expr) :
    (noted e).run (behind l ts) = .ok (e, behind l ts) := by
  rw [noted, run_bind (run_takeComments hl)]
  rfl

theorem run_expectMark {m : String} (h : t.isMark m = true) :
    (expectMark m).run (behind l (t :: ts)) = .ok ((), behind t ts) := by
  rw [expectMark, mark]
  simp [h]

theorem run_wordsFrom_cons {start : Cursor} {w : String} {ws : List String} (h : t.reads w = true) :
    (wordsFrom start (w :: ws)).run (behind l (t :: ts)) = (wordsFrom start ws).run (behind t ts) := by
  rw [wordsFrom, run_bind (by rw [run_skipIf_cons, if_pos h])]
  rfl

theorem run_word {w : String} (h : t.reads w = true) :
    (word w).run (behind l (t :: ts)) = .ok (true, behind t ts) := by
  rw [word, words, run_bind run_get, run_wordsFrom_cons h]
  rfl

/-- Behind a token without comments, the reader gives something and takes exactly the tokens `us` in
front of `ts`. -/
def Takes (r : Reader α) (us ts : List Token) (a : α) : Prop :=
  ∀ l : Token, l.comments = [] →
    ∃ l' : Token, l'.comments = [] ∧ r.run (behind l (us ++ ts)) = .ok (a, behind l' ts)

namespace Takes

variable {r : Reader α} {us vs : List Token} {a : α} {b : β}

theorem bind {f : α → Reader β} (hr : Takes r us (vs ++ ts) a) (hf : Takes (f a) vs ts b) :
    Takes (r >>= f) (us ++ vs) ts b := by
  intro l hl
  obtain ⟨m, hm, hrun⟩ := hr l hl
  obtain ⟨l', hl', hrest⟩ := hf m hm
  refine ⟨l', hl', ?_⟩
  rw [List.append_assoc, run_bind hrun, hrest]

theorem pure (a : α) (ts : List Token) : Takes (pure a) [] ts a :=
  fun l hl => ⟨l, hl, rfl⟩

theorem map {f : α → β} (hr : Takes r us ts a) : Takes (f <$> r) us ts (f a) := by
  intro l hl
  obtain ⟨l', hl', hrun⟩ := hr l hl
  exact ⟨l', hl', by rw [StateT.run_map, hrun]; rfl⟩

theorem of_run (h : ∀ l : Token, l.comments = [] → r.run (behind l ts) = .ok (a, behind l ts)) :
    Takes r [] ts a :=
  fun l hl => ⟨l, hl, h l hl⟩

/-- A reader that takes the first token. -/
theorem of_run_cons (ht : t.comments = [])
    (h : ∀ l : Token, l.comments = [] → r.run (behind l (t :: ts)) = .ok (a, behind t ts)) :
    Takes r [t] ts a :=
  fun l hl => ⟨t, ht, h l hl⟩

end Takes

end Reader

end SchemaDesk.Sql
