import SchemaDesk.Proofs.Sql.Lexing.Lexeme
/-!
The tokens of lexemes: comments at the start of a line belong to the token behind them.
-/

namespace SchemaDesk.Sql

namespace Lexeme

/-- The tokens of lexemes; `pending` are comments that no token has yet. -/
def shapes (pending : List String) : List Lexeme → List TokenShape
  | [] => []
  | blank _ :: ls => shapes pending ls
  | comment s _ :: ls => shapes (pending ++ [s]) ls
  | token k s _ :: ls => ⟨k, s, pending⟩ :: shapes [] ls

/-- The comments that no token has in the end. -/
def unclaimed (pending : List String) : List Lexeme → List String
  | [] => pending
  | blank _ :: ls => unclaimed pending ls
  | comment s _ :: ls => unclaimed (pending ++ [s]) ls
  | token _ _ _ :: ls => unclaimed [] ls

/-- The last token takes further comments. -/
def noteLast (comments : List String) (ss : List TokenShape) : List TokenShape :=
  ss.dropLast ++ ss.getLast?.toList.map fun s => { s with comments := s.comments ++ comments }

/-- The token of a lexeme, if no comment stands in front of it. -/
def shape? : Lexeme → Option TokenShape
  | token k s _ => some ⟨k, s, []⟩
  | _ => none

def isComment : Lexeme → Bool
  | comment _ _ => true
  | _ => false

theorem shapes_eq_filterMap {ls : List Lexeme} (h : ∀ l ∈ ls, l.isComment = false) :
    shapes [] ls = ls.filterMap shape? := by
  induction ls with
  | nil => rfl
  | cons l ls ih =>
    have hls := ih fun m hm => h m (List.mem_cons_of_mem l hm)
    cases l with
    | blank c => exact hls
    | comment s cs => cases h (comment s cs) (by simp)
    | token k s cs => exact congrArg (⟨k, s, []⟩ :: ·) hls

def isLineEnd (c : Char) : Bool := c == '\n' || c == '\r'

/-- Every comment starts a line, and no semicolon stands behind it. `fresh` tells that no token stands in
the current line, and `pending` that there are comments without a token. -/
def Settled (fresh pending : Bool) : List Lexeme → Prop
  | [] => True
  | blank c :: ls => Settled (fresh || isLineEnd c) pending ls
  | comment _ _ :: ls => fresh = true ∧ Settled true true ls
  | token k _ _ :: ls => (k = .mark ";" → pending = false) ∧ Settled false false ls

end Lexeme

namespace Lexer

open Lexeme

/-- Further characters can only add line breaks. -/
theorem breaksBetween_append (pre cs rest : List Char) {start : Nat} (h : start ≤ pre.length) :
    breaksBetween (pre ++ (cs ++ rest)) start (pre.length + cs.length) =
      (breaksBetween (pre ++ (cs ++ rest)) start pre.length || cs.any isLineEnd) := by
  have hpre (n : Nat) : ((pre ++ (cs ++ rest)).drop start).take (pre.length + n - start) =
      pre.drop start ++ (cs ++ rest).take n := by
    rw [List.drop_append_of_le_length h, List.take_append, List.length_drop,
      List.take_of_length_le (by rw [List.length_drop]; omega)]
    congr 2
    omega
  have hcs := hpre cs.length
  have hzero := hpre 0
  rw [Nat.add_zero] at hzero
  rw [breaksBetween, breaksBetween, hcs, hzero, List.take_left, List.any_append, List.any_append,
    List.take_zero, List.any_nil, Bool.or_false]
  rfl

theorem comment_nil (ts : List Token) : comment [] ts = ts := by
  cases ts <;> simp [comment]

theorem shapes_comment (comments : List String) (ts : List Token) :
    (comment comments ts).reverse.map Token.shape = noteLast comments (ts.reverse.map Token.shape) := by
  cases ts with
  | nil => rfl
  | cons t ts => simp [comment, noteLast, Token.shape]

/-- Attaching comments, with the offset `pre.length` reached so far. -/
theorem attach_shapes (text : List Char) (ls : List Lexeme) (hne : ∀ l ∈ ls, l.written ≠ []) :
    ∀ (pre : List Char) (done : List Token) (reached : Nat) (pending : List String) (fresh : Bool),
      text = pre ++ allWritten ls → reached ≤ pre.length →
      (fresh = true → done = [] ∨ breaksBetween text reached pre.length = true) →
      Settled fresh (!pending.isEmpty) ls →
      (attach text done reached pending (itemsFrom pre.length ls)).map Token.shape =
        noteLast (unclaimed pending ls) (done.reverse.map Token.shape ++ shapes pending ls) := by
  induction ls with
  | nil =>
    intro pre done reached pending fresh htext hreached hfresh hsettled
    rw [itemsFrom, attach, shapes_comment, shapes, List.append_nil, unclaimed]
  | cons l ls ih =>
    intro pre done reached pending fresh htext hreached hfresh hsettled
    have hih := ih (fun m hm => hne m (List.mem_cons_of_mem l hm)) (pre ++ l.written)
    have hnext : text = pre ++ l.written ++ allWritten ls := by simpa using htext
    have hbreaks := breaksBetween_append pre l.written (allWritten ls) hreached
    rw [← allWritten_cons, ← htext] at hbreaks
    rw [List.length_append] at hih
    have hpos : 0 < l.written.length := List.length_pos_iff.mpr (hne l (by simp))
    cases l with
    | blank c =>
      refine hih done reached pending (fresh || isLineEnd c) hnext (by omega) (fun hor => ?_) hsettled
      rw [hbreaks]
      rcases Bool.or_eq_true _ _ ▸ hor with hfr | hend
      · rcases hfresh hfr with hdone | hbr
        · exact Or.inl hdone
        · exact Or.inr (by rw [hbr, Bool.true_or])
      · exact Or.inr (by simp [written, hend])
    | comment s cs =>
      obtain ⟨rfl, hsettled⟩ := hsettled
      have hpend : (done.isEmpty || breaksBetween text reached pre.length) = true := by
        rcases hfresh rfl with rfl | hbr
        · rfl
        · rw [hbr, Bool.or_true]
      simp only [itemsFrom, item?, Option.toList_some, List.singleton_append, attach, hpend, if_true]
      refine hih done reached (pending ++ [s]) true hnext (by omega) (fun _ => ?_) ?_
      · rcases hfresh rfl with hdone | hbr
        · exact Or.inl hdone
        · exact Or.inr (by rw [hbreaks, hbr, Bool.true_or])
      · have hsome : (!(pending ++ [s]).isEmpty) = true := by cases pending <;> rfl
        rw [hsome]
        exact hsettled
    | token k s cs =>
      obtain ⟨hsemi, hsettled⟩ := hsettled
      have hstop : pre.length + (cs.length - 1) + 1 = pre.length + cs.length := by
        have : 0 < cs.length := hpos
        omega
      have hrest (t : Token) := hih (t :: done) (pre.length + cs.length) [] false hnext
        (Nat.le_refl _) (fun h => absurd h Bool.false_ne_true) hsettled
      simp only [itemsFrom, item?, Option.toList_some, List.singleton_append, attach, hstop]
      split
      · next hmark =>
        obtain ⟨hk, -⟩ : k = .mark ";" ∧ done ≠ [] := by simpa [Token.isMark] using hmark
        obtain rfl : pending = [] := by simpa using hsemi hk
        rw [comment_nil]
        refine (hrest _).trans ?_
        simp [shapes, unclaimed, Token.shape]
      · refine (hrest _).trans ?_
        simp [shapes, unclaimed, Token.shape]

theorem swallow_eq_self {d : Dialect} {text : List Char} {ts : List Token}
    (h : ∀ t ∈ ts, swallows d t = false) (fresh : Bool) : swallow d text fresh ts = ts := by
  induction ts generalizing fresh with
  | nil => rw [swallow]
  | cons t ts ih =>
    have ht := h t (by simp)
    rw [swallow]
    simp [ht, ih fun u hu => h u (by simp [hu])]

/-- The tokens of a script that is put together from lexemes. -/
theorem tokens?_of_cuts {d : Dialect} {ls : List Lexeme} (hcuts : Cuts d ls [])
    (hsettled : Settled true false ls)
    (hkinds : ∀ s ∈ noteLast (unclaimed [] ls) (shapes [] ls),
      swallows d ⟨s.kind, s.text, 0, 0, []⟩ = false) :
    ∃ ts, tokens? d (allWritten ls) = some ts ∧
      ts.map Token.shape = noteLast (unclaimed [] ls) (shapes [] ls) := by
  have hattach := attach_shapes (allWritten ls) ls hcuts.written_ne_nil [] [] 0 [] true rfl
    (Nat.le_refl _) (fun _ => Or.inl rfl) hsettled
  rw [List.reverse_nil, List.map_nil, List.nil_append, List.length_nil] at hattach
  refine ⟨_, by rw [tokens?, items_of_cuts hcuts 0, Option.map_some], ?_⟩
  rw [swallow_eq_self, hattach]
  intro t ht
  have hshape := hkinds t.shape (hattach ▸ List.mem_map_of_mem ht)
  simpa [swallows, Token.shape] using hshape

end Lexer

end SchemaDesk.Sql
