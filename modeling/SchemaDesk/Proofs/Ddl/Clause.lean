import Mathlib.Data.List.Chain
import SchemaDesk.Proofs.Ddl.Literal
import SchemaDesk.Proofs.Sql.Reading.Key
/-!
The clauses behind the type of a column, and what the grammar makes of them.
-/

namespace SchemaDesk.Ddl

open Sql Sql.Reader Sql.Grammar Sql.Cursor

inductive Clause
  | key
  /-- The column counts up; the word for it has an underscore in MySQL. -/
  | counts (underscore : Bool)
  | notNull
  | unique
  /-- In MySQL, the word `DEFAULT` behind `UNIQUE` is the name of the key. -/
  | uniqueDefault
  /-- What is left of `DEFAULT NULL` there. -/
  | null
  | default (x : Literal)
  deriving DecidableEq

namespace Clause

def IsValid (d : Dialect) : Clause → Prop
  | default x => x.IsFound d
  | _ => True

def lexemes : Clause → List Lexeme
  | key => [.verbatim (.keyword "PRIMARY KEY") "PRIMARY KEY"]
  | counts true => [.verbatim (.keyword "AUTO_INCREMENT") "AUTO_INCREMENT"]
  | counts false => [.verbatim (.keyword "AUTO_INCREMENT") "AUTOINCREMENT"]
  | notNull => [.verbatim (.keyword "NOT") "NOT", .blank ' ', .verbatim (.type "NULL") "NULL"]
  | unique => [.verbatim (.keyword "UNIQUE") "UNIQUE"]
  | uniqueDefault =>
    [.verbatim (.keyword "UNIQUE") "UNIQUE", .blank ' ', .verbatim (.keyword "DEFAULT") "DEFAULT"]
  | null => [.verbatim (.type "NULL") "NULL"]
  | default x => .verbatim (.keyword "DEFAULT") "DEFAULT" :: .blank ' ' :: x.lexemes

def shapes (c : Clause) : List TokenShape := c.lexemes.filterMap Lexeme.shape?

def rule (d : Dialect) : Clause → Rule
  | key => .primaryKey
  | counts _ => .autoIncrement
  | notNull => .notNull
  | unique => .unique none none
  | uniqueDefault => .unique (some { text := "DEFAULT" }) none
  | null => .null
  | default x => .default (x.expr d)

/-- The first clause is read as itself in front of the second one. -/
def Fits (d : Dialect) : Clause → Clause → Prop
  | uniqueDefault, null => d = .mysql
  | uniqueDefault, _ => False
  | _, null => False
  | key, notNull => False
  | unique, default _ => d ≠ .mysql
  | unique, _ => False
  | _, _ => True

theorem cuts {d : Dialect} {c : Clause} (hc : c.IsValid d) {rest : List Char}
    (hrest : Lexer.Delimited rest) : Lexeme.Cuts d c.lexemes rest := by
  have hblank (cs : List Char) : Lexer.Delimited (' ' :: cs) := Lexer.delimited_cons rfl
  cases c with
  | key => exact ⟨Lexeme.phrase_cutBefore_of_mem d (by decide) hrest, trivial⟩
  | counts underscore =>
    cases underscore with
    | false => exact ⟨Lexeme.fixed_cutBefore d (by decide) hrest, trivial⟩
    | true => exact ⟨Lexeme.fixed_cutBefore d (by decide) hrest, trivial⟩
  | notNull =>
    exact ⟨Lexeme.fixed_cutBefore d (by decide) (hblank _), Lexeme.blank_cutBefore (by decide) _,
      Lexeme.fixed_cutBefore d (by decide) hrest, trivial⟩
  | unique => exact ⟨Lexeme.fixed_cutBefore d (by decide) hrest, trivial⟩
  | uniqueDefault =>
    exact ⟨Lexeme.fixed_cutBefore d (by decide) (hblank _), Lexeme.blank_cutBefore (by decide) _,
      Lexeme.fixed_cutBefore d (by decide) hrest, trivial⟩
  | null => exact ⟨Lexeme.fixed_cutBefore d (by decide) hrest, trivial⟩
  | default x =>
    exact ⟨Lexeme.fixed_cutBefore d (by decide) (hblank _), Lexeme.blank_cutBefore (by decide) _,
      Literal.cuts hc hrest⟩

end Clause

end SchemaDesk.Ddl

/-! ### What the grammar makes of clauses -/

namespace SchemaDesk.Ddl.Clause

open Sql Sql.Reader Sql.Grammar Sql.Cursor

variable {d : Dialect} {n : Nested} {columns : ColumnList} {l t : Token} {us ts : List Token}

/-- The constraint that a clause is read as. -/
def constraint (d : Dialect) (c : Clause) : ColumnConstraint := { name := none, rule := some (c.rule d) }

/-- The clause ends in front of the tokens. In MySQL, the word `DEFAULT` behind `UNIQUE` would be the
name of the key. -/
def EndsBefore (d : Dialect) (ts : List Token) : Clause → Prop
  | key => FollowedBy ts ∧ ∀ t ∈ ts.head?, t.kind ≠ .keyword "NOT"
  | unique => FollowedBy ts ∧ ∀ t ∈ ts.head?,
      t.kind = .mark "," ∨ t.kind = .mark ")" ∨ (t.kind = .keyword "DEFAULT" ∧ d ≠ .mysql)
  | uniqueDefault => d = .mysql ∧ ∀ t ∈ ts.head?,
      NoOption t ∧ t.isKeyword "USING" = false ∧ t.reads "ON" = false
  | null => True
  | _ => FollowedBy ts

theorem run_columnConstraint {k : TokenKind} {w : String} {ts' : List Token} {l' : Token} {r : Rule}
    (ht : t.Is k w) (hk : k ≠ .text ∧ k ≠ .keyword "CONSTRAINT") (hw : w ∈ Token.capitals)
    (hrule : (ruleWords d).contains w = true)
    (hrun : (ruleOf d n columns w).run (behind t ts') = .ok (some r, behind l' ts))
    (hl' : l'.comments = []) :
    (columnConstraint d n columns).run (behind l (t :: ts')) =
      .ok (some { name := none, rule := some r }, behind l' ts) := by
  have hconstraint : (do if ← keyword "CONSTRAINT" then anyName else return none : Reader _).run
      (behind l (t :: ts')) = .ok (none, behind l (t :: ts')) := by
    have hword : t.isKeyword "CONSTRAINT" = false := by simpa [Token.isKeyword_eq, ht.kind] using hk.2
    rw [keyword, run_bind (by rw [run_skipIf_cons, hword]; rfl)]
    rfl
  have hcaseless := ht.caseless hw
  have hone : (oneOf (ruleWords d)).run (behind l (t :: ts')) = .ok (some w, behind t ts') := by
    have htake : (t.kind != .text && (ruleWords d).contains t.caseless) = true := by
      simp [ht.kind, hk.1, hcaseless, List.contains_iff_mem.mp hrule]
    rw [oneOf, run_bind (by rw [run_takeIf_cons, if_pos htake])]
    simp only [hcaseless]
    rfl
  rw [columnConstraint, run_bind hconstraint, run_bind hone]
  simp only []
  rw [run_bind hrun]
  simp only []
  rw [run_bind (run_takeComments hl')]
  rfl

/-- The word `UNIQUE` stands for the key of its column. -/
theorem run_unique (k j : Nat) (hts : unique.EndsBefore d ts) :
    (ruleOf d (nested d (k + 2)) (columnGroup d n (j + 1)) "UNIQUE").run (behind l ts) =
      .ok (some (.unique none none), behind l ts) := by
  have hnext := @run_nextIs l ts fun t => (ruleWords d).contains (Text.upper t.text)
  show StateT.run (nextIs (fun t => (ruleWords d).contains (Text.upper t.text)) >>= _) (behind l ts) = _
  rw [run_bind hnext, StateT.run_map]
  by_cases halone : (d == .sqlite && (ts.head?.map fun t =>
      (ruleWords d).contains (Text.upper t.text)).getD false) = true
  · rw [halone]
    rfl
  · rw [Bool.not_eq_true] at halone
    rw [halone]
    have hname : (if d == .postgresql then pure none else name : Reader (Option Ident)).run
        (behind l ts) = .ok (none, behind l ts) := by
      by_cases hd : d = .postgresql
      · rw [hd]
        rfl
      · rw [if_neg (by simpa using hd)]
        refine run_nameAmong_none fun t ht => ?_
        rcases hts.2 t ht with hkind | hkind | ⟨hkind, hmysql⟩
        · simp [isNameWord, hkind]
        · simp [isNameWord, hkind]
        · have hsqlite : d = .sqlite := by cases d <;> simp_all
          obtain ⟨x, hx, hx'⟩ := hts.1 t ht
          have hdefault : ∀ x ∈ Token.followers, x.1 = .keyword "DEFAULT" → x.2 = "DEFAULT" := by decide
          have htext : t.text = "DEFAULT" :=
            hx'.text.trans (hdefault x hx (hx'.kind ▸ hkind))
          have hword : (ruleWords .sqlite).contains (Text.upper "DEFAULT") = true := by
            rw [Token.upper_capital "DEFAULT" (by decide)]
            decide
          rw [ht, hsqlite] at halone
          simp only [Option.map_some, Option.getD_some, htext, hword] at halone
          cases halone
    have hnot : ∀ t ∈ ts.head?, t.kind ≠ .keyword "NOT" := by
      intro t ht
      rcases hts.2 t ht with hkind | hkind | ⟨hkind, -⟩ <;> simp [hkind]
    rw [run_uniqueKey j (fun t ht w hw => (hts.1 t ht).reads_eq_false (by revert w; decide)) hname
      (fun t ht => noOption_of_follows (hts.1 t ht) (hnot t ht))
      (fun t ht => (hts.1 t ht).isKeyword_eq_false (by decide))
      (fun t ht => (hts.1 t ht).reads_eq_false (by decide))]
    rfl

/-- In MySQL, the word `DEFAULT` behind `UNIQUE` is a name. -/
theorem run_unique_default (k j : Nat) (hd : d = .mysql) (ht : t.Is (.keyword "DEFAULT") "DEFAULT")
    (hts : ∀ u ∈ ts.head?, NoOption u ∧ u.isKeyword "USING" = false ∧ u.reads "ON" = false) :
    (ruleOf d (nested d (k + 2)) (columnGroup d n (j + 1)) "UNIQUE").run (behind l (t :: ts)) =
      .ok (some (.unique (some { text := "DEFAULT" }) none), behind t ts) := by
  subst hd
  have hname : (if Dialect.mysql == .postgresql then pure none else name : Reader (Option Ident)).run
      (behind l (t :: ts)) = .ok (some { text := "DEFAULT" }, behind t ts) := by
    show name.run (behind l (t :: ts)) = _
    have hword : isNameWord t = true := by
      rw [isNameWord, ht.kind]
      decide
    rw [name, run_nameAmong ht.comments (by simp [ht.kind]) hword, ht.kind, ht.text]
    rfl
  show StateT.run (nextIs (fun t => (ruleWords .mysql).contains (Text.upper t.text)) >>= _) _ = _
  rw [run_bind (run_nextIs _), StateT.run_map, show (Dialect.mysql == .sqlite) = false from rfl,
    Bool.false_and, run_uniqueKey j ?_ hname (fun u hu => (hts u hu).1) (fun u hu => (hts u hu).2.1)
      fun u hu => (hts u hu).2.2]
  · rfl
  · intro u hu w hw
    obtain rfl : t = u := by simpa using hu
    rw [ht.reads (by decide) (by decide)]
    revert w
    decide

/-- The grammar takes a clause up to its end. -/
theorem takes_columnConstraint (k j : Nat) (c : Clause) (hus : us.map Token.shape = c.shapes)
    (hts : c.EndsBefore d ts) :
    Takes (columnConstraint d (nested d (k + 2)) (columnGroup d n (j + 1))) us ts
      (some (c.constraint d)) := by
  cases c with
  | key =>
    obtain ⟨hfollowed, hnot⟩ := hts
    obtain ⟨t, rfl, ht⟩ := List.map_eq_singleton_iff.mp hus
    have ht : t.Is (.keyword "PRIMARY KEY") "PRIMARY KEY" := Token.is_iff_shape.mpr ht
    refine .of_run_cons ht.comments fun l _ => run_columnConstraint ht (by decide) (by decide)
      (by cases d <;> decide) ?_ ht.comments
    have hrule (n : Nested) (cs : ColumnList) :
        ruleOf d n cs "PRIMARY KEY" = some <$> primaryKey d n := rfl
    rw [hrule, StateT.run_map, run_primaryKey hfollowed hnot]
    rfl
  | counts underscore =>
    have hrule (n : Nested) (cs : ColumnList) : ∀ w ∈ ["AUTO_INCREMENT", "AUTOINCREMENT"],
        ruleOf d n cs w = some <$> autoIncrement n := by
      simp only [List.mem_cons, List.not_mem_nil, or_false]
      rintro w (rfl | rfl) <;> rfl
    have hword {t : Token} {w : String} (ht : t.Is (.keyword "AUTO_INCREMENT") w)
        (hw : w ∈ ["AUTO_INCREMENT", "AUTOINCREMENT"]) (l : Token) :
        (columnConstraint d (nested d (k + 2)) (columnGroup d n (j + 1))).run (behind l (t :: ts)) =
          .ok (some { name := none, rule := some .autoIncrement }, behind t ts) := by
      have hall : ∀ w ∈ ["AUTO_INCREMENT", "AUTOINCREMENT"], w ∈ Token.capitals ∧
          (ruleWords d).contains w = true := by
        cases d <;> decide
      refine run_columnConstraint ht (by decide) (hall w hw).1 (hall w hw).2 ?_ ht.comments
      rw [hrule _ _ w hw, StateT.run_map, run_autoIncrement hts]
      rfl
    cases underscore with
    | false =>
      obtain ⟨t, rfl, ht⟩ := List.map_eq_singleton_iff.mp hus
      have ht := Token.is_iff_shape.mpr ht
      exact .of_run_cons ht.comments fun l _ => hword ht (by decide) l
    | true =>
      obtain ⟨t, rfl, ht⟩ := List.map_eq_singleton_iff.mp hus
      have ht := Token.is_iff_shape.mpr ht
      exact .of_run_cons ht.comments fun l _ => hword ht (by decide) l
  | notNull =>
    obtain ⟨t, us, rfl, ht, hus⟩ := List.map_eq_cons_iff.mp hus
    obtain ⟨u, rfl, hu⟩ := List.map_eq_singleton_iff.mp hus
    have ht : t.Is (.keyword "NOT") "NOT" := Token.is_iff_shape.mpr ht
    have hu : u.Is (.type "NULL") "NULL" := Token.is_iff_shape.mpr hu
    have hnull : (word "NULL").run (behind t (u :: ts)) = .ok (true, behind u ts) :=
      run_word (by rw [hu.reads (by decide) (by decide), beq_self_eq_true])
    have hrule (n : Nested) (cs : ColumnList) :
        (ruleOf d n cs "NOT").run (behind t (u :: ts)) = .ok (some .notNull, behind u ts) := by
      show StateT.run (word "NULL" >>= _) (behind t (u :: ts)) = _
      rw [run_bind hnull]
      rfl
    exact fun l _ => ⟨u, hu.comments, run_columnConstraint ht (by decide) (by decide)
      (by cases d <;> decide) (hrule _ _) hu.comments⟩
  | unique =>
    obtain ⟨t, rfl, ht⟩ := List.map_eq_singleton_iff.mp hus
    have ht : t.Is (.keyword "UNIQUE") "UNIQUE" := Token.is_iff_shape.mpr ht
    have hkey := run_unique (d := d) (n := n) (l := t) k j hts
    exact .of_run_cons ht.comments fun l _ => run_columnConstraint ht (by decide) (by decide)
      (by cases d <;> decide) hkey ht.comments
  | uniqueDefault =>
    obtain ⟨hd, hts⟩ := hts
    obtain ⟨t, us, rfl, ht, hus⟩ := List.map_eq_cons_iff.mp hus
    obtain ⟨u, rfl, hu⟩ := List.map_eq_singleton_iff.mp hus
    have ht : t.Is (.keyword "UNIQUE") "UNIQUE" := Token.is_iff_shape.mpr ht
    have hu : u.Is (.keyword "DEFAULT") "DEFAULT" := Token.is_iff_shape.mpr hu
    have hkey := run_unique_default (n := n) (l := t) k j hd hu hts
    exact fun l _ => ⟨u, hu.comments, run_columnConstraint ht (by decide) (by decide)
      (by cases d <;> decide) hkey hu.comments⟩
  | null =>
    obtain ⟨t, rfl, ht⟩ := List.map_eq_singleton_iff.mp hus
    have ht : t.Is (.type "NULL") "NULL" := Token.is_iff_shape.mpr ht
    exact .of_run_cons ht.comments fun l _ => run_columnConstraint ht (by decide) (by decide)
      (by cases d <;> decide) rfl ht.comments
  | default x =>
    obtain ⟨t, us, rfl, ht, hus⟩ := List.map_eq_cons_iff.mp hus
    have ht : t.Is (.keyword "DEFAULT") "DEFAULT" := Token.is_iff_shape.mpr ht
    intro l _
    obtain ⟨l', hl', hrun⟩ := Literal.takes_sum d k x hus hts t ht.comments
    have hrule (cs : ColumnList) : (ruleOf d (nested d (k + 2)) cs "DEFAULT").run
        (behind t (us ++ ts)) = .ok (some (.default (x.expr d)), behind l' ts) := by
      show StateT.run (required (sum d (nested d (k + 1))) >>= _) (behind t (us ++ ts)) = _
      rw [run_bind (run_required hrun)]
      rfl
    exact ⟨l', hl', run_columnConstraint ht (by decide) (by decide) (by cases d <;> decide) (hrule _)
      hl'⟩

/-! ### Several clauses -/

/-- The kind of the first token of a clause. -/
def firstKind : Clause → TokenKind
  | key => .keyword "PRIMARY KEY"
  | counts _ => .keyword "AUTO_INCREMENT"
  | notNull => .keyword "NOT"
  | unique | uniqueDefault => .keyword "UNIQUE"
  | null => .type "NULL"
  | default _ => .keyword "DEFAULT"

theorem exists_first {c : Clause} (hus : us.map Token.shape = c.shapes) :
    ∃ t vs, us = t :: vs ∧ t.kind = c.firstKind ∧ (c ≠ null → t.Follows) := by
  have hfirst : ∃ s ss, c.shapes = ⟨c.firstKind, s, []⟩ :: ss ∧
      (c ≠ null → (c.firstKind, s) ∈ Token.followers) := by
    cases c with
    | key | notNull | unique | uniqueDefault | default x => exact ⟨_, _, rfl, fun _ => by simp [firstKind, Token.followers]⟩
    | counts underscore => cases underscore <;> exact ⟨_, _, rfl, fun _ => by simp [firstKind, Token.followers]⟩
    | null => exact ⟨_, _, rfl, fun h => (h rfl).elim⟩
  obtain ⟨s, ss, hshapes, hfollows⟩ := hfirst
  rw [hshapes] at hus
  obtain ⟨t, vs, rfl, ht, -⟩ := List.map_eq_cons_iff.mp hus
  have ht := Token.is_iff_shape.mpr ht
  exact ⟨t, vs, rfl, ht.kind, fun h => ⟨_, hfollows h, ht⟩⟩

theorem noOption_null (ht : t.Is (.type "NULL") "NULL") :
    NoOption t ∧ t.isKeyword "USING" = false ∧ t.reads "ON" = false := by
  refine ⟨⟨by simp [Token.isKeyword_eq, ht.kind], fun ws hws w hw => ?_, by simp [Token.isMark_eq, ht.kind]⟩,
    by simp [Token.isKeyword_eq, ht.kind], by rw [ht.reads (by decide) (by decide)]; decide⟩
  rw [ht.reads (by decide) (by decide)]
  revert w ws
  decide

/-- A clause ends in front of one that fits behind it. -/
theorem Fits.endsBefore {c c' : Clause} (h : Fits d c c') (hus : us.map Token.shape = c'.shapes) :
    c.EndsBefore d (us ++ ts) := by
  obtain ⟨t, vs, rfl, hkind, hfollows⟩ := exists_first hus
  have hhead : ∀ u ∈ (t :: vs ++ ts).head?, t = u := by simp
  by_cases hnull : c' = null
  · subst hnull
    cases c with
    | null => trivial
    | uniqueDefault =>
      obtain ⟨u, hu, husub⟩ := List.map_eq_singleton_iff.mp hus
      obtain ⟨rfl, rfl⟩ : t = u ∧ vs = [] := by simpa using hu
      refine ⟨h, fun u hu => ?_⟩
      obtain rfl := hhead u hu
      exact noOption_null (Token.is_iff_shape.mpr husub)
    | key | counts | notNull | unique | default => cases h
  · have hfollowed : FollowedBy (t :: vs ++ ts) := fun u hu => hhead u hu ▸ hfollows hnull
    cases c with
    | key =>
      refine ⟨hfollowed, fun u hu => ?_⟩
      obtain rfl := hhead u hu
      rw [hkind]
      cases c' <;> first | exact h.elim | simp [firstKind]
    | unique =>
      refine ⟨hfollowed, fun u hu => ?_⟩
      obtain rfl := hhead u hu
      rw [hkind]
      cases c' with
      | default x => exact Or.inr (Or.inr ⟨rfl, h⟩)
      | null => exact (hnull rfl).elim
      | key | counts | notNull | unique | uniqueDefault => exact h.elim
    | uniqueDefault => cases c' <;> first | exact h.elim | exact (hnull rfl).elim
    | null => trivial
    | counts | notNull | default => exact hfollowed

/-- The clauses are read as themselves, one after the other. -/
def AllFit (d : Dialect) (cs : List Clause) : Prop := cs.IsChain (Fits d)

theorem length_le_of_shapes {cs : List Clause} (hus : us.map Token.shape = cs.flatMap shapes) :
    cs.length ≤ us.length := by
  induction cs generalizing us with
  | nil => simp
  | cons c cs ih =>
    obtain ⟨vs, ws, rfl, hvs, hws⟩ := List.map_eq_append_iff.mp hus
    obtain ⟨t, vs, rfl, -⟩ := exists_first hvs
    have := ih hws
    simp only [List.length_append, List.length_cons]
    omega

theorem takes_repeatFor (k j : Nat) (cs : List Clause) (hcs : AllFit d cs)
    (hus : us.map Token.shape = cs.flatMap shapes) (hlast : ∀ c ∈ cs.getLast?, c.EndsBefore d ts)
    (hstop : ∀ l : Token, (columnConstraint d (nested d (k + 2)) (columnGroup d n (j + 1))).run
      (behind l ts) = .ok (none, behind l ts)) (fuel : Nat) (hfuel : cs.length < fuel) :
    Takes (repeatFor (columnConstraint d (nested d (k + 2)) (columnGroup d n (j + 1))) fuel) us ts
      (cs.map (constraint d)) := by
  induction cs generalizing us fuel with
  | nil =>
    obtain rfl : us = [] := by simpa using hus
    exact .of_run fun l _ => run_repeatFor_none (hstop l) fuel
  | cons c cs ih =>
    obtain ⟨vs, ws, rfl, hvs, hws⟩ := List.map_eq_append_iff.mp hus
    obtain - | fuel := fuel
    · cases hfuel
    have hends : c.EndsBefore d (ws ++ ts) := by
      cases cs with
      | nil =>
        obtain rfl : ws = [] := by simpa using hws
        exact hlast c rfl
      | cons c' cs =>
        obtain ⟨xs, ys, rfl, hxs, -⟩ := List.map_eq_append_iff.mp hws
        rw [List.append_assoc]
        exact (List.isChain_cons_cons.mp hcs).1.endsBefore hxs
    have hrest := ih (List.IsChain.tail hcs) hws (fun c' hc' => hlast c' (by cases cs <;> simp_all)) fuel
      (Nat.lt_of_succ_lt_succ hfuel)
    rw [repeatFor]
    exact (takes_columnConstraint k j c hvs hends).bind (hrest.map (f := (c.constraint d :: ·)))

/-- The grammar takes all clauses if they fit and nothing behind them is one. -/
theorem takes_constraints (k j : Nat) {cs : List Clause} (hcs : AllFit d cs)
    (hus : us.map Token.shape = cs.flatMap shapes) (hlast : ∀ c ∈ cs.getLast?, c.EndsBefore d ts)
    (hstop : ∀ l : Token, (columnConstraint d (nested d (k + 2)) (columnGroup d n (j + 1))).run
      (behind l ts) = .ok (none, behind l ts)) :
    Takes (many (columnConstraint d (nested d (k + 2)) (columnGroup d n (j + 1)))) us ts
      (cs.map (constraint d)) := by
  intro l hl
  rw [many, run_bind run_remaining]
  refine takes_repeatFor k j cs hcs hus hlast hstop _ ?_ l hl
  have := length_le_of_shapes hus
  rw [List.length_append]
  omega

theorem run_columnConstraint_none {columns : ColumnList}
    (hname : ∀ t ∈ ts.head?, t.isKeyword "CONSTRAINT" = false)
    (hwords : ∀ t ∈ ts.head?, (t.kind != .text && (ruleWords d).contains t.caseless) = false) :
    (columnConstraint d n columns).run (behind l ts) = .ok (none, behind l ts) := by
  have hconstraint : (do if ← keyword "CONSTRAINT" then anyName else return none : Reader _).run
      (behind l ts) = .ok (none, behind l ts) := by
    rw [keyword, run_bind (run_skipIf_of_none hname)]
    rfl
  have hone : (oneOf (ruleWords d)).run (behind l ts) = .ok (none, behind l ts) := by
    rw [oneOf, run_bind (run_takeIf_of_none hwords)]
    rfl
  rw [columnConstraint, run_bind hconstraint, run_bind hone]
  rfl

/-- A comma or a closing parenthesis ends every clause. -/
theorem endsBefore_of_endsItem {c : Clause} (hc : c = uniqueDefault → d = .mysql) (hts : EndsItem ts) :
    c.EndsBefore d ts := by
  have hfollowed := hts.followedBy
  have hkind : ∀ t ∈ ts.head?, t.kind = .mark "," ∨ t.kind = .mark ")" := fun t ht =>
    (hts t ht).imp (fun h => (Token.is_iff_shape.mpr h).kind) fun h => (Token.is_iff_shape.mpr h).kind
  cases c with
  | key => exact ⟨hfollowed, fun t ht => by rcases hkind t ht with h | h <;> simp [h]⟩
  | unique => exact ⟨hfollowed, fun t ht => (hkind t ht).imp_right Or.inl⟩
  | uniqueDefault =>
    refine ⟨hc rfl, fun t ht => ⟨noOption_of_follows (hfollowed t ht) ?_,
      (hfollowed t ht).isKeyword_eq_false (by decide), (hfollowed t ht).reads_eq_false (by decide)⟩⟩
    rcases hkind t ht with h | h <;> simp [h]
  | null => trivial
  | counts | notNull | default => exact hfollowed

theorem run_columnConstraint_end {columns : ColumnList} (hts : EndsItem ts) :
    (columnConstraint d n columns).run (behind l ts) = .ok (none, behind l ts) := by
  have hcaseless : ∀ t ∈ ts.head?, t.caseless = "," ∨ t.caseless = ")" := fun t ht =>
    (hts t ht).imp (fun h => (Token.is_iff_shape.mpr h).caseless (by decide))
      fun h => (Token.is_iff_shape.mpr h).caseless (by decide)
  refine run_columnConstraint_none
    (fun t ht => (hts.followedBy t ht).isKeyword_eq_false (by decide)) fun t ht => ?_
  rcases hcaseless t ht with h | h <;> rw [h] <;> cases d <;> simp [ruleWords]

/-- Clauses at the end of a column. -/
theorem takes_constraints_end (k j : Nat) {cs : List Clause} (hcs : AllFit d cs)
    (hmysql : uniqueDefault ∈ cs → d = .mysql) (hus : us.map Token.shape = cs.flatMap shapes)
    (hts : EndsItem ts) :
    Takes (many (columnConstraint d (nested d (k + 2)) (columnGroup d n (j + 1)))) us ts
      (cs.map (constraint d)) :=
  takes_constraints k j hcs hus
    (fun _ hc => endsBefore_of_endsItem (fun h => hmysql (h ▸ List.mem_of_getLast? hc)) hts)
    fun _ => run_columnConstraint_end hts

end SchemaDesk.Ddl.Clause
