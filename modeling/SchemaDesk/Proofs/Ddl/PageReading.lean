import SchemaDesk.Proofs.Ddl.Page
/-!
What the grammar makes of a whole script: the statements of its definitions in their order. A semicolon
with notes behind it is a statement of its own that says nothing.
-/

namespace SchemaDesk.Ddl

open Sql Sql.Reader Sql.Grammar Sql.Cursor

variable {d : Dialect} {us ts : List Token} {text : List Char}

namespace Definition

def IsRead (d : Dialect) : Definition → Prop
  | table t => t.IsRead d
  | key _ => True

def IsStuck (d : Dialect) : Definition → Prop
  | table t => t.IsStuck d
  | key _ => False

def statement (d : Dialect) : Definition → Statement
  | table t => t.statement d
  | key k => k.statement

theorem statementOfChunk_read {x : Definition} (hx : x.IsValid d) (hread : x.IsRead d)
    (hus : x.IsChunk us) (text : List Char) : statementOfChunk d text us = .ok (some (x.statement d)) := by
  cases x with
  | table t => exact CreateTable.statementOfChunk_read hx hread hus text
  | key k => exact AddKey.statementOfChunk_read hx hus text

theorem statementOfChunk_stuck {x : Definition} (hx : x.IsValid d) (hstuck : x.IsStuck d)
    (hus : x.IsChunk us) (text : List Char) : ∃ f, statementOfChunk d text us = .error f := by
  cases x with
  | table t => exact CreateTable.statementOfChunk_stuck hx hstuck hus text
  | key k => exact hstuck.elim

/-- No token of a definition is a semicolon. -/
theorem IsChunk.notMark {x : Definition} (hx : x.IsValid d) (hus : x.IsChunk us) :
    ∀ u ∈ us, u.isMark ";" = false := by
  obtain ⟨t, vs, rfl, hkind, -, hvs⟩ := hus
  intro u hu
  rcases List.mem_cons.mp hu with rfl | hu
  · simp [Token.isMark_eq, hkind]
  · have hmem : u.shape ∈ x.bodyShapes := hvs ▸ List.mem_map_of_mem hu
    have hinner : isInnerKind u.kind = true := Entry.isInnerKind_of_mem_bodyShapes hx hmem
    rw [Token.isMark_eq, beq_eq_false_iff_ne]
    intro hmark
    rw [hmark] at hinner
    cases hinner

end Definition

/-! ### Chunks -/

/-- The chunks of tokens that may be none. -/
def chunksOf (ts : List Token) : List (List Token) := if ts.isEmpty then [] else chunks ts

theorem chunks_append {s : Token} (hus : ∀ u ∈ us, u.isMark ";" = false) (hs : s.kind = .mark ";") :
    chunks (us ++ s :: ts) =
      us :: ((if s.comments.isEmpty then [] else [[s]]) ++ chunksOf ts) := by
  have hmark : s.isMark ";" = true := by simp [Token.isMark_eq, hs]
  induction us with
  | nil =>
    rw [List.nil_append, chunks, if_pos hmark]
    cases s.comments <;> rfl
  | cons u us ih =>
    rw [List.cons_append, chunks, if_neg (by simp [hus u]), ih fun v hv => hus v (by simp [hv])]

theorem statementOfChunk_semicolon {s : Token} (hs : s.kind = .mark ";") :
    statementOfChunk d text [s] = .ok (some (.other "semicolon")) := by
  have hmark : s.isMark ";" = true := by simp [Token.isMark_eq, hs]
  have hpeek : peek.run { rest := [s] } = .ok (some s, { rest := [s] }) := rfl
  have hstatement : (Grammar.statement (.ofSize d text [s].length)).run { rest := [s] } =
      .ok (some (.other "semicolon"), behind s []) := by
    rw [Grammar.statement, run_bind hpeek]
    simp only [hmark, if_true]
    rfl
  exact statementOfChunk_eq (a := .ok (.other "semicolon")) hstatement

/-- What the last semicolon may add. -/
def IsRemark (rest : List Statement) : Prop := rest = [] ∨ rest = [.other "semicolon"]

/-- The definitions of a script are read one after the other. -/
theorem mapM_chunksOf_read {xs : List Definition} (hsplits : Entry.Splits xs ts)
    (hvalid : ∀ x ∈ xs, x.IsValid d) (hread : ∀ x ∈ xs, x.IsRead d) (text : List Char) :
    ∃ found rest, (chunksOf ts).mapM (statementOfChunk d text) = .ok found ∧ IsRemark rest ∧
      found.filterMap id = xs.map (Definition.statement d) ++ rest := by
  induction hsplits with
  | nil => exact ⟨[], [], rfl, Or.inl rfl, rfl⟩
  | @cons x xs us ts s hus hs hcomments hsplits ih =>
    obtain ⟨found, rest, hfound, hrest, hxs⟩ :=
      ih (fun y hy => hvalid y (by simp [hy])) fun y hy => hread y (by simp [hy])
    have hx := hvalid x (by simp)
    have hstatement := Definition.statementOfChunk_read hx (hread x (by simp)) hus text
    have hchunks : chunksOf (us ++ s :: ts) =
        us :: ((if s.comments.isEmpty then [] else [[s]]) ++ chunksOf ts) := by
      rw [chunksOf, if_neg (by simp), chunks_append (hus.notMark hx) hs]
    rw [hchunks, List.mapM_cons, hstatement]
    rcases hcomments with hcomments | rfl
    · refine ⟨some (x.statement d) :: found, rest, ?_, hrest, congrArg (x.statement d :: ·) hxs⟩
      rw [hcomments, List.isEmpty_nil, if_pos rfl, List.nil_append, hfound]
      rfl
    · obtain rfl := hsplits.eq_nil
      by_cases hs' : s.comments.isEmpty = true
      · exact ⟨[some (x.statement d)], [], by rw [if_pos hs']; rfl, Or.inl rfl, rfl⟩
      · refine ⟨[some (x.statement d), some (.other "semicolon")], [.other "semicolon"], ?_, Or.inr rfl, rfl⟩
        rw [if_neg hs', List.singleton_append, List.mapM_cons, statementOfChunk_semicolon hs]
        rfl

/-- The first definition that is not read as a whole is a fault. -/
theorem mapM_chunksOf_stuck {xs : List Definition} (hsplits : Entry.Splits xs ts)
    (hvalid : ∀ x ∈ xs, x.IsValid d) (hread : ∀ x ∈ xs, x.IsRead d ∨ x.IsStuck d)
    (hstuck : ∃ x ∈ xs, x.IsStuck d) (text : List Char) :
    ∃ f, (chunksOf ts).mapM (statementOfChunk d text) = .error f := by
  induction hsplits with
  | nil =>
    obtain ⟨x, hx, -⟩ := hstuck
    cases hx
  | @cons x xs us ts s hus hs hcomments hsplits ih =>
    have hx := hvalid x (by simp)
    have hchunks : chunksOf (us ++ s :: ts) =
        us :: ((if s.comments.isEmpty then [] else [[s]]) ++ chunksOf ts) := by
      rw [chunksOf, if_neg (by simp), chunks_append (hus.notMark hx) hs]
    rw [hchunks, List.mapM_cons]
    by_cases hhead : x.IsStuck d
    · obtain ⟨f, hf⟩ := Definition.statementOfChunk_stuck hx hhead hus text
      exact ⟨f, by rw [hf]; rfl⟩
    · rw [Definition.statementOfChunk_read hx ((hread x (by simp)).resolve_right hhead) hus text]
      obtain ⟨y, hy, hystuck⟩ := hstuck
      have hy : y ∈ xs := (List.mem_cons.mp hy).resolve_left fun h => hhead (h ▸ hystuck)
      obtain ⟨f, hf⟩ := ih (fun z hz => hvalid z (by simp [hz])) (fun z hz => hread z (by simp [hz]))
        ⟨y, hy, hystuck⟩
      rcases hcomments with hcomments | rfl
      · refine ⟨f, ?_⟩
        rw [hcomments, List.isEmpty_nil, if_pos rfl, List.nil_append, hf]
        rfl
      · obtain rfl := hsplits.eq_nil
        cases hy

theorem script_eq (ts : List Token) (text : List Char) : Grammar.script d text ts =
    ((chunksOf ts).mapM (statementOfChunk d text)).map (·.filterMap id) := by
  have hbind (cs : List (List Token)) : (do
      let found ← cs.mapM (statementOfChunk d text)
      return found.filterMap id : Except SyntaxFault (List Statement)) =
        (cs.mapM (statementOfChunk d text)).map (·.filterMap id) := by
    cases cs.mapM (statementOfChunk d text) <;> rfl
  rw [Grammar.script, hbind]
  cases ts with
  | nil => rfl
  | cons t ts => rfl

/-- A script is read if all its definitions are. -/
theorem script_read {xs : List Definition} (hsplits : Entry.Splits xs ts)
    (hvalid : ∀ x ∈ xs, x.IsValid d) (hread : ∀ x ∈ xs, x.IsRead d) (text : List Char) :
    ∃ rest, IsRemark rest ∧
      Grammar.script d text ts = .ok (xs.map (Definition.statement d) ++ rest) := by
  obtain ⟨found, rest, hfound, hrest, hxs⟩ := mapM_chunksOf_read hsplits hvalid hread text
  exact ⟨rest, hrest, by rw [script_eq, hfound, ← hxs]; rfl⟩

/-- A script with a definition that is not read as a whole is a fault. -/
theorem script_stuck {xs : List Definition} (hsplits : Entry.Splits xs ts)
    (hvalid : ∀ x ∈ xs, x.IsValid d) (hread : ∀ x ∈ xs, x.IsRead d ∨ x.IsStuck d)
    (hstuck : ∃ x ∈ xs, x.IsStuck d) (text : List Char) : ∃ f, Grammar.script d text ts = .error f := by
  obtain ⟨f, hf⟩ := mapM_chunksOf_stuck hsplits hvalid hread hstuck text
  exact ⟨f, by rw [script_eq, hf]; rfl⟩

end SchemaDesk.Ddl
