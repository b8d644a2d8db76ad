import SchemaDesk.Proofs.Sql.ColumnDescription
/-!
The statements behind the tables of a script. A script is described statement by statement, and each table of its schema
is that of one of them.
-/

namespace SchemaDesk

open Sql Extraction

namespace Script

variable {d : Dialect} {text : List Char}

/-- The description of the statement that some tokens of a script are. -/
def description? (d : Dialect) (text : List Char) (tokens chunk : List Token) : Option Value :=
  match Grammar.statementOfChunk d text chunk with
  | .ok (some s) => (Describe.statement d (SourceType.all tokens) s).toOption
  | _ => none

theorem describe_eq_ok {types : SourceType.Types} {ss : List Statement} {vs : List Value}
    (h : describe d text types ss = .ok vs) : vs = ss.filterMap fun s => (Describe.statement d types s).toOption := by
  induction ss generalizing vs with
  | nil => exact (Except.ok.inj h).symm
  | cons s ss ih =>
    rw [describe] at h
    cases hcommand : checkCommand text s with
    | error f => rw [hcommand] at h; cases h
    | ok u =>
      cases hs : Describe.statement d types s with
      | error f => rw [hcommand, hs] at h; cases h
      | ok v =>
        cases hss : describe d text types ss with
        | error f => rw [hcommand, hs, hss] at h; cases h
        | ok ws =>
          rw [hcommand, hs, hss] at h
          obtain rfl := Except.ok.inj h
          rw [List.filterMap_cons, hs, ← ih hss]
          rfl

theorem filterMap_description? {tokens : List Token} {chunks : List (List Token)} {found : List (Option Statement)}
    (h : chunks.mapM (Grammar.statementOfChunk d text) = .ok found) :
    chunks.filterMap (description? d text tokens) = (found.filterMap id).filterMap fun s =>
      (Describe.statement d (SourceType.all tokens) s).toOption := by
  induction chunks generalizing found with
  | nil =>
    obtain rfl := Except.ok.inj h
    rfl
  | cons chunk chunks ih =>
    rw [List.mapM_cons] at h
    cases hchunk : Grammar.statementOfChunk d text chunk with
    | error f => rw [hchunk] at h; cases h
    | ok s =>
      cases hchunks : chunks.mapM (Grammar.statementOfChunk d text) with
      | error f => rw [hchunk, hchunks] at h; cases h
      | ok ss =>
        rw [hchunk, hchunks] at h
        obtain rfl := Except.ok.inj h
        cases s with
        | none =>
          have hnone : description? d text tokens chunk = none := by rw [description?, hchunk]
          rw [List.filterMap_cons_none hnone, ih hchunks]
          rfl
        | some s =>
          have hsome : description? d text tokens chunk =
              (Describe.statement d (SourceType.all tokens) s).toOption := by rw [description?, hchunk]
          rw [List.filterMap_cons, hsome, ih hchunks]
          rfl

/-- A script is described statement by statement. -/
theorem exists_of_read {script : String} {vs : List Value} (h : read d script = .ok vs) :
    ∃ tokens, Lexer.tokens? d script.toList = some tokens ∧
      vs = (Grammar.chunks tokens).filterMap (description? d script.toList tokens) := by
  rw [read, statements] at h
  cases htokens : Lexer.tokens? d script.toList with
  | none => rw [htokens] at h; cases h
  | some tokens =>
    rw [htokens] at h
    dsimp only at h
    rw [Grammar.script] at h
    cases hchunks : (Grammar.chunks tokens).mapM (Grammar.statementOfChunk d script.toList) with
    | error f => rw [hchunks] at h; cases h
    | ok found =>
      rw [hchunks] at h
      refine ⟨tokens, rfl, ?_⟩
      rw [filterMap_description? hchunks]
      exact describe_eq_ok h

/-- The statement that some tokens are is the one that the table comes from: it creates the table, and none of the
statements before it gives a table of that name. -/
structure Defines (d : Dialect) (text : List Char) (tokens : List Token) (before : List (List Token))
    (chunk : List Token) (table : TableName) (items : List TableItem) (t : Table) : Prop where
  read : Grammar.statementOfChunk d text chunk = .ok (some (.createTable table items))
  taken : ∃ v, Describe.statement d (SourceType.all tokens) (.createTable table items) = .ok v ∧
    IsTakenFrom (before.filterMap (description? d text tokens)) v t

theorem exists_statement_of_description? {tokens chunk : List Token} {v : Value}
    (h : description? d text tokens chunk = some v) : ∃ s, Grammar.statementOfChunk d text chunk = .ok (some s) ∧
      Describe.statement d (SourceType.all tokens) s = .ok v := by
  rw [description?] at h
  split at h
  · next s hs =>
    refine ⟨s, hs, ?_⟩
    cases hv : Describe.statement d (SourceType.all tokens) s with
    | error f => rw [hv] at h; cases h
    | ok w =>
      rw [hv] at h
      exact congrArg Except.ok (Option.some.inj h)
  · cases h

/-- Only a definition of a table gives one. -/
theorem exists_createTable {types : SourceType.Types} {s : Statement} {v : Value} {name : String}
    (h : Describe.statement d types s = .ok v) (hcreates : createsTable v = true) (hname : tableName? v = some name) :
    ∃ table items, s = .createTable table items := by
  cases s with
  | createTable table items => exact ⟨table, items, rfl⟩
  | create kind =>
    obtain rfl := Except.ok.inj h
    cases hname
  | alter | command =>
    obtain rfl := Except.ok.inj h
    cases hcreates
  | other kind =>
    obtain rfl := Except.ok.inj h
    cases hname

end Script

theorem Reading.exists_defines {serial next : Nat} {script : String} {d : Dialect} {s : Schema}
    (h : ofScript serial script d = .ok (.schema s, next)) {t : Table} (ht : t ∈ s.tables) :
    ∃ tokens before chunk after table items, Lexer.tokens? d script.toList = some tokens ∧
      Grammar.chunks tokens = before ++ chunk :: after ∧
      Script.Defines d script.toList tokens before chunk table items t := by
  rcases read_of_ofScript h with ⟨rfl, -⟩ | ⟨vs, hread, hstatements⟩
  · cases ht
  obtain ⟨tokens, htokens, hvs⟩ := Script.exists_of_read hread
  obtain ⟨front, v, back, hsplit, htaken⟩ := exists_statement hstatements ht
  rw [hsplit] at hvs
  obtain ⟨before, rest, hchunks, rfl, hrest⟩ := List.filterMap_eq_append_iff.mp hvs.symm
  obtain ⟨skipped, chunk, after, rfl, hskipped, hchunk, -⟩ := List.filterMap_eq_cons_iff.mp hrest
  obtain ⟨statement, hread, hdescribed⟩ := Script.exists_statement_of_description? hchunk
  obtain ⟨table, items, rfl⟩ := Script.exists_createTable hdescribed htaken.creates htaken.name_eq
  refine ⟨tokens, before ++ skipped, chunk, after, table, items, htokens, by rw [hchunks, List.append_assoc], hread, v,
    hdescribed, ?_⟩
  rwa [List.filterMap_append, List.filterMap_eq_nil_iff.mpr hskipped, List.append_nil]

end SchemaDesk
