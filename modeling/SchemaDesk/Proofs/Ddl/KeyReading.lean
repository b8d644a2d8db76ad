import SchemaDesk.Proofs.Ddl.CreationReading
/-!
How the grammar reads a foreign key behind its first words: its column, the table and the column that it
refers to, and its actions.
-/

namespace SchemaDesk.Ddl

open Sql Sql.Reader Sql.Grammar Sql.Cursor
open Line (wordShape)

variable {d : Dialect} {n : Nested} {columns : ColumnList} {name : String} {l o i c t : Token}
  {us ts : List Token}

/-! ### Columns in parentheses -/

/-- The shapes of a name in parentheses. -/
def enclosedShapes (name : String) : List TokenShape := [.opening, wordShape name, .closing]

/-- A list of own columns is a list of names. -/
theorem takes_ownColumn (hus : us.map Token.shape = enclosedShapes name) :
    Takes (wrapped names) us ts [{ text := name }] := by
  obtain ⟨o, us, rfl, ho, hus⟩ := List.map_eq_cons_iff.mp hus
  obtain ⟨i, us, rfl, hi, hus⟩ := List.map_eq_cons_iff.mp hus
  obtain ⟨c, rfl, hc⟩ := List.map_eq_singleton_iff.mp hus
  have hi : i.Is .word name := Token.is_iff_shape.mpr hi
  have hcis : c.Is (.mark ")") ")" := Token.is_iff_shape.mpr hc
  have hnames : Takes names [i] (c :: ts) [{ text := name }] := by
    refine Takes.of_run_cons hi.comments fun l _ => ?_
    rw [names, run_bind (run_anyName hi), run_bind run_remaining]
    exact run_moreItems_end (by simp [Token.isMark_eq, hcis.kind]) _ _
  have hwrapped : Takes (wrapped names) (o :: ([i] ++ [c])) ts [{ text := name }] :=
    takes_wrapped ho hc hnames
  exact hwrapped

/-- No type starts where an item ends. -/
theorem run_type_none (hts : EndsItem ts) (k : Nat) :
    ((nested d (k + 1)).type true true).run (behind l ts) = .ok (none, behind l ts) := by
  have hmark : ∀ t ∈ ts.head?, ∃ m, t.kind = .mark m := fun t ht =>
    (hts t ht).elim (fun h => ⟨_, (Token.is_iff_shape.mpr h).kind⟩)
      fun h => ⟨_, (Token.is_iff_shape.mpr h).kind⟩
  have htake : (takeIf fun t => (typeWord? d t).isSome).run (behind l ts) = .ok (none, behind l ts) :=
    run_takeIf_of_none fun t ht => by
      obtain ⟨m, hm⟩ := hmark t ht
      simp [typeWord?, hm]
  have hname : (nameAmong (·.kind == .word)).run (behind l ts) = .ok (none, behind l ts) :=
    run_nameAmong_none fun t ht => by
      obtain ⟨m, hm⟩ := hmark t ht
      simp [hm]
  have hhead : (typeHead d true).run (behind l ts) = .ok (none, behind l ts) := by
    rw [typeHead, run_bind htake]
    simp only [Bool.not_true, Bool.false_eq_true, if_false]
    rw [run_bind hname]
    rfl
  show (typeWith d (nested d k) true true false).run (behind l ts) = _
  rw [typeWith, run_bind run_get, run_bind hhead]
  simp only []
  rw [run_bind run_backTo_self]
  rfl

/-- A column alone is a value. -/
theorem takesEach_column (k : Nat) (hname : IsPlain d name) :
    TakesEach (tableItems d (nested d (k + 1)) columns) (fun s => [wordShape s])
      (fun s => [.value none (.name { text := s })]) name := by
  intro us ts hus hts
  obtain ⟨t, rfl, ht⟩ := List.map_eq_singleton_iff.mp hus
  have ht : t.Is .word name := Token.is_iff_shape.mpr ht
  refine Takes.of_run_cons ht.comments fun l _ => ?_
  have hfor : (words ["FOR", "ORDINALITY"]).run (behind t ts) = .ok (false, behind t ts) :=
    hts.followedBy.run_words (by decide)
  have hcomputed : (computedColumn d (nested d (k + 1)) false).run (behind t ts) =
      .ok (none, behind t ts) :=
    Line.run_computedColumn_none false fun u hu => (hts.followedBy u hu).isKeyword_eq_false (by decide)
  have hmany : (many (columnConstraint d (nested d (k + 1)) columns)).run (behind t ts) =
      .ok ([], behind t ts) :=
    run_many_none (Clause.run_columnConstraint_end hts)
  have hitem : (columnItem d (nested d (k + 1)) columns (.name { text := name })).run (behind t ts) =
      .ok (.value none (.name { text := name }), behind t ts) := by
    rw [columnItem, run_bind (run_type_none hts k), run_bind hfor]
    simp only [Bool.false_eq_true, if_false, Option.isSome_none, Option.isNone_none]
    rw [run_bind hcomputed, run_bind hmany]
    rfl
  exact Line.run_tableItems_column hname ht
    (fun u hu => (hts.followedBy u hu).isMark_eq_false (by decide)) hitem

/-- The column that a foreign key refers to. -/
theorem takes_targetColumn (k j : Nat) (hname : IsPlain d name)
    (hus : us.map Token.shape = enclosedShapes name) :
    Takes (columnGroup d (nested d (k + 1)) (j + 1)) us ts
      (some { columns := [.name { text := name }] }) := by
  obtain ⟨o, us, rfl, ho, hus⟩ := List.map_eq_cons_iff.mp hus
  obtain ⟨i, us, rfl, hi, hus⟩ := List.map_eq_cons_iff.mp hus
  obtain ⟨c, rfl, hc⟩ := List.map_eq_singleton_iff.mp hus
  have hiis : i.Is .word name := Token.is_iff_shape.mpr hi
  have heach : ∀ z ∈ name :: ([] : List String),
      TakesEach (tableItems d (nested d (k + 1)) (columnGroup d (nested d (k + 1)) j))
        (fun s => [wordShape s]) (fun s => [.value none (.name { text := s })]) z := by
    intro z hz
    obtain rfl := List.mem_singleton.mp hz
    exact takesEach_column k hname
  have hdefinition : Takes (definition d (nested d (k + 1)) (columnGroup d (nested d (k + 1)) j))
      (o :: ([i] ++ [c])) ts (some ([.value none (.name { text := name })], [])) :=
    Line.takes_definition_items ho hc heach (by simpa using hi)
      (by simp [Token.isMark_eq, Token.isKeyword_eq, hiis.kind])
  rw [columnGroup]
  intro l hl
  obtain ⟨l', hl', hrun⟩ := hdefinition l hl
  exact ⟨l', hl', run_bind hrun _⟩

/-! ### Actions -/

/-- The shapes of the words of an action. -/
def wordShapes (a : ReferentialAction) : List TokenShape := (actionWords a).map fun w => ⟨w.2, w.1, []⟩

def actionShapes (x : Event × ReferentialAction) : List TokenShape :=
  ⟨.keyword "ON", "ON", []⟩ :: ⟨.keyword x.1.name, x.1.name, []⟩ :: wordShapes x.2

/-- An action as an option of a key. -/
def actionOption (x : Event × ReferentialAction) : String := "ON " ++ x.1.name ++ " " ++ x.2.name

theorem takes_keyAction (a : ReferentialAction) (hus : us.map Token.shape = wordShapes a) :
    Takes keyAction us ts a.name := by
  have hnot {t : Token} {vs : List Token} {s w : String} {ws : List String} {k : TokenKind} (l : Token)
      (ht : t.Is k s) (hk : k ≠ .text) (hs : s ∈ Token.capitals) (hw : s ≠ w) :
      (words (w :: ws)).run (behind l (t :: vs)) = .ok (false, behind l (t :: vs)) :=
    run_wordsFrom_of_none fun u hu => by
      obtain rfl : t = u := by simpa using hu
      simpa [ht.reads hk hs] using hw
  have hone {t : Token} {s : String} {k : TokenKind} (l : Token) (vs : List Token)
      (ht : t.Is k s) (hk : k ≠ .text) (hs : s ∈ Token.capitals) :
      (word s).run (behind l (t :: vs)) = .ok (true, behind t vs) :=
    run_word (by simp [ht.reads hk hs])
  have htwo {t u : Token} {s w : String} {k k' : TokenKind} (l : Token) (vs : List Token)
      (ht : t.Is k s) (hk : k ≠ .text) (hs : s ∈ Token.capitals) (hu : u.Is k' w) (hk' : k' ≠ .text)
      (hw : w ∈ Token.capitals) :
      (words [s, w]).run (behind l (t :: u :: vs)) = .ok (true, behind u vs) := by
    rw [words, run_bind run_get, run_wordsFrom_cons (by simp [ht.reads hk hs]),
      run_wordsFrom_cons (by simp [hu.reads hk' hw])]
    rfl
  intro l _
  cases a with
  | cascade =>
    obtain ⟨t, rfl, ht⟩ := List.map_eq_singleton_iff.mp hus
    have ht : t.Is .word "CASCADE" := Token.is_iff_shape.mpr ht
    refine ⟨t, ht.comments, ?_⟩
    rw [keyAction, List.singleton_append, run_bind (hnot l ht (by decide) (by decide) (by decide))]
    simp only [Bool.false_eq_true, if_false]
    rw [run_bind (hone l ts ht (by decide) (by decide))]
    rfl
  | setNull =>
    obtain ⟨t, us, rfl, ht, hus⟩ := List.map_eq_cons_iff.mp hus
    obtain ⟨u, rfl, hu⟩ := List.map_eq_singleton_iff.mp hus
    have ht : t.Is (.keyword "SET") "SET" := Token.is_iff_shape.mpr ht
    have hu : u.Is (.type "NULL") "NULL" := Token.is_iff_shape.mpr hu
    refine ⟨u, hu.comments, ?_⟩
    rw [keyAction, List.cons_append, List.singleton_append,
      run_bind (hnot l ht (by decide) (by decide) (by decide))]
    simp only [Bool.false_eq_true, if_false]
    rw [word, run_bind (hnot l ht (by decide) (by decide) (by decide))]
    simp only [Bool.false_eq_true, if_false]
    rw [word, run_bind (hnot l ht (by decide) (by decide) (by decide))]
    simp only [Bool.false_eq_true, if_false]
    rw [run_bind (htwo l ts ht (by decide) (by decide) hu (by decide) (by decide))]
    rfl
  | restrict =>
    obtain ⟨t, rfl, ht⟩ := List.map_eq_singleton_iff.mp hus
    have ht : t.Is .word "RESTRICT" := Token.is_iff_shape.mpr ht
    refine ⟨t, ht.comments, ?_⟩
    rw [keyAction, List.singleton_append, run_bind (hnot l ht (by decide) (by decide) (by decide))]
    simp only [Bool.false_eq_true, if_false]
    rw [word, run_bind (hnot l ht (by decide) (by decide) (by decide))]
    simp only [Bool.false_eq_true, if_false]
    rw [run_bind (hone l ts ht (by decide) (by decide))]
    rfl
  | noAction =>
    obtain ⟨t, us, rfl, ht, hus⟩ := List.map_eq_cons_iff.mp hus
    obtain ⟨u, rfl, hu⟩ := List.map_eq_singleton_iff.mp hus
    have ht : t.Is .word "NO" := Token.is_iff_shape.mpr ht
    have hu : u.Is .word "ACTION" := Token.is_iff_shape.mpr hu
    refine ⟨u, hu.comments, ?_⟩
    rw [keyAction, List.cons_append, List.singleton_append,
      run_bind (htwo l ts ht (by decide) (by decide) hu (by decide) (by decide))]
    rfl

theorem takes_keyOption (x : Event × ReferentialAction) (hus : us.map Token.shape = actionShapes x) :
    Takes keyOption us ts (some (actionOption x)) := by
  obtain ⟨e, a⟩ := x
  obtain ⟨t, us, rfl, ht, hus⟩ := List.map_eq_cons_iff.mp hus
  obtain ⟨u, us, rfl, hu, hus⟩ := List.map_eq_cons_iff.mp hus
  have ht : t.Is (.keyword "ON") "ON" := Token.is_iff_shape.mpr ht
  have hu : u.Is (.keyword e.name) e.name := Token.is_iff_shape.mpr hu
  intro l _
  have htakes : Takes keyAction us ts a.name := takes_keyAction a hus
  obtain ⟨l', hl', haction⟩ := htakes u hu.comments
  refine ⟨l', hl', ?_⟩
  have hon : (keyword "ON").run (behind l (t :: u :: us ++ ts)) = .ok (true, behind t (u :: us ++ ts)) := by
    rw [keyword, List.cons_append, run_skipIf_cons, if_pos (by simp [Token.isKeyword_eq, ht.kind])]
  have hevent : anyWord.run (behind t (u :: us ++ ts)) = .ok (some e.name, behind u (us ++ ts)) := by
    have htake : (!isReserved u) = true := by
      rw [isReserved, hu.kind]
      cases e <;> decide
    rw [anyWord, List.cons_append, run_bind (by rw [run_takeIf_cons, if_pos htake])]
    simp only [hu.text]
    rfl
  rw [keyOption, run_bind hon]
  simp only [if_true]
  rw [run_bind hevent, run_bind haction]
  rfl

theorem takes_repeatFor_keyOption (xs : List (Event × ReferentialAction)) (fuel : Nat)
    (hus : us.map Token.shape = xs.flatMap actionShapes) (hfuel : us.length < fuel) :
    Takes (repeatFor keyOption fuel) us [] (xs.map actionOption) := by
  induction xs generalizing us fuel with
  | nil =>
    obtain rfl : us = [] := by simpa using hus
    exact .of_run fun l _ => run_repeatFor_none (run_keyOption_none (by simp)) fuel
  | cons x xs ih =>
    obtain ⟨vs, ws, rfl, hvs, hws⟩ := List.map_eq_append_iff.mp hus
    obtain - | fuel := fuel
    · cases hfuel
    have hlength : 0 < vs.length := by
      have := congrArg List.length hvs
      simp only [actionShapes, List.length_map, List.length_cons] at this
      omega
    have hrest := ih fuel hws (by rw [List.length_append] at hfuel; omega)
    rw [repeatFor]
    exact (takes_keyOption x hvs).bind (hrest.map (f := (actionOption x :: ·)))

/-- All actions at the end of a statement are taken. -/
theorem takes_keyOptions (xs : List (Event × ReferentialAction))
    (hus : us.map Token.shape = xs.flatMap actionShapes) :
    Takes keyOptions us [] (xs.map actionOption) := by
  intro l hl
  obtain ⟨l', hl', hrun⟩ := takes_repeatFor_keyOption xs (us.length + 1) hus (by omega) l hl
  rw [List.append_nil] at hrun
  have hmany : (many keyOption).run (behind l us) = .ok (xs.map actionOption, behind l' []) := by
    rw [many, run_bind run_remaining]
    exact hrun
  refine ⟨l', hl', ?_⟩
  rw [keyOptions, List.append_nil, run_bind hmany, run_bind run_atEnd]
  rfl

/-! ### References and foreign keys -/

/-- The table and the column that a foreign key refers to, with its actions. -/
def referenceShapes (target column : String) (xs : List (Event × ReferentialAction)) : List TokenShape :=
  wordShape target :: (enclosedShapes column ++ xs.flatMap actionShapes)

def reference (target column : String) (xs : List (Event × ReferentialAction)) : Reference :=
  { table := tableNamed target, columns := [.name { text := column }], options := xs.map actionOption }

theorem takes_referenceClause (k j : Nat) {target column : String} {xs : List (Event × ReferentialAction)}
    (hcolumn : IsPlain d column) (hus : us.map Token.shape = referenceShapes target column xs) :
    Takes (referenceClause (columnGroup d (nested d (k + 1)) (j + 1))) us [] (reference target column xs) := by
  obtain ⟨t, us, rfl, ht, hus⟩ := List.map_eq_cons_iff.mp hus
  obtain ⟨vs, ws, rfl, hvs, hws⟩ := List.map_eq_append_iff.mp hus
  have ht : t.Is .word target := Token.is_iff_shape.mpr ht
  intro l _
  have htarget : Takes (columnGroup d (nested d (k + 1)) (j + 1)) vs ws
      (some { columns := [.name { text := column }] }) := takes_targetColumn k j hcolumn hvs
  obtain ⟨m, hm, hgroup⟩ := htarget t ht.comments
  obtain ⟨l', hl', hoptions⟩ := takes_keyOptions xs hws m hm
  rw [List.append_nil] at hoptions
  have hname : tableName.run (behind l (t :: (vs ++ ws))) = .ok (tableNamed target, behind t (vs ++ ws)) := by
    refine run_tableName ht fun u hu => ?_
    obtain ⟨o, vs, rfl, ho, -⟩ := List.map_eq_cons_iff.mp hvs
    obtain rfl : o = u := by simpa using hu
    simp [Token.isMark_eq, (Token.is_iff_shape.mpr ho).kind]
  have htable : (tableWithColumns (columnGroup d (nested d (k + 1)) (j + 1))).run
      (behind l (t :: (vs ++ ws))) =
        .ok ((tableNamed target, { columns := [.name { text := column }] }), behind m ws) := by
    rw [tableWithColumns, run_bind hname, run_bind hgroup]
    rfl
  refine ⟨l', hl', ?_⟩
  rw [referenceClause, List.append_nil, run_bind htable]
  simp only []
  rw [run_bind hoptions, run_bind (run_takeComments hl')]
  rfl

namespace AddKey

/-- The actions of the foreign key with their events. -/
def actions (k : AddKey) : List (Event × ReferentialAction) :=
  k.onDelete.toList.map (fun a => (.delete, a)) ++ k.onUpdate.toList.map fun a => (.update, a)

def keyShapes (k : AddKey) : List TokenShape :=
  enclosedShapes k.column ++
    ⟨.keyword "REFERENCES", "REFERENCES", []⟩ :: referenceShapes k.target k.targetColumn k.actions

def clause (k : AddKey) : ForeignKeyClause :=
  { columns := [{ text := k.column }], reference := some (reference k.target k.targetColumn k.actions)
    actions := [], options := [] }

theorem takes_foreignKey (m j : Nat) {k : AddKey} (hcolumn : IsPlain d k.targetColumn)
    (hus : us.map Token.shape = k.keyShapes) :
    Takes (foreignKey (columnGroup d (nested d (m + 1)) (j + 1))) us [] k.clause := by
  obtain ⟨vs, ws, rfl, hvs, hws⟩ := List.map_eq_append_iff.mp hus
  obtain ⟨r, ws, rfl, hr, hws⟩ := List.map_eq_cons_iff.mp hws
  have hr : r.Is (.keyword "REFERENCES") "REFERENCES" := Token.is_iff_shape.mpr hr
  intro l hl
  have htakes : Takes (wrapped names) vs (r :: ws) [{ text := k.column }] := takes_ownColumn hvs
  obtain ⟨i, hi, hown⟩ := htakes l hl
  obtain ⟨l', hl', hreference⟩ := takes_referenceClause m j hcolumn hws r hr.comments
  rw [List.append_nil] at hreference
  have hcolumns : (do if ← nextIsKeyword "REFERENCES" then return [] else wrapped names :
      Reader (List Ident)).run (behind l (vs ++ r :: ws)) = .ok ([{ text := k.column }], behind i (r :: ws)) := by
    have hnext : (nextIsKeyword "REFERENCES").run (behind l (vs ++ r :: ws)) =
        .ok (false, behind l (vs ++ r :: ws)) := by
      refine run_nextIs_of_none fun u hu => ?_
      obtain ⟨o, vs, rfl, ho, -⟩ := List.map_eq_cons_iff.mp hvs
      obtain rfl : o = u := by simpa using hu
      simp [Token.isKeyword_eq, (Token.is_iff_shape.mpr ho).kind]
    rw [run_bind hnext]
    exact hown
  have hkey : (do if ← keyword "REFERENCES" then
        return some (← referenceClause (columnGroup d (nested d (m + 1)) (j + 1))) else return none :
      Reader (Option Reference)).run (behind i (r :: ws)) =
        .ok (some (reference k.target k.targetColumn k.actions), behind l' []) := by
    rw [keyword, run_bind (by rw [run_skipIf_cons, if_pos (by simp [Token.isKeyword_eq, hr.kind])])]
    simp only [if_true]
    rw [run_bind hreference]
    rfl
  have hloose : (many looseAction).run (behind l' []) = .ok ([], behind l' []) := by
    refine run_many_none ?_
    rw [looseAction, keyword, run_bind (run_skipIf_nil _)]
    rfl
  refine ⟨l', hl', ?_⟩
  rw [foreignKey, List.append_nil, run_bind hcolumns, run_bind hkey, run_bind hloose,
    run_bind (run_keyOptions_none (by simp)), run_bind (run_takeComments hl')]
  rfl

end AddKey

end SchemaDesk.Ddl
