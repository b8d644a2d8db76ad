import Mathlib.Data.List.Forall2
import SchemaDesk.Proofs.Number.Exact
import SchemaDesk.Proofs.Schema.Identifier
import SchemaDesk.Schema.Encode
import SchemaDesk.Service.Request

/-!
Schemas on their way between a page and the service. Each table and each relation is sent in its checked form,
under either spelling of its fields, and a request with them has the schema that was sent.
-/

namespace SchemaDesk

/-! ### The same schema up to the notation of its positions -/

/-- A coordinate as a number. -/
def Coordinate.value? : Coordinate → Option ℚ
  | whole n => some n
  | real x => x.value?

/-- The coordinate is the value of a finite floating-point number. -/
def Coordinate.IsFinite (c : Coordinate) : Prop := ∃ x : Binary64, x.IsDouble ∧ x.value? = c.value?

/-- The same place. -/
def Position.SameAs (p q : Position) : Prop := p.x.value? = q.x.value? ∧ p.y.value? = q.y.value?

/-- The same table, at the same place on the canvas. -/
def Table.SameAs (t u : Table) : Prop :=
  { t with position := none } = { u with position := none } ∧ Option.Rel Position.SameAs t.position u.position

def Schema.SameAs (s u : Schema) : Prop :=
  List.Forall₂ Table.SameAs s.tables u.tables ∧ s.relations = u.relations

/-- The positions are finite and the actions are known ones. -/
structure Schema.IsSendable (s : Schema) : Prop where
  positions : ∀ t ∈ s.tables, ∀ p, t.position = some p → p.x.IsFinite ∧ p.y.IsFinite
  actions : ∀ r ∈ s.relations, ∃ a b : ReferentialAction, r.onDelete = some a.name ∧ r.onUpdate = some b.name

namespace Service

/-! ### Fields under a spelling -/

/-- The two spellings of the names of fields. -/
def IsSpelling (spelling : String → String) : Prop := spelling = Naming.camelCase ∨ spelling = fun name => name

/-- Fields whose names are spelled in some way. -/
def respelled (spelling : String → String) (fields : List (String × Value)) : List (String × Value) :=
  fields.map fun f => (spelling f.1, f.2)

/-- No name is taken for another one, however each of them is spelled. -/
def Apart (names : List String) : Prop :=
  ∀ a ∈ names, ∀ b ∈ names, Naming.camelCase a = Naming.camelCase b ∨ Naming.camelCase a = b → a = b

instance (names : List String) : Decidable (Apart names) :=
  inferInstanceAs (Decidable (∀ a ∈ names, ∀ b ∈ names, _))

theorem lookup_respelled {spelling : String → String} {fields : List (String × Value)} {name : String}
    (h : ∀ a ∈ fields.map (·.1), spelling a = spelling name → a = name) :
    (respelled spelling fields).lookup (spelling name) = fields.lookup name := by
  induction fields with
  | nil => rfl
  | cons f fields ih =>
    rw [List.map_cons, List.forall_mem_cons] at h
    rw [respelled, List.map_cons, List.lookup_cons, List.lookup_cons]
    by_cases hname : f.1 = name
    · simp [hname]
    · have hspelled : (spelling name == spelling f.1) = false := by
        simpa using fun heq : spelling name = spelling f.1 => hname (h.1 heq.symm)
      have hother : (name == f.1) = false := by simpa using fun heq : name = f.1 => hname heq.symm
      rw [hspelled, hother]
      exact ih h.2

section Field

variable {α : Type} {spelling : String → String} {fields : List (String × Value)} {name : String} {c : Check α} {v : Value}
  {a : α}

/-- A field is found under either spelling. -/
theorem present?_respelled (hspelling : IsSpelling spelling) (hapart : Apart (fields.map (·.1)))
    (hv : fields.lookup name = some v) (ha : c v = .valid a) :
    Check.present? name c (respelled spelling fields) = some (.valid a) := by
  have hname : name ∈ fields.map (·.1) := by
    obtain ⟨before, after, rfl, -⟩ := List.lookup_eq_some_iff.mp hv
    simp
  rw [Check.present?]
  rcases hspelling with rfl | rfl
  · have hlookup : (respelled Naming.camelCase fields).lookup (Naming.camelCase name) = some v :=
      (lookup_respelled fun b hb heq => hapart b hb name hname (Or.inl heq)).trans hv
    simp [hlookup, ha, Checked.within]
  · have hself : respelled (fun name => name) fields = fields := List.map_id _
    rw [hself]
    by_cases hsame : Naming.camelCase name = name
    · simp [hsame, hv, ha, Checked.within]
    · have hnone : fields.lookup (Naming.camelCase name) = none := by
        refine List.lookup_eq_none_iff.mpr fun f hf => bne_iff_ne.mpr fun heq => hsame ?_
        rw [heq]
        exact (hapart name hname f.1 (List.mem_map_of_mem hf) (Or.inr heq)).symm
      simp [hnone, hv, ha, Checked.within]

theorem required_respelled (hspelling : IsSpelling spelling) (hapart : Apart (fields.map (·.1)))
    (hv : fields.lookup name = some v) (ha : c v = .valid a) :
    Check.required name c (respelled spelling fields) = .valid a := by
  rw [Check.required, present?_respelled hspelling hapart hv ha, Option.getD_some]

theorem withDefault_respelled {default : α} (hspelling : IsSpelling spelling) (hapart : Apart (fields.map (·.1)))
    (hv : fields.lookup name = some v) (ha : c v = .valid a) :
    Check.withDefault name c default (respelled spelling fields) = .valid a := by
  rw [Check.withDefault, present?_respelled hspelling hapart hv ha, Option.getD_some]

end Field

/-! ### Values -/

theorem optional_valid {α : Type} {c : Check α} {v : Value} {a : α} (hv : v ≠ .null) (ha : c v = .valid a) :
    Check.optional c v = .valid (some a) := by
  unfold Check.optional
  split
  · exact absurd rfl hv
  · rw [ha]
    rfl

theorem optional_optionalText (o : Option String) : Check.optional Check.text (Encoding.optionalText o) = .valid o := by
  cases o <;> rfl

theorem optional_optionalInt (o : Option Int) : Check.optional Check.whole (Encoding.optionalInt o) = .valid o := by
  cases o <;> rfl

theorem columnType_name (t : ColumnType) : Check.columnType (.text t.name) = .valid t := by
  have hread : ColumnType.ofName? t.name = some t := by cases t <;> decide +kernel
  simp only [Check.columnType, Check.choice, hread]

theorem relationKind_name (k : RelationKind) : Check.relationKind (.text k.name) = .valid k := by
  cases k <;> rfl

theorem actionName_name (a : ReferentialAction) : Check.actionName (.text a.name) = .valid (some a.name) := by
  cases a <;> rfl

/-- A check of a list gives what the checks of its items give. -/
theorem list_valid {α : Type} {c : Check α} {vs : List Value} {as : List α}
    (h : List.Forall₂ (fun v a => c v = .valid a) vs as) : Check.list c (.list vs) = .valid as := by
  have hitems (position : Nat) : Check.items c position vs = .valid as := by
    induction h generalizing position with
    | nil => rfl
    | cons ha _ ih =>
      rw [Check.items, ha, ih]
      rfl
  exact hitems 0

theorem map_valid {α β : Type} {f : α → β} {x : Checked α} {a : α} (hx : x = .valid a) : f <$> x = .valid (f a) := by
  rw [hx]
  rfl

theorem seq_valid {α β : Type} {f : Checked (α → β)} {x : Checked α} {g : α → β} {a : α} (hf : f = .valid g)
    (hx : x = .valid a) : f <*> x = .valid (g a) := by
  rw [hf, hx]
  rfl

/-! ### Tables and relations -/

variable {e : Encoding}

/-- An identifier is received as a text. -/
def received (idText : Id → String) (i : Id) : Id := .named (idText i)

theorem column_valid (he : IsSpelling e.fieldName) (c : Column) :
    Check.column (e.column c) = .valid (c.mapIds (received e.idText)) := by
  have hapart : Apart ["id", "name", "type", "primary_key", "nullable", "unique", "default", "length", "precision",
      "scale", "dimension"] := by decide +kernel
  refine seq_valid (seq_valid (seq_valid (seq_valid (seq_valid (seq_valid (seq_valid (seq_valid (seq_valid (seq_valid
    (map_valid ?id) ?name) ?type) ?primaryKey) ?nullable) ?unique) ?default) ?length) ?precision) ?scale) ?dimension
  case id | name => exact required_respelled he hapart rfl rfl
  case type => exact withDefault_respelled he hapart rfl (columnType_name _)
  case primaryKey | nullable | unique => exact withDefault_respelled he hapart rfl rfl
  case default => exact withDefault_respelled he hapart rfl (optional_optionalText _)
  case length | precision | scale | dimension => exact withDefault_respelled he hapart rfl (optional_optionalInt _)

/-- All but the position of a table is received as it is sent. -/
theorem table_valid (he : IsSpelling e.fieldName) (t : Table) {q : Option Position}
    (hq : Check.optional Check.position (Encoding.position t.position) = .valid q) :
    Check.table (e.table t) = .valid { t.mapIds (received e.idText) with position := q } := by
  have hapart : Apart ["id", "name", "color", "columns", "position", "parent_node"] := by decide +kernel
  have hcolumns : List.Forall₂ (fun v c => Check.column v = .valid c) (t.columns.map e.column)
      (t.columns.map (Column.mapIds (received e.idText))) := by
    rw [List.forall₂_map_left_iff, List.forall₂_map_right_iff]
    exact List.forall₂_same.mpr fun c _ => column_valid he c
  refine seq_valid (seq_valid (seq_valid (seq_valid (seq_valid (map_valid ?id) ?name) ?color) ?columns) ?position)
    ?parentNode
  case id | name => exact required_respelled he hapart rfl rfl
  case color => exact withDefault_respelled he hapart rfl rfl
  case columns => exact withDefault_respelled he hapart rfl (list_valid hcolumns)
  case position => exact withDefault_respelled he hapart rfl hq
  case parentNode => exact withDefault_respelled he hapart rfl (optional_optionalText _)

theorem relation_valid (he : IsSpelling e.fieldName) {r : Relation} {a b : ReferentialAction}
    (hdelete : r.onDelete = some a.name) (hupdate : r.onUpdate = some b.name) :
    Check.relation (e.relation r) = .valid (r.mapIds (received e.idText)) := by
  obtain ⟨id, sourceTableId, sourceColumnId, targetTableId, targetColumnId, type, onDelete, onUpdate, name⟩ := r
  obtain rfl : onDelete = some a.name := hdelete
  obtain rfl : onUpdate = some b.name := hupdate
  have hapart : Apart ["id", "source_table_id", "source_column_id", "target_table_id", "target_column_id", "type",
      "on_delete", "on_update", "name"] := by decide +kernel
  refine seq_valid (seq_valid (seq_valid (seq_valid (seq_valid (seq_valid (seq_valid (seq_valid
    (map_valid ?id) ?sourceTable) ?sourceColumn) ?targetTable) ?targetColumn) ?type) ?onDelete) ?onUpdate) ?name
  case id | sourceTable | sourceColumn | targetTable | targetColumn => exact required_respelled he hapart rfl rfl
  case type => exact withDefault_respelled he hapart rfl (relationKind_name _)
  case onDelete | onUpdate => exact withDefault_respelled he hapart rfl (actionName_name _)
  case name => exact withDefault_respelled he hapart rfl (optional_optionalText _)

/-! ### Positions -/

/-- A finite coordinate is received as a floating-point number of the same value. -/
theorem exists_real {c : Coordinate} (hc : c.IsFinite) :
    ∃ x : Binary64, Check.real (Encoding.coordinate c) = .valid x ∧ x.value? = c.value? := by
  cases c with
  | real x => exact ⟨x, rfl, rfl⟩
  | whole n =>
    obtain ⟨x, hx, hvalue⟩ := hc
    have hround := Binary64.value?_ofInt hx hvalue
    refine ⟨Binary64.ofInt n, ?_, hround⟩
    simp only [Encoding.coordinate, Check.real]
    split
    · next hinfinite =>
      rw [hinfinite] at hround
      cases hround
    · rfl

theorem position_valid {p : Position} {x y : Binary64} (hx : Check.real (Encoding.coordinate p.x) = .valid x)
    (hy : Check.real (Encoding.coordinate p.y) = .valid y) :
    Check.optional Check.position (Encoding.position (some p)) = .valid (some { x := .real x, y := .real y }) := by
  have hapart : Apart ["x", "y"] := by decide +kernel
  have hfields : Encoding.position (some p) = .record (respelled (fun name => name)
      [("x", Encoding.coordinate p.x), ("y", Encoding.coordinate p.y)]) := rfl
  rw [hfields]
  refine optional_valid nofun (seq_valid (map_valid ?x) ?y)
  case x => exact required_respelled (Or.inr rfl) hapart rfl hx
  case y => exact required_respelled (Or.inr rfl) hapart rfl hy

/-- A position is received at the same place, and sending it once more does not change it. -/
theorem exists_position {p : Option Position} (hp : ∀ q, p = some q → q.x.IsFinite ∧ q.y.IsFinite) :
    ∃ q, Check.optional Check.position (Encoding.position p) = .valid q ∧ Option.Rel Position.SameAs q p ∧
      Check.optional Check.position (Encoding.position q) = .valid q := by
  cases p with
  | none => exact ⟨none, rfl, .none, rfl⟩
  | some p =>
    obtain ⟨hx, hy⟩ := hp p rfl
    obtain ⟨x, hxread, hxvalue⟩ := exists_real hx
    obtain ⟨y, hyread, hyvalue⟩ := exists_real hy
    exact ⟨some { x := .real x, y := .real y }, position_valid hxread hyread, .some ⟨hxvalue, hyvalue⟩,
      position_valid rfl rfl⟩

/-! ### Schemas -/

/-- A table as it is sent: it is checked as it is held, and then written under a spelling. -/
def sentTable (idText : Id → String) (spelling : String → String) (t : Table) : Checked Value :=
  (Check.table (Encoding.table { idText, fieldName := fun name => name } t)).map
    (Encoding.table { idText, fieldName := spelling })

/-- A relation as it is sent. -/
def sentRelation (idText : Id → String) (spelling : String → String) (r : Relation) : Checked Value :=
  (Check.relation (Encoding.relation { idText, fieldName := fun name => name } r)).map
    (Encoding.relation { idText, fieldName := spelling })

theorem received_received {idText : Id → String} (hnamed : ∀ text, idText (.named text) = text) (i : Id) :
    received idText (received idText i) = received idText i := by
  simp only [received, hnamed]

/-- A table is sent in a form that is received as the same table. -/
theorem exists_table {idText : Id → String} (hnamed : ∀ text, idText (.named text) = text) {t : Table}
    (ht : ∀ p, t.position = some p → p.x.IsFinite ∧ p.y.IsFinite) :
    ∃ t' : Table, t'.SameAs (t.mapIds (received idText)) ∧ ∀ spelling, IsSpelling spelling →
      ∃ v, sentTable idText spelling t = .valid v ∧ Check.table v = .valid t' := by
  obtain ⟨q, hread, hsame, hagain⟩ := exists_position ht
  refine ⟨{ t.mapIds (received idText) with position := q }, ⟨rfl, hsame⟩, fun spelling hspelling => ?_⟩
  refine ⟨_, by rw [sentTable, table_valid (Or.inr rfl) t hread]; rfl, ?_⟩
  rw [table_valid hspelling _ hagain]
  simp [Table.mapIds, Column.mapIds, received_received hnamed, Function.comp_def]

/-- A relation is sent in a form that is received as the same relation. -/
theorem exists_relation {idText : Id → String} (hnamed : ∀ text, idText (.named text) = text) {r : Relation}
    {a b : ReferentialAction} (hdelete : r.onDelete = some a.name) (hupdate : r.onUpdate = some b.name)
    {spelling : String → String} (hspelling : IsSpelling spelling) :
    ∃ v, sentRelation idText spelling r = .valid v ∧ Check.relation v = .valid (r.mapIds (received idText)) := by
  refine ⟨_, by rw [sentRelation, relation_valid (Or.inr rfl) hdelete hupdate]; rfl, ?_⟩
  have hagain := relation_valid (e := { idText, fieldName := spelling }) (r := r.mapIds (received idText)) hspelling
    hdelete hupdate
  refine hagain.trans ?_
  simp [Relation.mapIds, received_received hnamed]

theorem exists_forall₂ {α β : Type} {R : α → β → Prop} {as : List α} (h : ∀ a ∈ as, ∃ b, R a b) :
    ∃ bs, List.Forall₂ R as bs := by
  induction as with
  | nil => exact ⟨[], .nil⟩
  | cons a as ih =>
    rw [List.forall_mem_cons] at h
    obtain ⟨b, hb⟩ := h.1
    obtain ⟨bs, hbs⟩ := ih h.2
    exact ⟨b :: bs, .cons hb hbs⟩

theorem exists_between {α β γ : Type} {P : α → β → Prop} {Q : β → γ → Prop} {as : List α} {cs : List γ}
    (h : List.Forall₂ (fun a c => ∃ b, P a b ∧ Q b c) as cs) :
    ∃ bs, List.Forall₂ P as bs ∧ List.Forall₂ Q bs cs := by
  induction h with
  | nil => exact ⟨[], .nil, .nil⟩
  | cons hac _ ih =>
    obtain ⟨b, hab, hbc⟩ := hac
    obtain ⟨bs, hP, hQ⟩ := ih
    exact ⟨b :: bs, .cons hab hP, .cons hbc hQ⟩

/-- The body of a request to write a schema. -/
def schemaBody (spelling : String → String) (tables relations : List Value) (dialect : String) : Value :=
  .record (respelled spelling [("tables", .list tables), ("relations", .list relations), ("dialect", .text dialect)])

/-- The body of a request to carry a schema over an edit. -/
def editBody (spelling : String → String) (tables relations : List Value) (earlier : Option String)
    (script dialect : String) : Value :=
  .record (respelled spelling [("tables", .list tables), ("relations", .list relations),
    ("original_sql", Encoding.optionalText earlier), ("sql", .text script), ("dialect", .text dialect)])

section Body

variable {spelling : String → String} {ts rs : List Value} {s : Schema}

theorem schemaRequest_valid (hspelling : IsSpelling spelling)
    (hts : List.Forall₂ (fun v t => Check.table v = .valid t) ts s.tables)
    (hrs : List.Forall₂ (fun v r => Check.relation v = .valid r) rs s.relations) (usual dialect : String) :
    Check.schemaRequest usual (schemaBody spelling ts rs dialect) = .valid { schema := s, dialect } := by
  have hapart : Apart ["tables", "relations", "dialect"] := by decide +kernel
  refine seq_valid (map_valid (seq_valid (map_valid ?tables) ?relations)) ?dialect
  case tables => exact withDefault_respelled hspelling hapart rfl (list_valid hts)
  case relations => exact withDefault_respelled hspelling hapart rfl (list_valid hrs)
  case dialect => exact withDefault_respelled hspelling hapart rfl rfl

theorem editRequest_valid (hspelling : IsSpelling spelling)
    (hts : List.Forall₂ (fun v t => Check.table v = .valid t) ts s.tables)
    (hrs : List.Forall₂ (fun v r => Check.relation v = .valid r) rs s.relations) (usual : String)
    (earlier : Option String) (script dialect : String) :
    Check.editRequest usual (editBody spelling ts rs earlier script dialect) =
      .valid { schema := s, earlier, script, dialect } := by
  have hapart : Apart ["tables", "relations", "original_sql", "sql", "dialect"] := by decide +kernel
  refine seq_valid (seq_valid (seq_valid (map_valid (seq_valid (map_valid ?tables) ?relations)) ?earlier) ?script) ?dialect
  case tables => exact withDefault_respelled hspelling hapart rfl (list_valid hts)
  case relations => exact withDefault_respelled hspelling hapart rfl (list_valid hrs)
  case earlier => exact withDefault_respelled hspelling hapart rfl (optional_optionalText _)
  case script => exact required_respelled hspelling hapart rfl rfl
  case dialect => exact withDefault_respelled hspelling hapart rfl rfl

end Body

/-- Nothing of a schema is lost on the way: whichever of the two spellings its parts are sent under, a request
with them has one and the same schema, and that is the one that was sent, up to the notation of its positions. -/
theorem exists_received {idText : Id → String} (hnamed : ∀ text, idText (.named text) = text) {s : Schema}
    (hs : s.IsSendable) :
    ∃ s' : Schema, s'.SameAs (s.mapIds (received idText)) ∧ ∀ spelling, IsSpelling spelling → ∃ ts rs,
      List.Forall₂ (fun t v => sentTable idText spelling t = .valid v) s.tables ts ∧
      List.Forall₂ (fun r v => sentRelation idText spelling r = .valid v) s.relations rs ∧
      (∀ usual dialect, Check.schemaRequest usual (schemaBody spelling ts rs dialect) =
        .valid { schema := s', dialect }) ∧
      ∀ usual earlier script dialect, Check.editRequest usual (editBody spelling ts rs earlier script dialect) =
        .valid { schema := s', earlier, script, dialect } := by
  obtain ⟨tables, htables⟩ := exists_forall₂ fun t ht => exists_table hnamed (hs.positions t ht)
  refine ⟨{ tables, relations := s.relations.map (Relation.mapIds (received idText)) }, ⟨?_, rfl⟩, ?_⟩
  · rw [Schema.mapIds, List.forall₂_map_right_iff]
    exact (htables.imp fun _ _ h => h.1).flip
  · intro spelling hspelling
    obtain ⟨ts, hsentTables, hts⟩ := exists_between (htables.imp fun _ _ h => h.2 spelling hspelling)
    have hrelations : List.Forall₂ (fun r r' => ∃ v, sentRelation idText spelling r = .valid v ∧
        Check.relation v = .valid r') s.relations (s.relations.map (Relation.mapIds (received idText))) := by
      rw [List.forall₂_map_right_iff]
      refine List.forall₂_same.mpr fun r hr => ?_
      obtain ⟨a, b, hdelete, hupdate⟩ := hs.actions r hr
      exact exists_relation hnamed hdelete hupdate hspelling
    obtain ⟨rs, hsentRelations, hrs⟩ := exists_between hrelations
    exact ⟨ts, rs, hsentTables, hsentRelations, schemaRequest_valid hspelling hts hrs,
      editRequest_valid hspelling hts hrs⟩

/-- Texts stand for themselves, numbered identifiers for their numbers. -/
def plainIdText : Id → String
  | .named text => text
  | .fresh serial => Text.natText serial

/-- A schema with a whole coordinate and a fraction, all optional parts, and a relation of a table to itself. -/
def canvas : Schema where
  tables := [
    { id := .named "é", name := "a table", color := "red", parentNode := some "group"
      position := some { x := .whole (-40), y := .real (.finite false 121 (-1)) }
      columns := [
        { id := .fresh 7, name := "id", type := .serial, primaryKey := true, nullable := false, unique := true },
        { id := .named "p", name := "parent", type := .decimal, default := some "0", length := some (-1)
          precision := some 10, scale := some 2, dimension := some 3 }] },
    { id := .named "", name := "" }]
  relations := [
    { id := .named "r", sourceTableId := .named "é", sourceColumnId := .named "p", targetTableId := .named "é"
      targetColumnId := .fresh 7, type := .manyToMany, onDelete := some "SET NULL", onUpdate := some "CASCADE"
      name := some "fk" }]

theorem isSendable_canvas : canvas.IsSendable := by
  constructor
  case positions =>
    simp only [canvas, List.forall_mem_cons, List.not_mem_nil, false_implies, implies_true, and_true]
    refine ⟨?_, nofun⟩
    rintro p ⟨⟩
    refine ⟨⟨.finite true 40 0, ⟨by decide, by decide, by decide⟩, ?_⟩,
      ⟨.finite false 121 (-1), ⟨by decide, by decide, by decide⟩, rfl⟩⟩
    simp [Binary64.value?, Coordinate.value?]
  case actions =>
    simp only [canvas, List.forall_mem_cons, List.not_mem_nil, false_implies, implies_true, and_true]
    exact ⟨.setNull, .cascade, rfl, rfl⟩

theorem exists_received_canvas :
    ∃ s' : Schema, s'.SameAs (canvas.mapIds (received plainIdText)) ∧ ∀ spelling, IsSpelling spelling → ∃ ts rs,
      List.Forall₂ (fun t v => sentTable plainIdText spelling t = .valid v) canvas.tables ts ∧
      List.Forall₂ (fun r v => sentRelation plainIdText spelling r = .valid v) canvas.relations rs ∧
      (∀ usual dialect, Check.schemaRequest usual (schemaBody spelling ts rs dialect) =
        .valid { schema := s', dialect }) ∧
      ∀ usual earlier script dialect, Check.editRequest usual (editBody spelling ts rs earlier script dialect) =
        .valid { schema := s', earlier, script, dialect } :=
  exists_received (fun _ => rfl) isSendable_canvas

end Service

end SchemaDesk
