import SchemaDesk.Proofs.Ddl.AlterationReading
import SchemaDesk.Proofs.Ddl.KeyText
import SchemaDesk.Proofs.Ddl.TableDescription
/-!
How the statements that add foreign keys are described, and which foreign keys the descriptions give.
-/

namespace SchemaDesk.Ddl.AddKey

open Sql

variable {d : Dialect} {k : AddKey}

/-- The description of the foreign key itself. -/
def keyDescription (k : AddKey) : Value :=
  Describe.constraint (some k.constraintName) "FOREIGN KEY"
    [("definition", .list [Describe.columnRef k.column]),
     ("reference_definition", .record [
        ("table", .list [.record [("table", .text k.target)]]),
        ("definition", .list [Describe.columnRef k.targetColumn]),
        ("on_action", .list ((k.actions.map actionText).map Describe.action))])]

/-- The description of the item that adds the foreign key. -/
def itemDescription (k : AddKey) : Value :=
  .record [("action", .text "add"), ("resource", .text "constraint"),
    ("constraint_type", .text "FOREIGN KEY"), ("create_definitions", k.keyDescription)]

def description (k : AddKey) : Value :=
  Describe.tagged "alter" [("table", .list [.record [("table", .text k.table)]]),
    ("expr", .list [k.itemDescription])]

theorem IsValid.ne_empty (hk : k.IsValid d) : k.table ≠ "" ∧ k.column ≠ "" ∧ k.target ≠ "" ∧ k.targetColumn ≠ "" :=
  ⟨(hk k.table (by simp)).ne_empty, (hk k.column (by simp)).ne_empty, (hk k.target (by simp)).ne_empty,
    (hk k.targetColumn (by simp)).ne_empty⟩

theorem constraintName_ne_empty (k : AddKey) : k.constraintName ≠ "" := by
  intro h
  have hlist := congrArg String.toList h
  simp [constraintName] at hlist

theorem statement_eq (hk : k.IsValid d) (types : SourceType.Types) :
    Describe.statement d types k.statement = .ok k.description := by
  obtain ⟨htable, hcolumn, htarget, htargetColumn⟩ := hk.ne_empty
  have href (s : String) (hs : s ≠ "") : Describe.tableRef (tableNamed s) = .list [.record [("table", .text s)]] := by
    rw [Describe.tableRef, tableNamed, if_neg (by simpa using hs)]
  have hrefs (s : String) (hs : s ≠ "") :
      Describe.columnRefs [.name { text := s }] = .list [Describe.columnRef s] :=
    @Line.columnRefs_names [s] (by simpa using hs)
  have hname : Describe.nameText (some { text := k.constraintName }) = some k.constraintName := by
    simp [Describe.nameText, k.constraintName_ne_empty]
  have hreference : Describe.reference (reference k.target k.targetColumn k.actions) (k.clause.render d) =
      .record [("table", .list [.record [("table", .text k.target)]]),
        ("definition", .list [Describe.columnRef k.targetColumn]),
        ("on_action", .list ((k.actions.map actionText).map Describe.action))] := by
    rw [Describe.reference, reference, href _ htarget, hrefs _ htargetColumn, actionText_all hk]
  have hrule : Describe.tableRule d (some k.constraintName) (.foreignKey k.clause) = k.keyDescription := by
    show Describe.constraint _ _ (("definition", Describe.columnRefs [.name { text := k.column }]) ::
      [("reference_definition", Describe.reference (reference k.target k.targetColumn k.actions)
        (k.clause.render d))]) = _
    rw [hrefs _ hcolumn, hreference]
    rfl
  rw [statement, Describe.statement]
  simp only [Option.map_some, href _ htable, Option.getD_some, List.map_cons, List.map_nil, hname, hrule]
  rfl

/-! ### The foreign key -/

/-- The wording of an action, if there is one. -/
def wording (a : Option ReferentialAction) : Option String := a.map (·.name)

/-- The foreign key that the statement adds. -/
def foreignKey (k : AddKey) : ForeignKey :=
  { column := k.column
    targetTable := k.target
    targetColumn := k.targetColumn
    actions := { onDelete := wording k.onDelete, onUpdate := wording k.onUpdate }
    name := some k.constraintName }

/-- The description of the actions for both events. -/
def actionDescriptions (onDelete onUpdate : Option ReferentialAction) : List Value :=
  ((onDelete.toList.map (fun a => (Event.delete, a)) ++
    onUpdate.toList.map fun a => (Event.update, a)).map actionText).map Describe.action

theorem lastWording?_actionDescriptions (onDelete onUpdate : Option ReferentialAction) :
    Actions.lastWording? Actions.isDelete (actionDescriptions onDelete onUpdate) = wording onDelete ∧
      Actions.lastWording? Actions.isUpdate (actionDescriptions onDelete onUpdate) = wording onUpdate := by
  rcases onDelete with - | - | - | - | - <;> rcases onUpdate with - | - | - | - | - <;> decide

/-- The actions are found again in the description of a reference. -/
theorem ofReference_actions (onDelete onUpdate : Option ReferentialAction) (table definition : Value)
    (item : Value) (hdelete : item.get "on_delete" = .null) (hupdate : item.get "on_update" = .null) :
    Actions.ofReference (.record [("table", table), ("definition", definition),
      ("on_action", .list (actionDescriptions onDelete onUpdate))]) item =
        { onDelete := wording onDelete, onUpdate := wording onUpdate } := by
  have hfirst (a : Option String) : firstSome [a, Actions.wording? .null, Actions.wording? .null] = a := by
    cases a <;> rfl
  obtain ⟨hlastDelete, hlastUpdate⟩ := lastWording?_actionDescriptions onDelete onUpdate
  rw [← hlastDelete, ← hlastUpdate, ← hfirst (Actions.lastWording? Actions.isDelete _),
    ← hfirst (Actions.lastWording? Actions.isUpdate _), Actions.ofReference, hdelete, hupdate]
  rfl

/-- A reference with a table and columns is read as it stands. -/
theorem tableReferenceOfValue?_eq_some {v item : Value} {table c : String} {cs : List String}
    (hv : v.isRecord = true) (htable : tableName? v = some table)
    (hcolumns : namesOf (Value.firstOf [v.get "definition", v.get "columns"]) = c :: cs) :
    TableReference.ofValue? v item =
      some { table := table, columns := c :: cs, actions := .ofReference v item } := by
  simp [TableReference.ofValue?, hv, htable, hcolumns]

theorem constraintOfValue?_keyDescription (hk : k.IsValid d) :
    TableConstraint.ofValue? k.keyDescription = some {
      kind := .foreignKey
      columns := [k.column]
      name := some k.constraintName
      reference := some { table := k.target, columns := [k.targetColumn], actions := k.foreignKey.actions } } := by
  obtain ⟨-, hcolumn, htarget, htargetColumn⟩ := hk.ne_empty
  have hupper : Text.upper "FOREIGN KEY" = "FOREIGN KEY" := by decide
  have htag : TableConstraint.tag k.keyDescription = "FOREIGN KEY" := hupper
  have hcolumns : namesOf (TableConstraint.source k.keyDescription) = [k.column] :=
    @Line.namesOf_columnRefs [k.column] (by simpa using hcolumn)
  have hname : (((k.keyDescription).get "constraint_name").orElse (k.keyDescription.get "name")).nameText? =
      some k.constraintName := by
    have hne := k.constraintName_ne_empty
    have hget : (k.keyDescription).get "constraint_name" = .text k.constraintName := rfl
    simp [hget, Value.orElse, Value.truthy, Value.nameText?, hne]
  have hreference : TableConstraint.referenceOf k.keyDescription =
      some { table := k.target, columns := [k.targetColumn], actions := k.foreignKey.actions } := by
    have hget : Value.firstOf [k.keyDescription.get "reference_definition", k.keyDescription.get "reference"] =
        .record [("table", .list [.record [("table", .text k.target)]]),
          ("definition", .list [Describe.columnRef k.targetColumn]),
          ("on_action", .list (actionDescriptions k.onDelete k.onUpdate))] := rfl
    have htable : tableName? (.record [("table", .list [.record [("table", .text k.target)]]),
        ("definition", .list [Describe.columnRef k.targetColumn]),
        ("on_action", .list (actionDescriptions k.onDelete k.onUpdate))]) = some k.target := by
      show (Value.record [("table", .text k.target)]).nameText? = some k.target
      simp [Value.nameText?, Value.nameField?, htarget, Value.isNull]
    have hnames : namesOf (.list [Describe.columnRef k.targetColumn]) = [k.targetColumn] :=
      @Line.namesOf_columnRefs [k.targetColumn] (by simpa using htargetColumn)
    have hactions := ofReference_actions k.onDelete k.onUpdate (.list [.record [("table", .text k.target)]])
      (.list [Describe.columnRef k.targetColumn]) k.keyDescription rfl rfl
    rw [TableConstraint.referenceOf, hget]
    refine (tableReferenceOfValue?_eq_some rfl htable hnames).trans ?_
    rw [hactions]
    rfl
  have hnot : TableConstraint.describesColumn k.keyDescription = false := rfl
  rw [TableConstraint.ofValue?, htag, hnot, if_neg (by simp [keyDescription, Describe.constraint, Value.isRecord])]
  show some (TableConstraint.ofKind .foreignKey _) = _
  rw [TableConstraint.ofKind, hcolumns, hname, hreference]
  rfl

theorem addedKey?_itemDescription (hk : k.IsValid d) :
    Extraction.addedKey? k.itemDescription = some k.foreignKey := by
  have hadd : Text.lower "add" = "add" := by decide
  have hupper : Text.upper "FOREIGN KEY" = "FOREIGN KEY" := by decide
  have htag : TableConstraint.tag k.itemDescription = "FOREIGN KEY" := hupper
  have hnot : TableConstraint.describesColumn k.itemDescription = false := rfl
  -- the item itself has no reference, only the key inside of it does
  have hitem : ∃ c, TableConstraint.ofValue? k.itemDescription = some c ∧ c.reference = none := by
    rw [TableConstraint.ofValue?, htag, hnot, if_neg (by simp [itemDescription, Value.isRecord])]
    exact ⟨_, rfl, rfl⟩
  obtain ⟨c, hitem, hreference⟩ := hitem
  have haction : Text.lower (((k.itemDescription.get "action").orElse
      (k.itemDescription.get "keyword")).orElse (.text "")).display = "add" := hadd
  have hkey : k.itemDescription.get "create_definitions" = k.keyDescription := rfl
  rw [Extraction.addedKey?, haction, hkey]
  simp only [List.findSome?_cons, hitem, constraintOfValue?_keyDescription hk, Option.filter_some, hreference,
    Option.isSome_none, Bool.and_false, Bool.false_eq_true, if_false]
  rfl

theorem alteredKeys_description (hk : k.IsValid d) {sources : List TableSource} {s : TableSource}
    (hs : Extraction.findSource? sources k.table = some s) :
    Extraction.alteredKeys sources k.description = [(s, k.foreignKey)] := by
  have htable : tableName? k.description = some k.table := by
    show (Value.record [("table", .text k.table)]).nameText? = some k.table
    simp [Value.nameText?, Value.nameField?, hk.ne_empty.1, Value.isNull]
  have hexpr : (k.description.get "expr").asList = [k.itemDescription] := rfl
  have halters : Extraction.altersTable k.description = true := rfl
  rw [Extraction.alteredKeys, if_pos halters, htable, Option.getD_some, hs, hexpr]
  simp only [List.filterMap_cons, addedKey?_itemDescription hk, List.filterMap_nil, List.map_cons, List.map_nil]

end SchemaDesk.Ddl.AddKey
