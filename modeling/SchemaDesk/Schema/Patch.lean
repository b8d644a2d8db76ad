import SchemaDesk.Schema
/-!
Changes to single tables, columns and relations: the fields that get another value. A patch never
changes an identifier.
-/

namespace SchemaDesk

/-- A name as it is given: missing names count as empty, and a name that is no text fails. -/
inductive GivenName
  | text (s : String)
  | missing
  | noText
  deriving DecidableEq, Repr

namespace GivenName

/-- The name without blank margins. -/
def read : GivenName → Except Failure String
  | text s => .ok (Text.strip s)
  | missing => .ok ""
  | noText => .error .unusableValue

end GivenName

structure ColumnPatch where
  id : Option Id := none
  name : Option GivenName := none
  type : Option ColumnType := none
  primaryKey : Option Bool := none
  nullable : Option Bool := none
  unique : Option Bool := none
  default : Option (Option String) := none
  length : Option (Option Int) := none
  precision : Option (Option Int) := none
  scale : Option (Option Int) := none
  dimension : Option (Option Int) := none
  /-- Columns have no field of some given name. -/
  unknownField : Bool := false
  deriving DecidableEq, Repr

namespace ColumnPatch

/-- The column with its new fields; `name` is the new name. -/
def apply (p : ColumnPatch) (name : String) (c : Column) : Except Failure Column :=
  if p.unknownField then .error .invalidArgument
  else .ok
    { c with
      name := name
      type := p.type.getD c.type
      primaryKey := p.primaryKey.getD c.primaryKey
      nullable := p.nullable.getD c.nullable
      unique := p.unique.getD c.unique
      default := p.default.getD c.default
      length := p.length.getD c.length
      precision := p.precision.getD c.precision
      scale := p.scale.getD c.scale
      dimension := p.dimension.getD c.dimension }

end ColumnPatch

structure TablePatch where
  id : Option Id := none
  name : Option GivenName := none
  color : Option String := none
  columns : Option (List Column) := none
  position : Option (Option Position) := none
  parentNode : Option (Option String) := none
  /-- Tables have no field of some given name. -/
  unknownField : Bool := false
  deriving DecidableEq, Repr

namespace TablePatch

/-- The table with its new fields; `name` is the new name. -/
def apply (p : TablePatch) (name : String) (t : Table) : Except Failure Table :=
  if p.unknownField then .error .invalidArgument
  else .ok
    { t with
      name := name
      color := p.color.getD t.color
      columns := p.columns.getD t.columns
      position := p.position.getD t.position
      parentNode := p.parentNode.getD t.parentNode }

end TablePatch

structure RelationPatch where
  id : Option Id := none
  sourceTableId : Option Id := none
  sourceColumnId : Option Id := none
  targetTableId : Option Id := none
  targetColumnId : Option Id := none
  type : Option RelationKind := none
  onDelete : Option (Option String) := none
  onUpdate : Option (Option String) := none
  name : Option (Option String) := none
  /-- Relations have no field of some given name. -/
  unknownField : Bool := false
  deriving DecidableEq, Repr

namespace RelationPatch

/-- The relation with its new fields. -/
def apply (p : RelationPatch) (r : Relation) : Except Failure Relation :=
  if p.unknownField then .error .invalidArgument
  else .ok
    { r with
      sourceTableId := p.sourceTableId.getD r.sourceTableId
      sourceColumnId := p.sourceColumnId.getD r.sourceColumnId
      targetTableId := p.targetTableId.getD r.targetTableId
      targetColumnId := p.targetColumnId.getD r.targetColumnId
      type := p.type.getD r.type
      onDelete := p.onDelete.getD r.onDelete
      onUpdate := p.onUpdate.getD r.onUpdate
      name := p.name.getD r.name }

/-- A new relation with the fields of the patch. It has the identifier of the patch, or else the
given one, and its ends are empty unless the patch names them. -/
def create (p : RelationPatch) (id : Id) : Except Failure Relation :=
  let noId := Id.named ""
  p.apply
    { id := p.id.getD id
      sourceTableId := noId
      sourceColumnId := noId
      targetTableId := noId
      targetColumnId := noId }

end RelationPatch

end SchemaDesk
