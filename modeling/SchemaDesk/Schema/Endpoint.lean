import SchemaDesk.Schema
/-!
The ends of relations. Two relations with the same pair of ends, in either direction, connect the
same columns, and a schema keeps one of them.
-/

namespace SchemaDesk

/-- A column together with the table to which it belongs. -/
structure Endpoint where
  table : Id
  column : Id
  deriving DecidableEq, Repr

namespace Relation

def source (r : Relation) : Endpoint := ⟨r.sourceTableId, r.sourceColumnId⟩

def target (r : Relation) : Endpoint := ⟨r.targetTableId, r.targetColumnId⟩

/-- Both relations connect the same two ends, in the same or in opposite directions. -/
def sameEndpoints (r s : Relation) : Bool :=
  (r.source == s.source && r.target == s.target) || (r.source == s.target && r.target == s.source)

/-- The ends of the relation are connected already. -/
def existsIn (r : Relation) (rs : List Relation) : Bool := rs.any fun s => s.sameEndpoints r

/-- Adds a relation at the end, unless its ends are connected already. -/
def addTo (r : Relation) (rs : List Relation) : List Relation :=
  if r.existsIn rs then rs else rs ++ [r]

/-- One of the ends is in the given table. -/
def touchesTable (r : Relation) (id : Id) : Bool := r.sourceTableId == id || r.targetTableId == id

def touchesColumn (r : Relation) (id : Id) : Bool :=
  r.sourceColumnId == id || r.targetColumnId == id

end Relation

end SchemaDesk
