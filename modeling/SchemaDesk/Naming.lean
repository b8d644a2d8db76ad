import SchemaDesk.Text.Case
import SchemaDesk.Text.Digit
/-!
Names that are derived from other names: unused ones, and ones without underscores.
-/

namespace SchemaDesk.Naming

/-- The parts between underscores joined, each but the first with a capital first letter. -/
def camelCase (s : String) : String :=
  match s.toList.splitOnP (· == '_') with
  | [] => ""
  | first :: rest =>
    String.ofList first ++ String.join (rest.map fun part => Text.capitalize (String.ofList part))

def numbered (base : String) (k : Nat) : String := base ++ "_" ++ Text.natText k

/-- No name of the list differs from `name` in letter case at most. -/
def isFree (existing : List String) (name : String) : Bool :=
  !existing.any fun other => Text.sameName other name

/-- The base name if it is free, else the free name `base_k` with the least `k` from 1 on. One more
candidate than there are names in the list is enough, since all candidates differ. -/
def unusedName (base : String) (existing : List String) : String :=
  if isFree existing base then base
  else
    match (List.range (existing.length + 1)).find? fun k =>
        isFree existing (numbered base (k + 1)) with
    | some k => numbered base (k + 1)
    | none => numbered base (existing.length + 1)

end SchemaDesk.Naming
