import SchemaDesk.Text.Caseless
/-!
Referential actions in the text of a constraint.
-/

namespace SchemaDesk.Sql

/-- An action in a text: the event in small letters, and the action in capital ones. -/
structure ActionText where
  event : String
  action : String
  deriving DecidableEq, Repr

namespace ActionText

def actions : List (List String) :=
  [["cascade"], ["set", "null"], ["set", "default"], ["restrict"], ["no", "action"]]

/-- The action that starts the text, with the count of its characters. -/
def start? (cs : List Char) : Option (ActionText × Nat) := do
  let afterOn ← Text.dropSomeBlanks? (← Text.dropWords? ["on"] cs)
  let (event, rest) ← ["delete", "update"].findSome? fun event =>
    (Text.dropWords? [event] afterOn).map fun rest => (event, rest)
  let body ← Text.dropSomeBlanks? rest
  let rest ← actions.findSome? fun ws => Text.dropWords? ws body
  let written := String.ofList (body.take (body.length - rest.length))
  return (⟨event, Text.collapse (Text.upper written)⟩, cs.length - rest.length)

/-- All actions of a text in their order. -/
def all (s : String) : List ActionText := Text.allMatches start? 0 s.toList

end ActionText

end SchemaDesk.Sql
