/-!
Loggers by name. A logger gets its level when it is first asked for, and keeps it.
-/

namespace SchemaDesk

structure Logger where
  name : String
  level : Nat
  deriving DecidableEq, Repr

namespace Logger

def levels : List (String × Nat) := [
  ("CRITICAL", 50), ("FATAL", 50), ("ERROR", 40), ("WARNING", 30), ("WARN", 30), ("INFO", 20),
  ("DEBUG", 10), ("NOTSET", 0)]

def usualLevel : Nat := 20

def levelOf (name : String) : Nat := (levels.lookup name).getD usualLevel

/-- The root of all loggers is meant by the empty name as well. -/
def properName (name : String) : String := if name == "" then "root" else name

/-- The logger of that name, which is made with a level if it is not there yet. -/
def setUp (loggers : List Logger) (name level : String) : List Logger × Logger :=
  let name := properName name
  match loggers.find? fun l => l.name == name with
  | some l => (loggers, l)
  | none =>
    let l : Logger := ⟨name, levelOf level⟩
    (loggers ++ [l], l)

end Logger

end SchemaDesk
