import SchemaDesk.Text.Case
import SchemaDesk.Text.Blank
/-!
Settings from the environment.
-/

namespace SchemaDesk

structure Settings where
  /-- The dialect that is meant if none is named. -/
  defaultDialect : String := "PostgreSQL"
  logLevel : String := "INFO"
  /-- The pages that may send requests. -/
  origins : List String := ["http://localhost:3000"]
  deriving DecidableEq, Repr

namespace Settings

/-- The items between commas without blank margins, empty ones left out. -/
def commaItems (s : String) : List String :=
  ((s.toList.splitOnP (· == ',')).map fun cs => String.ofList (Text.stripChars cs)).filter (· != "")

/-- The settings of an environment; what it does not name is as usual. -/
def ofEnvironment (environment : List (String × String)) : Settings :=
  let usual : Settings := {}
  { defaultDialect := (environment.lookup "DBKEEP_DEFAULT_DIALECT").getD usual.defaultDialect
    logLevel := ((environment.lookup "DBKEEP_LOG_LEVEL").map Text.upper).getD usual.logLevel
    origins := ((environment.lookup "DBKEEP_CORS_ORIGINS").map commaItems).getD usual.origins }

end Settings

end SchemaDesk
