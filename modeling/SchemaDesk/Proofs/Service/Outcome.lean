import SchemaDesk.Proofs.Reading.Outcome
import SchemaDesk.Service
/-!
What becomes of a request whose body is well formed. A dialect that is not known is the fault of the request;
otherwise each call has its answer, unless a script that it reads has an odd numeral.
-/

namespace SchemaDesk

/-- Nothing comes of reading the script, neither a schema nor an error with a place. -/
def Script.Fails (d : Dialect) (script : String) : Prop :=
  Text.strip script ≠ "" ∧ Script.HasOddNumeral d script.toList

namespace Reading

variable {serial next : Nat} {script : String} {d : Dialect} {r : Reading}

theorem exists_ofScript_of_not_fails (h : ¬ Script.Fails d script) :
    ∃ r next, ofScript serial script d = .ok (r, next) ∧ r.IsProper := by
  rw [Script.Fails, not_and_or, not_not] at h
  exact (exists_ofScript_iff serial script d).mpr h

theorem not_fails_of_ofScript (h : ofScript serial script d = .ok (r, next)) : ¬ Script.Fails d script := by
  rintro ⟨hblank, hodd⟩
  obtain ⟨f, hread⟩ := Script.read_fails_iff.mpr hodd
  rw [ofScript, if_neg (by simpa using hblank), hread] at h
  cases h

theorem ofScript_of_fails (serial : Nat) (h : Script.Fails d script) : ∃ f, ofScript serial script d = .error f := by
  cases hread : ofScript serial script d with
  | error f => exact ⟨f, rfl⟩
  | ok q => exact (not_fails_of_ofScript hread h).elim

/-- The names of the tables are known unless nothing comes of reading the script. -/
theorem exists_tableNames_iff : (∃ names, tableNames script d = .ok names) ↔ ¬ Script.Fails d script := by
  rw [tableNames]
  split
  · next hempty =>
    obtain rfl : script = "" := by simpa using hempty
    have hblank : Text.strip "" = "" := by decide
    simp [Script.Fails, hblank]
  · constructor
    · rintro ⟨names, hnames⟩
      cases hread : ofScript 0 script d with
      | error f => rw [hread] at hnames; cases hnames
      | ok q => exact not_fails_of_ofScript hread
    · intro h
      obtain ⟨r, next, hread, -⟩ := exists_ofScript_of_not_fails h
      exact ⟨_, by rw [hread]; rfl⟩

end Reading

theorem Schema.exists_reconcileScript_iff {old new : Schema} {script : String} {d : Dialect} :
    (∃ m, old.reconcileScript script new d = .ok m) ↔ ¬ Script.Fails d script := by
  rw [← Reading.exists_tableNames_iff, reconcileScript]
  cases Reading.tableNames script d <;> simp [Except.map]

theorem Dialect.ofName_eq (s : String) : ofName s =
    match ofName? s with
    | some d => .ok d
    | none => .error (.unsupportedDialect (Value.text s).display) := by
  have hdisplay : (if (Value.text s).truthy then (Value.text s).display else "") = s := by
    by_cases hs : s = "" <;> simp [Value.truthy, Value.display, hs]
  cases h : ofName? s <;> simp only [ofName, ofValue, hdisplay, h]

namespace Service

/-- What a well-formed request asks for. -/
inductive Call
  | parse (r : ScriptRequest)
  | validate (r : ScriptRequest)
  | generate (r : SchemaRequest)
  | reconcile (r : EditRequest)

namespace Call

def path : Call → String
  | parse _ => "/sql/parse"
  | validate _ => "/sql/validate"
  | generate _ => "/sql/generate"
  | reconcile _ => "/sql/reconcile"

def dialect : Call → String
  | parse r | validate r => r.dialect
  | generate r => r.dialect
  | reconcile r => r.dialect

/-- The value is well formed for the path of the call, and the call is what it says. -/
def IsIn (usual : String) (v : Value) : Call → Prop
  | parse r | validate r => Check.scriptRequest usual v = .valid r
  | generate r => Check.schemaRequest usual v = .valid r
  | reconcile r => Check.editRequest usual v = .valid r

/-- The action of the service for a call. -/
def act (settings : Settings) (now : Timestamp) (b : Body) : Call → Response
  | parse _ => answer (Check.scriptRequest settings.defaultDialect) (·.dialect) b Service.parse
  | validate _ => answer (Check.scriptRequest settings.defaultDialect) (·.dialect) b Service.validate
  | generate _ => answer (Check.schemaRequest settings.defaultDialect) (·.dialect) b (Service.generate now)
  | reconcile _ => answer (Check.editRequest settings.defaultDialect) (·.dialect) b Service.reconcile

theorem lookup_path (settings : Settings) (now : Timestamp) (call : Call) :
    (actions settings now).lookup call.path = some fun b => call.act settings now b := by
  cases call <;> simp [actions, path, act, List.lookup_cons]

/-- The work on a call in a dialect that is known. -/
def run (now : Timestamp) (d : Dialect) : Call → Except Failure Content
  | parse r => Service.parse r d
  | validate r => Service.validate r d
  | generate r => Service.generate now r d
  | reconcile r => Service.reconcile r d

/-- The contents that the answer to a call must have. An edit that cannot be read gives back the schema as it
was sent, and one that can be read gives the merged schema, whatever the script before the edit is. -/
inductive HasContent (d : Dialect) (madeAt : String) : Call → Content → Prop
  | parsed {r : ScriptRequest} {reading : Reading} {next : Nat} :
    Reading.ofScript 0 r.script d = .ok (reading, next) → reading.IsProper →
      HasContent d madeAt (.parse r) (.parsed reading)
  | validated {r : ScriptRequest} {reading : Reading} {next : Nat} :
    Reading.ofScript 0 r.script d = .ok (reading, next) → reading.IsProper →
      HasContent d madeAt (.validate r) (.validated reading.errors)
  | generated {r : SchemaRequest} : HasContent d madeAt (.generate r) (.generated (r.schema.script d madeAt))
  | rejected {r : EditRequest} {e : ScriptError} {next : Nat} :
    Reading.ofScript 0 r.script d = .ok (.error e, next) → e.IsProper →
      HasContent d madeAt (.reconcile r) (.reconciled false r.schema [] [e])
  | merged {r : EditRequest} {new : Schema} {next : Nat} {m : Reconciled} :
    Reading.ofScript 0 r.script d = .ok (.schema new, next) →
      r.schema.reconcileScript (r.earlier.getD "") new d = .ok m →
        HasContent d madeAt (.reconcile r) (.reconciled true m.schema m.renamed [])

/-- The answer refuses a dialect that is not known, and otherwise has the contents for the call. -/
def IsAnswered (madeAt : String) (call : Call) (a : Response) : Prop :=
  match Dialect.ofName? call.dialect with
  | none => a.status = 400
  | some d => a.status = 200 ∧ call.HasContent d madeAt a.content

/-- Nothing comes of reading a script of the call. The script before an edit is read only if the edited one
gives a schema. -/
def ReadsFailing (d : Dialect) : Call → Prop
  | parse r | validate r => Script.Fails d r.script
  | generate _ => False
  | reconcile r => Script.Fails d r.script ∨
    (∃ new next, Reading.ofScript 0 r.script d = .ok (.schema new, next)) ∧ Script.Fails d (r.earlier.getD "")

variable {now : Timestamp} {madeAt : String} {d : Dialect} {call : Call}

/-- The work on a call gives the contents for it, unless nothing comes of a script. -/
theorem exists_run_of_not_readsFailing (hnow : now.toText = .ok madeAt) (h : ¬ call.ReadsFailing d) :
    ∃ content, call.run now d = .ok content ∧ call.HasContent d madeAt content := by
  cases call with
  | parse r =>
    obtain ⟨reading, next, hread, hproper⟩ := Reading.exists_ofScript_of_not_fails h
    exact ⟨.parsed reading, by rw [run, Service.parse, hread]; rfl, .parsed hread hproper⟩
  | validate r =>
    obtain ⟨reading, next, hread, hproper⟩ := Reading.exists_ofScript_of_not_fails h
    exact ⟨.validated reading.errors, by rw [run, Service.validate, hread]; rfl, .validated hread hproper⟩
  | generate r =>
    exact ⟨.generated (r.schema.script d madeAt), by rw [run, Service.generate, Schema.scriptOf, hnow]; rfl, .generated⟩
  | reconcile r =>
    rw [ReadsFailing, not_or] at h
    obtain ⟨reading, next, hread, hproper⟩ := Reading.exists_ofScript_of_not_fails h.1
    cases reading with
    | error e =>
      refine ⟨.reconciled false r.schema [] [e], ?_, .rejected hread ?_⟩
      · rw [run, Service.reconcile, hread]
        rfl
      · obtain ⟨h, -⟩ | ⟨-, -, e', he, hproper⟩ := hproper
        · cases h
        · obtain rfl : e = e' := by simpa [Reading.errors] using he
          exact hproper
    | schema new =>
      obtain ⟨m, hm⟩ := Schema.exists_reconcileScript_iff.mpr fun hfails => h.2 ⟨⟨new, next, hread⟩, hfails⟩
      refine ⟨.reconciled true m.schema m.renamed [], ?_, .merged hread hm⟩
      rw [run, Service.reconcile, hread]
      simp only [bind, Except.bind, hm, pure, Except.pure]

/-- A call with contents of its own has read its scripts. -/
theorem HasContent.not_readsFailing {content : Content} (h : call.HasContent d madeAt content) :
    ¬ call.ReadsFailing d := by
  cases h with
  | parsed hread | validated hread => exact Reading.not_fails_of_ofScript hread
  | generated => exact id
  | rejected hread =>
    rintro (hfails | ⟨⟨new, next, hschema⟩, -⟩)
    · exact Reading.not_fails_of_ofScript hread hfails
    · rw [hread] at hschema
      cases hschema
  | merged hread hm =>
    rintro (hfails | ⟨-, hfails⟩)
    · exact Reading.not_fails_of_ofScript hread hfails
    · exact Schema.exists_reconcileScript_iff.mp ⟨_, hm⟩ hfails

end Call

/-! ### Answers -/

/-- The answer that comes of work in a dialect that is given by name. -/
def outcome (dialect : String) (work : Dialect → Except Failure Content) : Response :=
  match Dialect.ofName? dialect with
  | none => ⟨400, .detail (Failure.unsupportedDialect (Value.text dialect).display).message⟩
  | some d =>
    match work d with
    | .error f => ⟨500, .detail f.message⟩
    | .ok content => ⟨200, content⟩

theorem answer_of_valid {α : Type} {c : Check α} {dialect : α → String} {b : Body}
    {work : α → Dialect → Except Failure Content} {v : Value} {a : α} (hv : bodyValue b = .valid v)
    (ha : c v = .valid a) : answer c dialect b work = outcome (dialect a) (work a) := by
  rw [answer, hv, outcome]
  dsimp only
  rw [ha]
  dsimp only [Checked.within]
  rw [Dialect.ofName_eq]
  cases Dialect.ofName? (dialect a) <;> rfl

variable {settings : Settings} {now : Timestamp} {request : Request} {call : Call} {v : Value}

theorem Call.act_eq {b : Body} (hbody : bodyValue b = .valid v) (hcall : call.IsIn settings.defaultDialect v) :
    call.act settings now b = outcome call.dialect fun d => call.run now d := by
  cases call with
  | parse r | validate r =>
    have hvalid : Check.scriptRequest settings.defaultDialect v = .valid r := hcall
    rw [act, answer_of_valid hbody hvalid, dialect]
    rfl
  | generate r =>
    have hvalid : Check.schemaRequest settings.defaultDialect v = .valid r := hcall
    rw [act, answer_of_valid hbody hvalid, dialect]
    rfl
  | reconcile r =>
    have hvalid : Check.editRequest settings.defaultDialect v = .valid r := hcall
    rw [act, answer_of_valid hbody hvalid, dialect]
    rfl

/-- A well-formed request is answered with the outcome of the work on its call. -/
theorem respond_eq (hmethod : Text.upper request.method = "POST") (hpath : meantPath request.path = call.path)
    (hbody : bodyValue request.body = .valid v) (hcall : call.IsIn settings.defaultDialect v) :
    respond settings now request = outcome call.dialect fun d => call.run now d := by
  have hroot : (call.path == "/") = false := by cases call <;> rfl
  rw [respond, hpath, hmethod, hroot, if_neg Bool.false_ne_true, Call.lookup_path]
  exact Call.act_eq hbody hcall

/-- The body of an edit that takes the only table away. The dialect is named in another way than usual. -/
def blankEdit : Value := .record [
  ("tables", .list [.record [("id", .text "t"), ("name", .text "t"),
    ("columns", .list [.record [("id", .text "a"), ("name", .text "a"), ("type", .text "INT")]])]]),
  ("sql", .text " "), ("dialect", .text " Postgres")]

def blankEditCall : Call := .reconcile {
  schema := { tables := [{ id := .named "t", name := "t", columns := [{ id := .named "a", name := "a", type := .int }] }] }
  earlier := none
  script := " "
  dialect := " Postgres" }

def superscriptBody : Value := .record [("sql", .text Script.superscript)]

def superscriptCall : Call := .parse { script := Script.superscript, dialect := "PostgreSQL" }

end Service

end SchemaDesk
