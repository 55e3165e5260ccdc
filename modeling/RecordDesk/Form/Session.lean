import RecordDesk.Config.Loaded
import RecordDesk.Derive.Changes
import RecordDesk.Form.Widget
import RecordDesk.Form.Input
import RecordDesk.Submission

/-
  Form sessions: the values of one form that is being filled in. Every change is followed by the
  changes that derive from it, so calculated and filled-in fields stay current. A failed step leaves
  the session as it was.
-/

namespace RecordDesk

/-- The values of an open form. -/
structure Session where
  config : Configuration
  table : Table
  plan : Plan
  lookups : Lookups
  mode : FormMode
  key : Option RecordKey
  values : Record

namespace Session

/-- The values that a new form starts with: the defaults of its checkboxes. -/
def seeded (t : Table) : Record :=
  .ofList ((t.formFields.filter (·.kind == .checkbox)).filterMap fun f =>
    f.defaultValue.map fun v => (f.name, v))

/-- A form for a new record. -/
def create (config : Configuration) (table : String) (lookups : Lookups) :
    Except Error Session := do
  let t ← config.table table
  let plan ← config.plan table
  return ⟨config, t, plan, lookups, .create, none, seeded t⟩

/-- A form for an existing record. Its key is taken before anything is changed, and every formula
is evaluated again. -/
def edit (config : Configuration) (table : String) (r : Record) (lookups : Lookups) :
    Except Error Session := do
  let t ← config.table table
  let plan ← config.plan table
  let key ← RecordKey.ofRecord r t.primaryKey
  let values := r.forEditing
  return ⟨config, t, plan, lookups, .edit, some key, (plan.recomputeAll values).applyTo values⟩

/-- A form for a record, or for a new one if none is given. -/
def start (config : Configuration) (table : String) (r : Option Record) (lookups : Lookups) :
    Except Error Session :=
  match r with
  | some r => edit config table r lookups
  | none => create config table lookups

/-- A form whose lookups are fetched from a source. -/
def openFrom {m : Type → Type} [Monad m] (source : RecordSource m) (config : Configuration)
    (table : String) (r : Option Record) : m (Except Error Session) := do
  match config.table table with
  | .error e => return .error e
  | .ok t => return start config table r (← Lookups.load source.findAll t)

/-- The widgets that are shown, in the order of the form. -/
def widgets (s : Session) : List Widget :=
  s.table.formFields.filterMap fun f =>
    f.widget? s.values s.mode s.lookups s.config.language s.config.defaultLanguage

/-- The form field of a name. -/
def field (s : Session) (name : String) : Except Error FormField :=
  match s.table.formField? name with
  | some f => .ok f
  | none => .error (.notFound "field" (s.table.name ++ "." ++ name))

/-- Sets a field that exists, and what derives from it. -/
def assign (s : Session) (name : String) (value : Value) : ChangeSet × Session :=
  let values := s.values.insert name value
  let changes := s.plan.applyChange values name s.lookups
  (changes, { s with values := changes.applyTo values })

/-- Sets a field, and what derives from it. -/
def setValue (s : Session) (name : String) (value : Value) : Except Error (ChangeSet × Session) := do
  let f ← s.field name
  return s.assign f.name value

/-- Sets a field to what was typed. -/
def setInput (s : Session) (name raw : String) : Except Error (ChangeSet × Session) := do
  let f ← s.field name
  let value ← f.readInput raw s.lookups s.config.language s.config.defaultLanguage
  s.setValue name value

/-- The violations of the current values. -/
def validate (s : Session) : Except Error Report := do
  return (← s.config.validator s.table.name).check s.values s.mode

/-- The violations of one field. -/
def validateField (s : Session) (name : String) : Except Error (List Violation) := do
  return (← s.config.validator s.table.name).checkField name s.values s.mode

/-- What the form sends; it fails if a rule is violated. -/
def submit (s : Session) : Except Error Submission := do
  (← s.validate).result
  let data := Submission.payload s.table s.values
  match s.mode, s.key with
  | .edit, some key => return .update s.table.name key data
  | _, _ => return .create s.table.name data

end Session

end RecordDesk
