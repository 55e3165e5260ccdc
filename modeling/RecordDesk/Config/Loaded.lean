import RecordDesk.Derive.Plan
import RecordDesk.Validation

/-
  Loaded configuration: the documents of a project together, in one language. Every table's
  derivations are planned while loading, so a bad formula or a circle of dependencies comes up
  before any screen opens.
-/

namespace RecordDesk

/-- Everything that screens need. -/
structure Configuration where
  tables : TableBook
  rules : RuleBook
  messages : Catalog
  language : String
  plans : Dict Plan

namespace Configuration

/-- The plans of tables, by their names in the document; the first failure counts. -/
def planAll (tables : TableBook) : Except Error (Dict Plan) :=
  tables.tables.entries.foldlM (fun plans (name, t) => do
    return plans.insert name (← Plan.ofTable t)) .empty

/-- Puts the documents together. -/
def make (tables : TableBook) (rules : RuleBook) (messages : Catalog) (language : String) :
    Except Error Configuration := do
  return ⟨tables, rules, messages, language, ← planAll tables⟩

/-- The language of labels that the chosen language does not have. -/
def defaultLanguage (c : Configuration) : String := c.tables.project.defaultLanguage

/-- The definition of a table. -/
def table (c : Configuration) (name : String) : Except Error Table := c.tables.table name

/-- The derivation plan of a table. -/
def plan (c : Configuration) (name : String) : Except Error Plan :=
  match c.plans.get? name with
  | some p => .ok p
  | none => .error (.notFound "table" name)

/-- The validator of a table. -/
def validator (c : Configuration) (name : String) : Except Error Validator := do
  Validator.make (← c.table name) (c.rules.table? name) c.messages

end Configuration

end RecordDesk
