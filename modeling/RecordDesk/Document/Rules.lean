import RecordDesk.Document.Reading

/-
  Validation rules: for every table, the rules of its fields in the order in which they are
  checked.
-/

namespace RecordDesk

/-- What a rule demands. Names that are not known are kept. -/
inductive RuleKind
  | required
  | minLength
  | maxLength
  | min
  | max
  | pattern
  | unique
  | other (name : String)
deriving DecidableEq, Repr, Inhabited

namespace RuleKind

/-- The name of a rule kind in a document. -/
def name : RuleKind → String
  | required => "required"
  | minLength => "minLength"
  | maxLength => "maxLength"
  | min => "min"
  | max => "max"
  | pattern => "pattern"
  | unique => "unique"
  | other name => name

/-- The rule kind of a name. -/
def ofName : String → RuleKind
  | "required" => required
  | "minLength" => minLength
  | "maxLength" => maxLength
  | "min" => min
  | "max" => max
  | "pattern" => pattern
  | "unique" => unique
  | name => other name

end RuleKind

/-- One rule, with its parameter and the key or text of its message. -/
structure Rule where
  kind : RuleKind
  value : Option Value
  message : String

/-- The rules of one field. -/
structure FieldRules where
  name : String
  rules : List Rule
  realtime : Bool

/-- The rules of one table. Rules across fields are kept but not interpreted. -/
structure TableRules where
  name : String
  fields : Dict FieldRules
  across : List Value

/-- The document of all rules. -/
structure RuleBook where
  version : String
  generated : Option String
  tables : Dict TableRules

namespace RuleBook

/-- No rules at all. -/
def default : RuleBook := ⟨"", none, .empty⟩

/-- The rules of a table, if it has any. -/
def table? (b : RuleBook) (name : String) : Option TableRules := b.tables.get? name

end RuleBook

namespace Document

/-- A rule; its kind must be given. -/
def rule : Reader Rule := fun w => do
  let [kind, value, message] ← slots [["type"], ["value"], ["message"]] w | none
  return {
    kind := .ofName (← required text kind)
    value := ← optional any value
    message := ← orElse text "" message }

/-- The rules of a field. -/
def fieldRules : Reader FieldRules := fun w => do
  let [name, rules, realtime] ← slots [["name"], ["rules"], ["realtime"]] w | none
  return {
    name := ← orElse text "" name
    rules := ← orElse (list rule) [] rules
    realtime := ← orElse flag true realtime }

/-- The rules of a table. -/
def tableRules : Reader TableRules := fun w => do
  let [name, fields, across] ← slots [["name"], ["fields"], ["rules"]] w | none
  return {
    name := ← orElse text "" name
    fields := ← orElse (dict fieldRules) .empty fields
    across := ← orElse (list any) [] across }

/-- The document of all rules. -/
def ruleBook : Reader RuleBook := fun w => do
  let [version, generated, tables] ← slots [["version"], ["generated"], ["tables"]] w | none
  return {
    version := ← orElse text "" version
    generated := ← optional text generated
    tables := ← orElse (dict tableRules) .empty tables }

/-- A rule as a document. -/
def ofRule (r : Rule) : Value :=
  .obj (always "type" (.str r.kind.name) ++ given "value" r.value ++ always "message" (.str r.message))

/-- The rules of a field as a document. -/
def ofFieldRules (f : FieldRules) : Value :=
  .obj (
    always "name" (.str f.name)
    ++ always "rules" (.arr (f.rules.map ofRule))
    ++ always "realtime" (.bool f.realtime))

/-- The rules of a table as a document. -/
def ofTableRules (t : TableRules) : Value :=
  .obj (
    always "name" (.str t.name)
    ++ always "fields" (ofDict ofFieldRules t.fields)
    ++ always "rules" (.arr t.across))

/-- The document of all rules as a value. -/
def ofRuleBook (b : RuleBook) : Value :=
  .obj (
    always "version" (.str b.version)
    ++ given "generated" (b.generated.map .str)
    ++ always "tables" (ofDict ofTableRules b.tables))

end Document

end RecordDesk
