import RecordDesk.Pattern.Parse
import RecordDesk.Document.Table
import RecordDesk.Document.Rules
import RecordDesk.Record.Key
import RecordDesk.Catalog.Basic

/-
  Validation: the rules of a table checked against the values of a form. Every rule that fails
  gives a violation with its message; blank values pass every rule but the one that demands a
  value. Fields that the user cannot fill in are not checked.
-/

namespace RecordDesk

/-- A rule that failed on a field. -/
structure Violation where
  field : String
  rule : RuleKind
  message : String
deriving DecidableEq, Repr

/-- The violations found in a record, in the order in which they were found. -/
structure Report where
  violations : List Violation
deriving DecidableEq, Repr

namespace Report

/-- Nothing failed. -/
def isValid (r : Report) : Bool := r.violations.isEmpty

/-- The violations of one field. -/
def ofField (r : Report) (field : String) : List Violation :=
  r.violations.filter (·.field == field)

/-- The first violation as people read it. -/
def first? (r : Report) : Option String :=
  r.violations.head?.map fun v => v.field ++ ": " ++ v.message

/-- The failure that a report with violations is: that of the first. -/
def result (r : Report) : Except Error Unit :=
  match r.violations with
  | [] => .ok ()
  | v :: _ => .error (.validation (some v.field) (v.field ++ ": " ++ v.message))

end Report

namespace Rule

/-- The text of a pattern parameter. -/
def patternText? (r : Rule) : Option String :=
  match r.value with
  | some (.str s) => some s
  | _ => none

/-- The message key of a rule that names none. -/
def defaultKey (r : Rule) : String :=
  match r.kind with
  | .required => "validation.required"
  | .minLength => "validation.min.length"
  | .maxLength => "validation.max.length"
  | .min => "validation.min.value"
  | .max => "validation.max.value"
  | .unique => "validation.unique"
  | .pattern =>
    match r.patternText? with
    | some "email" => "validation.pattern.email"
    | some "phone" => "validation.pattern.phone"
    | some "url" => "validation.pattern.url"
    | _ => "validation.pattern.invalid"
  | .other name => "validation." ++ name

end Rule

namespace Pattern

/-- The pattern behind the names `email`, `phone` and `url`; any other text is a pattern itself. -/
def expand (text : String) : String :=
  if text = "email" then "^[^\\s@]+@[^\\s@]+\\.[^\\s@]+$"
  else if text = "phone" then "^[\\d\\-\\(\\)\\+\\s]+$"
  else if text = "url" then "^https?://[^\\s]+$"
  else text

end Pattern

/-- A checker of the rules of one table. The patterns of all rules have been read. -/
structure Validator where
  table : Table
  rules : Option TableRules
  messages : Catalog
  patterns : Dict Pattern.Node

namespace Validator

/-- Reads the pattern of a rule, if it has one. -/
def addPattern (table : Table) (field : String) (patterns : Dict Pattern.Node) (r : Rule) :
    Except Error (Dict Pattern.Node) :=
  if r.kind = .pattern then
    match r.patternText? with
    | none => .ok patterns
    | some text =>
      match Pattern.parse? (Pattern.expand text) with
      | some node => .ok (patterns.insert text node)
      | none => .error (.config ("invalid pattern for '" ++ table.name ++ "." ++ field ++ "'"))
  else .ok patterns

/-- Reads the patterns of a field's rules. -/
def addPatterns (table : Table) (patterns : Dict Pattern.Node) (entry : String × FieldRules) :
    Except Error (Dict Pattern.Node) :=
  entry.2.rules.foldlM (addPattern table entry.1) patterns

/-- The fields of a table that have rules, with these, by name. -/
def ruledFields (rules : Option TableRules) : List (String × FieldRules) :=
  (rules.map fun r => r.fields.entries).getD []

/-- A checker; fails on the first pattern that is none. -/
def make (table : Table) (rules : Option TableRules) (messages : Catalog) :
    Except Error Validator := do
  let patterns ← (ruledFields rules).foldlM (addPatterns table) .empty
  return ⟨table, rules, messages, patterns⟩

/-- The rules of a field. -/
def rulesOf? (v : Validator) (field : String) : Option FieldRules :=
  v.rules.bind (·.fields.get? field)

/-- Fields that are not checked: a key that the source makes up, what is hidden, and in a new
record what is read-only. -/
def skips (v : Validator) (field : String) (mode : FormMode) : Bool :=
  (mode == .create && isIdName field) ||
    match v.table.formField? field with
    | some f => f.isHidden || (mode == .create && (f.readonly || f.isUiReadonly))
    | none => false

/-- The number of characters of a value's text, as a double. -/
def textLength (value : Value) : Float := Float.ofNat value.display.toList.length

/-- A value that is not blank passes a rule. A rule whose parameter is of no use is passed. -/
def passesValue (v : Validator) (r : Rule) (value : Value) : Bool :=
  let bound := r.value.bind Value.number?
  let within (test : Float → Bool) := match bound with
    | some b => test b
    | none => true
  match r.kind with
  | .minLength => within fun least => least ≤ textLength value
  | .maxLength => within fun most => textLength value ≤ most
  | .min => within fun least => value.number?.any (least ≤ ·)
  | .max => within fun most => value.number?.any (· ≤ most)
  | .pattern =>
    match r.patternText?.bind v.patterns.get? with
    | some node => node.occursIn value.display
    | none => true
  | .required | .unique | .other _ => true

/-- A value, or none, passes a rule. -/
def passes (v : Validator) (r : Rule) (value : Option Value) : Bool :=
  if r.kind = .required then !Value.isBlank value
  else match value with
    | none => true
    | some x => Value.isBlank value || v.passesValue r x

/-- The message of a rule, with its parameter filled in. -/
def message (v : Validator) (r : Rule) : String :=
  let key := if r.message.isEmpty then r.defaultKey else r.message
  v.messages.resolve key (r.value.map Value.display).toList

/-- The violations of one field. -/
def checkField (v : Validator) (field : String) (values : Record) (mode : FormMode) :
    List Violation :=
  match v.rulesOf? field with
  | none => []
  | some rules =>
    if v.skips field mode then []
    else
      (rules.rules.filter fun r => !v.passes r (values.lookup field)).map fun r =>
        ⟨field, r.kind, v.message r⟩

/-- The fields in the order in which they are checked: those of the form in its order, then the
others by name. -/
def fieldOrder (v : Validator) : List String :=
  let names := (ruledFields v.rules).map Prod.fst
  let inForm := (v.table.formFields.map (·.name)).filter (· ∈ names)
  inForm ++ names.filter (· ∉ inForm)

/-- The violations of a whole record. -/
def check (v : Validator) (values : Record) (mode : FormMode) : Report :=
  ⟨v.fieldOrder.flatMap fun field => v.checkField field values mode⟩

end Validator

end RecordDesk
