import RecordDesk.Document.Table
import RecordDesk.Formula.Eval
import RecordDesk.Graph

/-
  Derivation plans: which fields of a table are calculated or filled in, and in what order. The
  order follows the dependencies, from the fields a formula refers to on to its target and from a
  selector on to the fields it fills; a table whose dependencies form a circle has no plan.
-/

namespace RecordDesk

/-- A field that is calculated, with the fields that set its calculation off. -/
structure Calculated where
  target : String
  formula : Formula
  triggers : List String

/-- A field whose selection fills in others. -/
structure Selector where
  field : String
  autofill : Autofill

/-- The derivations of a table, and every field that takes part in one in the order of
dependencies. -/
structure Plan where
  table : String
  order : List String
  calculations : Dict Calculated
  selectors : List Selector

namespace Plan

/-! ## Collecting the derivations -/

/-- The derivations of the fields so far. -/
structure Draft where
  calculations : Dict Calculated
  selectors : List Selector

/-- The name must be that of a form field. -/
def requireField (t : Table) (name role : String) : Except Error Unit :=
  if t.formFields.any (·.name == name) then .ok ()
  else .error (.config (role ++ " '" ++ name ++ "' is not a form field of table '" ++ t.name ++ "'"))

/-- All of the names must be those of form fields. -/
def requireFields (t : Table) (names : List String) (role : String) : Except Error Unit :=
  names.forM fun name => requireField t name role

/-- Adds the calculation that a field carries. -/
def addCalculation (t : Table) (draft : Draft) (field : FormField) (c : Calculation) :
    Except Error Draft := do
  let target := c.target.getD field.name
  requireField t target "auto-calculate target"
  let formula ← Formula.read c.formula
  requireFields t formula.fields "auto-calculate formula field"
  requireFields t c.triggers "auto-calculate trigger"
  let triggers := if c.triggers.isEmpty then formula.fields else c.triggers
  if draft.calculations.contains target then
    .error (.config ("field '" ++ target ++ "' of table '" ++ t.name
      ++ "' has more than one auto-calculation"))
  else
    return { draft with calculations := draft.calculations.insert target ⟨target, formula, triggers⟩ }

/-- Adds the autofill that a field carries. -/
def addSelector (t : Table) (draft : Draft) (field : FormField) (a : Autofill) :
    Except Error Draft := do
  requireFields t (a.copies.map (·.target)) "autofill target"
  return { draft with selectors := draft.selectors ++ [⟨field.name, a⟩] }

/-- Adds what a field derives, as far as it is enabled. -/
def addField (t : Table) (draft : Draft) (field : FormField) : Except Error Draft := do
  let draft ← match field.calculation.filter (·.enabled) with
    | some c => addCalculation t draft field c
    | none => .ok draft
  match field.autofill.filter (·.enabled) with
  | some a => addSelector t draft field a
  | none => .ok draft

/-- The derivations of all fields. -/
def collect (t : Table) : Except Error Draft :=
  t.formFields.foldlM (addField t) ⟨.empty, []⟩

/-! ## Ordering them -/

/-- The dependencies of a calculation: its target is mentioned first, then the fields. -/
def calculationEdges (g : Graph) (c : Calculated) : Graph :=
  c.formula.fields.foldl (fun g source => (g.addNode source).addEdge source c.target)
    (g.addNode c.target)

/-- The dependencies of a selector: it is mentioned first, then the fields it fills. -/
def selectorEdges (g : Graph) (s : Selector) : Graph :=
  s.autofill.copies.foldl (fun g copy => (g.addNode copy.target).addEdge s.field copy.target)
    (g.addNode s.field)

/-- The dependencies between fields: calculations in the order of their targets, then selectors in
the order of the form. -/
def dependencies (draft : Draft) : Graph :=
  draft.selectors.foldl selectorEdges (draft.calculations.values.foldl calculationEdges .empty)

/-- The plan of a table. -/
def ofTable (t : Table) : Except Error Plan := do
  let draft ← collect t
  match (dependencies draft).order with
  | .ok order => return ⟨t.name, order, draft.calculations, draft.selectors⟩
  | .error cycle => .error (.cyclicDependency t.name cycle)

/-! ## Questions -/

/-- The table has no derivations. -/
def isEmpty (p : Plan) : Bool := p.calculations.isEmpty && p.selectors.isEmpty

/-- The calculated fields in the order of calculation. -/
def calculatedFields (p : Plan) : List String := p.order.filter p.calculations.contains

/-- The formula that a field is calculated by. -/
def formulaOf? (p : Plan) (field : String) : Option Formula :=
  (p.calculations.get? field).map (·.formula)

end Plan

end RecordDesk
