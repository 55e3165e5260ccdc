import RecordDesk.Derive.Plan
import RecordDesk.Lookups

/-
  Changes: what follows from a field that was changed. The derived fields are gone through once in
  the order of dependencies, on a working copy of the record; a field is recalculated when one of
  its triggers has changed on the way, and a selector that has changed fills in its fields. Only
  values that differ are written.
-/

namespace RecordDesk

/-- Assignments in order, and the calculations that failed. -/
structure ChangeSet where
  changes : List (String × Value)
  errors : List (String × String)

namespace ChangeSet

/-- Nothing changed. -/
def empty : ChangeSet := ⟨[], []⟩

/-- Nothing changed and nothing failed. -/
def isEmpty (c : ChangeSet) : Bool := c.changes.isEmpty && c.errors.isEmpty

/-- The changed fields in order. -/
def fields (c : ChangeSet) : List String := c.changes.map Prod.fst

/-- The record with the assignments made. -/
def applyTo (c : ChangeSet) (values : Record) : Record :=
  c.changes.foldl (fun r (field, value) => r.insert field value) values

end ChangeSet

namespace Plan

/-- A pass over the plan: the working copy and what has come about so far. -/
structure Pass where
  working : Record
  result : ChangeSet

/-- Writes a value to a field unless the field reads as that value already. -/
def assign (pass : Pass) (field : String) (value : Value) : Pass :=
  if (pass.working.lookup field).any (·.same value) then pass
  else
    { working := pass.working.insert field value
      result := { pass.result with changes := pass.result.changes ++ [(field, value)] } }

/-- Notes that a calculation failed. -/
def fail (pass : Pass) (field : String) (e : Error) : Pass :=
  { pass with result := { pass.result with errors := pass.result.errors ++ [(field, e.message)] } }

/-- The value that a formula gives on a record, null where it is blank or fails, and the
failure. -/
def calculatedValue (f : Formula) (values : Record) : Value × Option Error :=
  match f.evaluate values with
  | .ok (some x) => (.ofNumber x, none)
  | .ok none => (.null, none)
  | .error fault => (.null, some (Formula.failure f.source fault))

/-- Calculates a field on the working copy. -/
def calculate (pass : Pass) (c : Calculated) : Pass :=
  let (value, failure) := calculatedValue c.formula pass.working
  let noted := match failure with
    | some e => fail pass c.target e
    | none => pass
  assign noted c.target value

/-- The values that a selector gives to its fields: null when nothing is selected, the columns of
the selected row when there is one, and otherwise none at all. -/
def filledValues (s : Selector) (working : Record) (lookups : Lookups) : List (String × Value) :=
  match working.lookup s.field with
  | none => s.autofill.copies.map fun copy => (copy.target, .null)
  | some v =>
    if Value.isBlank (some v) then s.autofill.copies.map fun copy => (copy.target, .null)
    else match lookups.rowFor? s.autofill.sourceTable s.autofill.sourceColumn v with
      | none => []
      | some row =>
        s.autofill.copies.map fun copy => (copy.target, (row.lookup copy.source).getD .null)

/-- A pass that also knows the fields that have changed or were written on the way. -/
structure Spread where
  pass : Pass
  dirty : List String

/-- Fills in the fields of a selector. -/
def fillFrom (lookups : Lookups) (spread : Spread) (s : Selector) : Spread :=
  (filledValues s spread.pass.working lookups).foldl
    (fun spread (field, value) => ⟨assign spread.pass field value, field :: spread.dirty⟩) spread

/-- Recalculates a field if one of its triggers is dirty; the changed field itself is left as it
was given. -/
def recalculate (p : Plan) (changed : String) (spread : Spread) (field : String) : Spread :=
  if field = changed then spread
  else match p.calculations.get? field with
    | none => spread
    | some c =>
      if c.triggers.any (· ∈ spread.dirty) then ⟨calculate spread.pass c, field :: spread.dirty⟩
      else spread

/-- The turn of one field: it is recalculated if need be, and if it is dirty it fills in others. -/
def turn (p : Plan) (changed : String) (lookups : Lookups) (spread : Spread) (field : String) :
    Spread :=
  let spread := recalculate p changed spread field
  if field ∈ spread.dirty then
    (p.selectors.filter (·.field == field)).foldl (fillFrom lookups) spread
  else spread

/-- What follows from a changed field; the record holds its new value already. -/
def applyChange (p : Plan) (values : Record) (field : String) (lookups : Lookups) : ChangeSet :=
  (p.order.foldl (turn p field lookups) ⟨⟨values, .empty⟩, [field]⟩).pass.result

/-- Calculates a field if it is a calculated one. -/
def recalculateAlways (p : Plan) (pass : Pass) (field : String) : Pass :=
  match p.calculations.get? field with
  | some c => calculate pass c
  | none => pass

/-- Calculates every calculated field in order. -/
def recomputeAll (p : Plan) (values : Record) : ChangeSet :=
  (p.order.foldl (recalculateAlways p) ⟨values, .empty⟩).result

end Plan

end RecordDesk
