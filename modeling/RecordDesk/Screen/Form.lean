import RecordDesk.Screen.Grid
import RecordDesk.Form.Widget
import RecordDesk.Validation

/-
  Forms and reports as text: a line for each widget, and a line for each violation.
-/

namespace RecordDesk

namespace Widget

/-- The value as text; a selection shows the label of the choice it agrees with. -/
def valueText (w : Widget) : String :=
  match w.value, w.kind with
  | .null, _ => ""
  | v, .select offers _ =>
    match offers.find? (·.value.agrees v) with
    | some offer => offer.label
    | none => v.display
  | v, _ => v.display

/-- The kind of input by name. -/
def kindText (w : Widget) : String :=
  match w.kind with
  | .text inputType _ => inputType
  | .textarea .. => "textarea"
  | .number .. => "number"
  | .date => "date"
  | .dateTime => "datetime"
  | .checkbox => "checkbox"
  | .select .. => "select"

/-- The label, with a star where a value is required. -/
def labelText (w : Widget) : String := if w.required then w.label ++ " *" else w.label

/-- Remarks: that the field cannot be changed, what is expected, and the choices. -/
def notes (w : Widget) : List String :=
  let choices := match w.kind with
    | .select offers _ =>
      if offers.isEmpty then [] else [String.intercalate " / " (offers.map (·.label))]
    | _ => []
  (if w.disabled then ["read-only"] else []) ++ w.hint.toList ++ choices

/-- A widget as a row. -/
def cells (w : Widget) : List String :=
  [w.labelText, w.kindText, w.valueText, String.intercalate "; " w.notes]

/-- The text of a form. -/
def render (widgets : List Widget) : String :=
  Grid.render ["FIELD", "TYPE", "VALUE", "NOTES"] (widgets.map cells)

end Widget

/-- The text of a report. -/
def Report.render (r : Report) : String :=
  if r.isValid then "OK\n"
  else String.join (r.violations.map fun v => v.field ++ ": " ++ v.message ++ "\n")

end RecordDesk
