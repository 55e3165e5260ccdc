import RecordDesk.Lookups

/-
  Widgets: what a form shows for each of its fields, whatever the screen that draws it. A widget
  carries the current value and the settings of its input.
-/

namespace RecordDesk

/-- The input of a widget with its settings. -/
inductive WidgetKind
  | text (inputType : String) (maxLength : Option Nat)
  | textarea (rows : Nat) (maxLength : Option Nat)
  | number (min max step : Option Float)
  | date
  | dateTime
  | checkbox
  | select (offers : List Offer) (nullOption : Option String)

/-- A field as it is shown. -/
structure Widget where
  name : String
  label : String
  placeholder : Option String
  value : Value
  required : Bool
  disabled : Bool
  hint : Option String
  kind : WidgetKind

namespace FormField

/-- The label of the empty choice where the field gives none. -/
def defaultNullLabel : String := "選択してください"

/-- The height of a text area where the field gives none. -/
def defaultRows : Nat := 4

/-- The label of the empty choice, if the field offers one. -/
def nullOption? (f : FormField) (language default : String) : Option String :=
  (f.options.filter (·.allowNull)).map fun source =>
    (source.nullLabel.resolve? language default).getD defaultNullLabel

/-- The input that a field is drawn as. Kinds that are not known are drawn as text. -/
def widgetKind (f : FormField) (lookups : Lookups) (language default : String) : WidgetKind :=
  match f.kind with
  | .textarea => .textarea (f.rows.getD defaultRows) f.maxLength
  | .number => .number f.min f.max f.step
  | .date => .date
  | .dateTime => .dateTime
  | .checkbox => .checkbox
  | .select => .select (lookups.offers f language default) (f.nullOption? language default)
  | .email => .text "email" f.maxLength
  | .tel => .text "tel" f.maxLength
  | .text | .hidden | .other _ => .text "text" f.maxLength

/-- The bounds of a field as a hint shows them; both must be given. -/
def rangeHint (f : FormField) : String :=
  match f.min, f.max with
  | some least, some most =>
    " (" ++ Value.displayFloat least ++ "–" ++ Value.displayFloat most ++ ")"
  | _, _ => ""

/-- A short description of what is expected: the kind of input, its length and its range. Only
fields that carry validation directives have one. -/
def hint? (f : FormField) : Option String :=
  f.validation.map fun _ =>
    let length := match f.maxLength with
      | some n => " (max " ++ toString n ++ ")"
      | none => ""
    f.kind.name ++ length ++ f.rangeHint

/-- The value that a field shows; without one, a checkbox is off and any other field empty. -/
def shownValue (f : FormField) (values : Record) : Value :=
  match values.lookup f.name with
  | some v => v
  | none => if f.kind = .checkbox then .bool false else .str ""

/-- The widget of a field, if it is shown. -/
def widget? (f : FormField) (values : Record) (mode : FormMode) (lookups : Lookups)
    (language default : String) : Option Widget :=
  if f.isShown mode then
    some {
      name := f.name
      label := f.labelText language default
      placeholder := f.placeholder.resolve? language default
      value := f.shownValue values
      required := f.required
      disabled := f.disabled || f.readonly || f.isUiReadonly
      hint := f.hint?
      kind := f.widgetKind lookups language default }
  else none

end FormField

end RecordDesk
