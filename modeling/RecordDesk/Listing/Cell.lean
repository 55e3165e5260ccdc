import RecordDesk.Calendar.Reading
import RecordDesk.Decimal.Fixed
import RecordDesk.Lookups
import RecordDesk.Text.Search

/-
  Cells: how a list writes a value. Flags are marks, decimals have a fixed number of places, and
  dates and times are written largest part first as far as they can be read.
-/

namespace RecordDesk.ListColumn

/-- The mark of a flag. -/
def flagMark (b : Bool) : String := if b then "✓" else "✗"

/-- The value counts as a flag that is set. -/
def isSet : Value → Bool
  | .bool b => b
  | .int n => n != 0
  | .float x => x != 0.0
  | .str s => ["true", "1", "yes"].contains (Text.lower (Text.trim s))
  | _ => false

/-- The decimal places of a column that gives none. -/
def defaultPlaces : Nat := 2

/-- A value as a moment, or as it is if it is none. -/
def momentText (text : String) : String :=
  ((Calendar.moment? text).map (·.display)).getD text

/-- A value as a date, or as it is if it is none. -/
def dateText (text : String) : String :=
  ((Calendar.date? text).map (·.display)).getD text

/-- A value in a column without a format: flags are marked, and text with a `T` in it that can be
read as a moment is written as one. -/
def plainText : Value → String
  | .bool b => flagMark b
  | .str s => if Text.contains s "T" then momentText s else s
  | v => v.display

/-- A value that is not null as the column writes it. -/
def valueText (c : ListColumn) (v : Value) : String :=
  match c.format with
  | some .boolean => flagMark (isSet v)
  | some .decimal =>
    match v.number? with
    | some x => Decimal.fixed (c.decimalPlaces.getD defaultPlaces) x
    | none => v.display
  | some .date => dateText v.display
  | some .dateTime => momentText v.display
  | some .plain | none => plainText v

/-- The cell of a record: `-` where there is no value, the row it refers to, or the value. -/
def cell (c : ListColumn) (lookups : Lookups) (r : Record) : String :=
  match r.lookup c.name with
  | some .null | none => "-"
  | some v => if c.foreignKey.isSome then lookups.displayFor c v else c.valueText v

end RecordDesk.ListColumn
