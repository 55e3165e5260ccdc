import RecordDesk.Json.Print
import RecordDesk.Decimal.Read
import RecordDesk.Text.Blank

/-
  What people see of a value and what counts as its number. Two values agree when they are equal,
  or when neither is null and they show the same number or the same text, so that a key typed as
  `"1"` finds the row of `1`.
-/

namespace RecordDesk.Value

/-- The text of a double for people; whole numbers below `1e15` are written as integers. -/
def displayFloat (x : Float) : String :=
  match Decimal.Binary.ofFloat? x with
  | some b =>
    if b.isIntegral ∧ b.whole < pow10 15 then toString b.trunc else Decimal.display x
  | none => Decimal.display x

/-- The text of a value for people: strings as they are, null as nothing, arrays and objects as
JSON on one line. -/
def display : Value → String
  | null => ""
  | bool b => if b then "true" else "false"
  | int n => toString n
  | float x => displayFloat x
  | str s => s
  | arr items => compact (arr items)
  | obj fields => compact (obj fields)

/-- Nothing to show: no value, null, or the empty string. -/
def isBlank : Option Value → Bool
  | none | some null => true
  | some (str s) => s.isEmpty
  | some _ => false

/-- The number that a text stands for, white space around it aside; infinities do not count. -/
def numberOfText? (s : String) : Option Float :=
  (Decimal.readFloat? (Text.trim s)).filter Decimal.isFinite

/-- The number that a value stands for. -/
def number? : Value → Option Float
  | int n => some (Float.ofInt n)
  | float x => some x
  | str s => numberOfText? s
  | _ => none

/-- The value of a computed number: whole numbers below `9e15` are integers, and what is not
finite is null. -/
def ofNumber (x : Float) : Value :=
  match Decimal.Binary.ofFloat? x with
  | none => null
  | some b => if b.isIntegral ∧ b.whole < 9 * pow10 15 then int b.trunc else float x

/-- The loose equality of keys: equal values, or, where neither is null, equal numbers if both
are numeric, and equal texts if not. -/
def agrees (a b : Value) : Bool :=
  if a.same b then true
  else if a.isNull || b.isNull then false
  else match a.number?, b.number? with
    | some x, some y => x == y
    | _, _ => a.display == b.display

end RecordDesk.Value
