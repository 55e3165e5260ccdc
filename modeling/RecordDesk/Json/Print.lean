import RecordDesk.Value.Basic
import RecordDesk.Decimal.Shortest

/-
  Values as JSON text, on one line or indented by two spaces. Doubles are written the shortest
  way that reads back, always with a point or an exponent, so that they stay doubles.
-/

namespace RecordDesk.Value

/-- Doubles in JSON: positional from `0.00001` to below `1e16`, a tie between two shortest forms
goes to the even one. -/
def floatLayout : Decimal.Layout :=
  ⟨.toEven, fun k => -5 ≤ k && k ≤ 15, true, true⟩

/-- The four lower-case hexadecimal digits of a number below `2^16`. -/
def hex4 (n : Nat) : List Char :=
  let digits := Nat.toDigits 16 n
  List.replicate (4 - digits.length) '0' ++ digits

/-- One character inside a quoted string. -/
def escapeChar (c : Char) : List Char :=
  if c = '"' then ['\\', '"']
  else if c = '\\' then ['\\', '\\']
  else if c = '\n' then ['\\', 'n']
  else if c = '\r' then ['\\', 'r']
  else if c = '\t' then ['\\', 't']
  else if c = '\x08' then ['\\', 'b']
  else if c = '\x0c' then ['\\', 'f']
  else if c.toNat < 0x20 then '\\' :: 'u' :: hex4 c.toNat
  else [c]

/-- A string in quotation marks. -/
def quote (s : String) : String :=
  String.ofList ('"' :: (s.toList.flatMap escapeChar ++ ['"']))

/-- The text of a value that has no parts. -/
def scalarText : Value → String
  | null => "null"
  | bool b => if b then "true" else "false"
  | int n => toString n
  | float x => floatLayout.write x
  | str s => quote s
  | arr _ | obj _ => ""

mutual

/-- A value on one line, without blanks. -/
def compact : Value → String
  | arr items => "[" ++ compactItems items ++ "]"
  | obj fields => "\x7b" ++ compactFields fields ++ "\x7d"
  | v => scalarText v

/-- Items with commas between them. -/
def compactItems : List Value → String
  | [] => ""
  | [v] => compact v
  | v :: rest => compact v ++ "," ++ compactItems rest

/-- Fields with commas between them. -/
def compactFields : List (String × Value) → String
  | [] => ""
  | [(name, v)] => quote name ++ ":" ++ compact v
  | (name, v) :: rest => quote name ++ ":" ++ compact v ++ "," ++ compactFields rest

end

/-- The start of a line at a nesting depth. -/
def indent (depth : Nat) : String := "\n" ++ String.ofList (List.replicate (2 * depth) ' ')

mutual

/-- A value over several lines; empty arrays and objects stay on one. -/
def prettyAt (depth : Nat) : Value → String
  | arr [] => "[]"
  | arr items => "[" ++ prettyItems (depth + 1) items ++ indent depth ++ "]"
  | obj [] => "\x7b\x7d"
  | obj fields => "\x7b" ++ prettyFields (depth + 1) fields ++ indent depth ++ "\x7d"
  | v => scalarText v

/-- Items, each on a line of its own. -/
def prettyItems (depth : Nat) : List Value → String
  | [] => ""
  | [v] => indent depth ++ prettyAt depth v
  | v :: rest => indent depth ++ prettyAt depth v ++ "," ++ prettyItems depth rest

/-- Fields, each on a line of its own. -/
def prettyFields (depth : Nat) : List (String × Value) → String
  | [] => ""
  | [(name, v)] => indent depth ++ quote name ++ ": " ++ prettyAt depth v
  | (name, v) :: rest =>
    indent depth ++ quote name ++ ": " ++ prettyAt depth v ++ "," ++ prettyFields depth rest

end

/-- A value over several lines, indented by two spaces. -/
def pretty (v : Value) : String := prettyAt 0 v

end RecordDesk.Value
