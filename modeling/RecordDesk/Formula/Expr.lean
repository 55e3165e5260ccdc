import RecordDesk.Decimal.Shortest

/-
  Formulas: arithmetic over the fields of a form. This module holds the expressions, the tokens
  they are written with, and everything that can be wrong with a formula.
-/

namespace RecordDesk.Formula

/-! ## Expressions -/

/-- An operation on two numbers. -/
inductive Operator
  | add
  | sub
  | mul
  | div
  | rem
deriving DecidableEq, Repr

/-- A function on numbers. -/
inductive Function
  | round
  | min
  | max
  | abs
deriving DecidableEq, Repr

/-- An expression. -/
inductive Expr
  | number (x : Float)
  | field (name : String)
  | neg (e : Expr)
  | binary (op : Operator) (left right : Expr)
  | call (f : Function) (args : List Expr)

namespace Operator

/-- The character of an operator. -/
def symbol : Operator → Char
  | add => '+'
  | sub => '-'
  | mul => '*'
  | div => '/'
  | rem => '%'

/-- The operator of a character. -/
def ofSymbol? : Char → Option Operator
  | '+' => some add
  | '-' => some sub
  | '*' => some mul
  | '/' => some div
  | '%' => some rem
  | _ => none

/-- Additions and subtractions bind less tightly than the other operators. -/
def isSum : Operator → Bool
  | add | sub => true
  | _ => false

end Operator

namespace Function

/-- The function of a name. -/
def ofName? : String → Option Function
  | "round" => some round
  | "min" => some min
  | "max" => some max
  | "abs" => some abs
  | _ => none

/-- The name of a function. -/
def name : Function → String
  | round => "round"
  | min => "min"
  | max => "max"
  | abs => "abs"

/-- The function takes this many arguments. -/
def admits (f : Function) (count : Nat) : Bool :=
  match f with
  | round => count == 1 || count == 2
  | min | max => 1 ≤ count
  | abs => count == 1

end Function

/-- Each text once, where it first stands. -/
def distinct : List String → List String
  | [] => []
  | name :: rest => name :: (distinct rest).filter (· ≠ name)

namespace Expr

mutual

/-- The field references of an expression, from left to right. -/
def references : Expr → List String
  | number _ => []
  | field name => [name]
  | neg e => references e
  | binary _ left right => references left ++ references right
  | call _ args => referencesOfAll args

/-- The field references of several expressions. -/
def referencesOfAll : List Expr → List String
  | [] => []
  | e :: rest => references e ++ referencesOfAll rest

end

/-- The fields that an expression refers to, in the order of their first reference. -/
def fields (e : Expr) : List String := distinct e.references

end Expr

/-! ## Tokens -/

/-- A token of a formula. -/
inductive Token
  | number (x : Float)
  | name (text : String)
  | operator (op : Operator)
  | opening
  | closing
  | comma

/-- Doubles inside messages: always with a point or an exponent, positional from `1e-4` to below
`1e16`. -/
def messageLayout : Decimal.Layout := ⟨.away, fun k => -4 ≤ k && k ≤ 15, true, false⟩

/-- A token as messages name it. -/
def Token.describe : Token → String
  | number x => "Number(" ++ messageLayout.write x ++ ")"
  | name text => "Ident(\"" ++ text ++ "\")"
  | operator op => "Op('" ++ String.singleton op.symbol ++ "')"
  | opening => "LParen"
  | closing => "RParen"
  | comma => "Comma"

/-! ## Faults -/

/-- What can be wrong with a formula, when it is read or when it is evaluated. -/
inductive Fault
  | unclosedBrace
  | invalidName (name : String)
  | invalidNumber (text : String)
  | unexpectedCharacter (c : Char)
  | emptyFormula
  | unexpectedEnd
  | unexpectedToken (t : Token)
  | trailing (t : Token)
  | unclosed (found : Option Token)
  | unknownFunction (name : String)
  | wrongArity (name : String) (count : Nat)
  | notNumeric (field : String)
  | divisionByZero
  | roundDigits (digits : Float)

/-- The text of a fault. -/
def Fault.message : Fault → String
  | unclosedBrace => "unclosed '\x7b'"
  | invalidName name => "invalid field name '" ++ name ++ "'"
  | invalidNumber text => "invalid number '" ++ text ++ "'"
  | unexpectedCharacter c => "unexpected character '" ++ String.singleton c ++ "'"
  | emptyFormula => "empty formula"
  | unexpectedEnd => "unexpected end of formula"
  | unexpectedToken t => "unexpected " ++ t.describe
  | trailing t => "unexpected " ++ t.describe ++ " after expression"
  | unclosed (some t) => "expected RParen, found " ++ t.describe
  | unclosed none => "expected RParen, found end of formula"
  | unknownFunction name => "unknown function '" ++ name ++ "'"
  | wrongArity name count => "wrong number of arguments to '" ++ name ++ "': " ++ toString count
  | notNumeric field => "field '" ++ field ++ "' is not numeric"
  | divisionByZero => "division by zero"
  | roundDigits digits =>
    "round() digits must be between -15 and 15, got " ++ Decimal.display digits

end RecordDesk.Formula
