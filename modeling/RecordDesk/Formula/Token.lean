import RecordDesk.Formula.Expr
import RecordDesk.Decimal.Read
import RecordDesk.Text.Blank

/-
  The tokens of a formula. A field name stands by itself or between braces, a number is a run of
  digits and points, and blanks only separate.
-/

namespace RecordDesk.Formula

/-- Characters that may start a name. -/
def startsName (c : Char) : Bool := c.isAlpha || c == '_'

/-- Characters that may go on in a name. -/
def continuesName (c : Char) : Bool := c.isAlphanum || c == '_'

/-- A name: a letter or an underscore, then letters, digits and underscores. -/
def isName : List Char → Bool
  | [] => false
  | c :: cs => startsName c && cs.all continuesName

/-- Characters of a number. -/
def inNumber (c : Char) : Bool := c.isDigit || c == '.'

/-- The token that the text before the next character belongs to, if it is not complete. The text
is held back to front. -/
inductive Run
  | idle
  | number (text : List Char)
  | name (text : List Char)
  | braced (text : List Char)

/-- The number that a run of digits and points is. -/
def numberToken (text : List Char) : Except Fault Token :=
  match Decimal.readFloat? (String.ofList text.reverse) with
  | some x => .ok (.number x)
  | none => .error (.invalidNumber (String.ofList text.reverse))

/-- The name between two braces, blanks around it aside. -/
def bracedToken (text : List Char) : Except Fault Token :=
  let name := Text.dropBlankEnd (Text.dropBlank text.reverse)
  if isName name then .ok (.name (String.ofList name))
  else .error (.invalidName (String.ofList name))

/-- The first character of a token: the token if that is all of it, and the run it starts. -/
def startToken (c : Char) : Except Fault (List Token × Run) :=
  if Text.isBlank c then .ok ([], .idle)
  else if c = '(' then .ok ([.opening], .idle)
  else if c = ')' then .ok ([.closing], .idle)
  else if c = ',' then .ok ([.comma], .idle)
  else if c = '\x7b' then .ok ([], .braced [])
  else if inNumber c then .ok ([], .number [c])
  else if startsName c then .ok ([], .name [c])
  else match Operator.ofSymbol? c with
    | some op => .ok ([.operator op], .idle)
    | none => .error (.unexpectedCharacter c)

/-- One character after a run: the tokens that are complete now, and the run from here on. -/
def stepToken (run : Run) (c : Char) : Except Fault (List Token × Run) :=
  match run with
  | .idle => startToken c
  | .number text =>
    if inNumber c then .ok ([], .number (c :: text))
    else do
      let t ← numberToken text
      let (ts, next) ← startToken c
      return (t :: ts, next)
  | .name text =>
    if continuesName c then .ok ([], .name (c :: text))
    else do
      let (ts, next) ← startToken c
      return (.name (String.ofList text.reverse) :: ts, next)
  | .braced text =>
    if c = '\x7d' then do return ([← bracedToken text], .idle)
    else .ok ([], .braced (c :: text))

/-- The token of a run that the text ends in. -/
def finishToken : Run → Except Fault (List Token)
  | .idle => .ok []
  | .number text => do return [← numberToken text]
  | .name text => .ok [.name (String.ofList text.reverse)]
  | .braced _ => .error .unclosedBrace

/-- The tokens of the characters after a run. -/
def tokensFrom (run : Run) : List Char → Except Fault (List Token)
  | [] => finishToken run
  | c :: cs => do
    let (ts, next) ← stepToken run c
    return ts ++ (← tokensFrom next cs)

/-- The tokens of a formula. -/
def tokens (source : String) : Except Fault (List Token) := tokensFrom .idle source.toList

end RecordDesk.Formula
