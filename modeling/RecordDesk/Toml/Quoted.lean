import RecordDesk.Toml.Scalar
import RecordDesk.Toml.Print

/-
  Strings of TOML as they are read. Between double quotes a backslash introduces an escape, between
  single quotes every character stands for itself; three quotes enclose strings of several lines.
  The functions read what follows the opening mark and give back the string and the rest.
-/

namespace RecordDesk.Toml

/-! ## Escapes -/

/-- The character whose code hexadecimal digits write. -/
def code? (digits : List Char) : Option Char :=
  if digits.all (isDigitOf 16) then
    let n := digits.foldl (fun n c => 16 * n + digitValue c) 0
    if n.isValidChar then some (Char.ofNat n) else none
  else none

/-- The character that an escape of one letter stands for. -/
def simpleEscape? : Char → Option Char
  | '"' => some '"'
  | '\\' => some '\\'
  | 'b' => some '\x08'
  | 'e' => some '\x1b'
  | 'f' => some '\x0c'
  | 'n' => some '\n'
  | 'r' => some '\r'
  | 't' => some '\t'
  | _ => none

/-- Puts a character before what was read. -/
def before (c : Option Char) (read : Option (List Char × List Char)) :
    Option (List Char × List Char) := do
  let (cs, rest) ← read
  return ((← c) :: cs, rest)

/-! ## Strings of one line -/

/-- A string with escapes, up to its closing mark. -/
def basic? : List Char → Option (List Char × List Char)
  | [] => none
  | '"' :: cs => some ([], cs)
  | '\\' :: 'x' :: a :: b :: cs => before (code? [a, b]) (basic? cs)
  | '\\' :: 'u' :: a :: b :: c :: d :: cs => before (code? [a, b, c, d]) (basic? cs)
  | '\\' :: 'U' :: a :: b :: c :: d :: e :: f :: g :: h :: cs =>
    before (code? [a, b, c, d, e, f, g, h]) (basic? cs)
  | '\\' :: e :: cs => before (simpleEscape? e) (basic? cs)
  | c :: cs => if c = '\n' || isControl c then none else before (some c) (basic? cs)

/-- A string without escapes, up to its closing mark. -/
def literal? : List Char → Option (List Char × List Char)
  | [] => none
  | '\'' :: cs => some ([], cs)
  | c :: cs => if c = '\n' || isControl c then none else before (some c) (literal? cs)

/-! ## Strings of several lines -/

/-- Spaces and tabs. -/
def isGap (c : Char) : Bool := c == ' ' || c == '\t'

/-- The text starts with a line end. -/
def atLineEnd : List Char → Bool
  | '\n' :: _ => true
  | '\r' :: '\n' :: _ => true
  | _ => false

/-- The text without a line end in front. -/
def dropLineEnd : List Char → List Char
  | '\n' :: cs => cs
  | '\r' :: '\n' :: cs => cs
  | cs => cs

/-- A string of several lines with escapes. Up to two quotes may stand right before the closing
mark. A backslash at the end of a line joins the lines, and all blanks around are left out; while
that goes on, `joining` holds. -/
def longBasic? : (joining : Bool) → List Char → Option (List Char × List Char)
  | _, [] => none
  | _, '"' :: '"' :: '"' :: '"' :: '"' :: cs => some (['"', '"'], cs)
  | _, '"' :: '"' :: '"' :: '"' :: cs => some (['"'], cs)
  | _, '"' :: '"' :: '"' :: cs => some ([], cs)
  | joining, '\r' :: '\n' :: cs =>
    if joining then longBasic? true cs else before (some '\n') (longBasic? false cs)
  | _, '\\' :: 'x' :: a :: b :: cs => before (code? [a, b]) (longBasic? false cs)
  | _, '\\' :: 'u' :: a :: b :: c :: d :: cs => before (code? [a, b, c, d]) (longBasic? false cs)
  | _, '\\' :: 'U' :: a :: b :: c :: d :: e :: f :: g :: h :: cs =>
    before (code? [a, b, c, d, e, f, g, h]) (longBasic? false cs)
  | _, '\\' :: e :: cs =>
    if atLineEnd ((e :: cs).dropWhile isGap) then longBasic? true (e :: cs)
    else before (simpleEscape? e) (longBasic? false cs)
  | joining, c :: cs =>
    if joining && (isGap c || c = '\n') then longBasic? true cs
    else if isControl c then none
    else before (some c) (longBasic? false cs)

/-- A string of several lines without escapes. Up to two quotes may stand right before the closing
mark. -/
def longLiteral? : List Char → Option (List Char × List Char)
  | [] => none
  | '\'' :: '\'' :: '\'' :: '\'' :: '\'' :: cs => some (['\'', '\''], cs)
  | '\'' :: '\'' :: '\'' :: '\'' :: cs => some (['\''], cs)
  | '\'' :: '\'' :: '\'' :: cs => some ([], cs)
  | '\r' :: '\n' :: cs => before (some '\n') (longLiteral? cs)
  | c :: cs => if isControl c then none else before (some c) (longLiteral? cs)

/-! ## Any string -/

/-- A string with its opening mark. A line end right after a long mark does not count. -/
def quoted? (cs : List Char) : Option (String × List Char) :=
  let read := match cs with
    | '"' :: '"' :: '"' :: rest => longBasic? false (dropLineEnd rest)
    | '\'' :: '\'' :: '\'' :: rest => longLiteral? (dropLineEnd rest)
    | '"' :: rest => basic? rest
    | '\'' :: rest => literal? rest
    | _ => none
  read.map fun (s, rest) => (String.ofList s, rest)

/-- A part of a key: a bare word or a string of one line. -/
def keyPart? (cs : List Char) : Option (String × List Char) :=
  match cs with
  | '"' :: '"' :: '"' :: _ => none
  | '\'' :: '\'' :: '\'' :: _ => none
  | '"' :: _ | '\'' :: _ => quoted? cs
  | _ =>
    let word := cs.takeWhile isBare
    if word.isEmpty then none else some (String.ofList word, cs.drop word.length)

end RecordDesk.Toml
