import RecordDesk.Json.Written
import RecordDesk.Decimal.Read

/-
  Values read from JSON text. The text must hold one value and nothing else. Arrays and objects may
  be nested 127 deep; what is deeper must be well-formed but is marked unreadable, and so are numbers
  beyond the doubles and strings with half a surrogate pair.
-/

namespace RecordDesk.Json

/-! ## Numbers -/

/-- The largest significand. -/
def significandLimit : Nat := pow2 64 - 1

/-- Digits taken into a significand as long as it stays within 64 bits: the significand, how many
digits were taken, and the digits that no longer fit. -/
def takeDigits (significand taken : Nat) : List Char → Nat × Nat × List Char
  | [] => (significand, taken, [])
  | c :: cs =>
    let next := 10 * significand + (c.toNat - '0'.toNat)
    if significandLimit < next then (significand, taken, c :: cs)
    else takeDigits next (taken + 1) cs

/-- Powers of ten as doubles, up to the largest that is finite. -/
def powerOfTen (n : Nat) : Float := Float.ofScientific 1 false n

/-- Scales by a power of ten in steps that a double can hold; none where the value grows too
large. -/
def scale? : Nat → Float → Int → Option Float
  | 0, x, _ => some x
  | more + 1, x, e =>
    if e.natAbs ≤ 308 then
      if 0 ≤ e then
        let y := x * powerOfTen e.natAbs
        if Decimal.isFinite y then some y else none
      else some (x / powerOfTen e.natAbs)
    else if x == 0.0 then some x
    else if 0 ≤ e then none
    else scale? more (x / powerOfTen 308) (e + 308)

/-- The double `± significand · 10^e`: the significand is rounded first and then scaled. -/
def ofParts (negative : Bool) (significand : Nat) (e : Int) : Written :=
  match scale? 4 (Float.ofNat significand) e with
  | some x => .float (if negative then -x else x)
  | none => .unreadable

/-- The largest exponent that is read as a number; a larger one is only known to be large. -/
def exponentLimit : Nat := pow2 31 - 1

/-- A number with an exponent: the sign and digits after the mark. -/
def withExponent? (negative : Bool) (significand : Nat) (start : Int) (cs : List Char) :
    Option (Written × List Char) :=
  let (below, digits) := match cs with
    | '+' :: rest => (false, rest)
    | '-' :: rest => (true, rest)
    | rest => (false, rest)
  let run := digits.takeWhile Char.isDigit
  let rest := digits.dropWhile Char.isDigit
  let size := Decimal.digitsValue run
  if run.isEmpty then none
  else if exponentLimit < size then
    if significand ≠ 0 ∧ below = false then some (.unreadable, rest)
    else some (.float (if negative then -0.0 else 0.0), rest)
  else
    let e := if below then start - size else start + size
    some (ofParts negative significand e, rest)

/-- What follows the digits of a number that is a double: an exponent or nothing. -/
def finishFloat? (negative : Bool) (significand : Nat) (e : Int) :
    List Char → Option (Written × List Char)
  | c :: cs =>
    if c = 'e' ∨ c = 'E' then withExponent? negative significand e cs
    else some (ofParts negative significand e, c :: cs)
  | [] => some (ofParts negative significand e, [])

/-- A number without a point or an exponent; `dropped` digits did not fit into its significand. It is
an integer, except for `-0` and what 64 bits do not hold. -/
def integer (negative : Bool) (significand : Nat) (dropped : Int) : Written :=
  if dropped ≠ 0 then ofParts negative significand dropped
  else if negative then
    if significand = 0 ∨ pow2 63 < significand then ofParts negative significand 0
    else .int (-(significand : Int))
  else .int significand

/-- A number after its sign. -/
def number? (negative : Bool) (cs : List Char) : Option (Written × List Char) :=
  let whole := cs.takeWhile Char.isDigit
  let rest := cs.dropWhile Char.isDigit
  if whole.isEmpty || (whole.head? == some '0' && 1 < whole.length) then none
  else
    let (significand, _, extra) := takeDigits 0 0 whole
    let dropped : Int := extra.length
    match rest with
    | '.' :: more =>
      let fraction := more.takeWhile Char.isDigit
      if fraction.isEmpty then none
      else
        let (full, taken, _) := takeDigits significand 0 fraction
        finishFloat? negative full (dropped - taken) (more.dropWhile Char.isDigit)
    | c :: more =>
      if c = 'e' ∨ c = 'E' then withExponent? negative significand dropped more
      else some (integer negative significand dropped, c :: more)
    | [] => some (integer negative significand dropped, [])

/-! ## Strings -/

/-- The value of a hexadecimal digit. -/
def hexValue? (c : Char) : Option Nat :=
  if '0' ≤ c ∧ c ≤ '9' then some (c.toNat - '0'.toNat)
  else if 'a' ≤ c ∧ c ≤ 'f' then some (c.toNat - 'a'.toNat + 10)
  else if 'A' ≤ c ∧ c ≤ 'F' then some (c.toNat - 'A'.toNat + 10)
  else none

/-- Four hexadecimal digits as a code unit. -/
def codeUnit? (a b c d : Char) : Option Nat := do
  return ((((← hexValue? a) * 16 + (← hexValue? b)) * 16 + (← hexValue? c)) * 16 + (← hexValue? d))

/-- The character that an escape other than `u` stands for. -/
def simpleEscape? : Char → Option Char
  | '"' => some '"'
  | '\\' => some '\\'
  | '/' => some '/'
  | 'b' => some '\x08'
  | 'f' => some '\x0c'
  | 'n' => some '\n'
  | 'r' => some '\r'
  | 't' => some '\t'
  | _ => none

/-- A piece of a string: a character, or a code unit written as an escape. -/
inductive Piece
  | char (c : Char)
  | unit (n : Nat)

/-- The pieces of a string up to its closing mark, and the rest. -/
def pieces? : List Char → Option (List Piece × List Char)
  | [] => none
  | '"' :: cs => some ([], cs)
  | '\\' :: 'u' :: a :: b :: c :: d :: cs => do
    let n ← codeUnit? a b c d
    let (ps, rest) ← pieces? cs
    return (.unit n :: ps, rest)
  | '\\' :: e :: cs => do
    let c ← simpleEscape? e
    let (ps, rest) ← pieces? cs
    return (.char c :: ps, rest)
  | c :: cs =>
    if c.toNat < 0x20 then none
    else do
      let (ps, rest) ← pieces? cs
      return (.char c :: ps, rest)

/-- The first code unit of a surrogate pair. -/
def isHigh (n : Nat) : Bool := 0xD800 ≤ n && n ≤ 0xDBFF

/-- The second code unit of a surrogate pair. -/
def isLow (n : Nat) : Bool := 0xDC00 ≤ n && n ≤ 0xDFFF

/-- The characters of pieces; none where half of a surrogate pair stands alone. -/
def joinPieces? : List Piece → Option (List Char)
  | [] => some []
  | .char c :: ps => (joinPieces? ps).map (c :: ·)
  | .unit high :: .unit low :: ps =>
    if isHigh high then
      if isLow low then
        (joinPieces? ps).map (Char.ofNat (0x10000 + (high - 0xD800) * 0x400 + (low - 0xDC00)) :: ·)
      else none
    else if isLow high then none
    else (joinPieces? (.unit low :: ps)).map (Char.ofNat high :: ·)
  | .unit n :: ps =>
    if isHigh n || isLow n then none else (joinPieces? ps).map (Char.ofNat n :: ·)

/-- A string after its opening mark; none inside if half of a surrogate pair spoils it. -/
def string? (cs : List Char) : Option (Option String × List Char) :=
  (pieces? cs).map fun (ps, rest) => ((joinPieces? ps).map String.ofList, rest)

/-! ## Values -/

/-- Blanks of JSON: space, tab, line feed and carriage return. -/
def isGap (c : Char) : Bool := c == ' ' || c == '\t' || c == '\n' || c == '\r'

/-- The text from the first character that is no blank. -/
def skipGap (cs : List Char) : List Char := cs.dropWhile isGap

/-- The rest of the text after a word it starts with. -/
def afterWord? (word : String) (cs : List Char) : Option (List Char) :=
  if word.toList.isPrefixOf cs then some (cs.drop word.length) else none

/-- A container at a depth; below the limit it is unreadable. -/
def atDepth (depth : Nat) (w : Written) : Written := if depth = 0 then .unreadable else w

/-- An object of fields whose names may be spoiled. -/
def object (fields : List (Option String × Written)) : Written :=
  match fields.mapM fun (name, w) => name.map (·, w) with
  | some named => .obj named
  | none => .unreadable

mutual

/-- One value at the start of the text. `depth` more levels of nesting can be read, and `fuel`
bounds the steps. -/
def value? : (fuel depth : Nat) → List Char → Option (Written × List Char)
  | 0, _, _ => none
  | fuel + 1, depth, cs =>
    match skipGap cs with
    | [] => none
    | '"' :: rest =>
      (string? rest).map fun (s, more) => (match s with
        | some s => .str s
        | none => .unreadable, more)
    | '[' :: rest =>
      match skipGap rest with
      | ']' :: more => some (atDepth depth (.arr []), more)
      | start => (items? fuel (depth - 1) start).map fun (ws, more) =>
        (atDepth depth (.arr ws), more)
    | '\x7b' :: rest =>
      match skipGap rest with
      | '\x7d' :: more => some (atDepth depth (.obj []), more)
      | start => (fields? fuel (depth - 1) start).map fun (fs, more) =>
        (atDepth depth (object fs), more)
    | 'n' :: rest => (afterWord? "ull" rest).map (.null, ·)
    | 't' :: rest => (afterWord? "rue" rest).map (.bool true, ·)
    | 'f' :: rest => (afterWord? "alse" rest).map (.bool false, ·)
    | '-' :: rest => number? true rest
    | rest => number? false rest

/-- The items of an array up to its closing bracket; there is at least one. -/
def items? : (fuel depth : Nat) → List Char → Option (List Written × List Char)
  | 0, _, _ => none
  | fuel + 1, depth, cs => do
    let (w, rest) ← value? fuel depth cs
    match skipGap rest with
    | ']' :: more => some ([w], more)
    | ',' :: more => do
      let (ws, last) ← items? fuel depth more
      some (w :: ws, last)
    | _ => none

/-- The fields of an object up to its closing brace; there is at least one. -/
def fields? : (fuel depth : Nat) → List Char → Option (List (Option String × Written) × List Char)
  | 0, _, _ => none
  | fuel + 1, depth, cs =>
    match skipGap cs with
    | '"' :: start => do
      let (name, rest) ← string? start
      match skipGap rest with
      | ':' :: body => do
        let (w, after) ← value? fuel depth body
        match skipGap after with
        | '\x7d' :: more => some ([(name, w)], more)
        | ',' :: more => do
          let (fs, last) ← fields? fuel depth more
          some ((name, w) :: fs, last)
        | _ => none
      | _ => none
    | _ => none

end

/-- The nesting that is still read. -/
def depthLimit : Nat := 127

/-- What is written in the text, if it is well-formed. -/
def parse? (text : String) : Option Written :=
  let cs := text.toList
  match value? (2 * cs.length + 2) depthLimit cs with
  | some (w, rest) => if (skipGap rest).isEmpty then some w else none
  | none => none

/-- The value written in the text, if all of it can be read. -/
def parseValue? (text : String) : Option Value := (parse? text).bind Written.value?

end RecordDesk.Json
