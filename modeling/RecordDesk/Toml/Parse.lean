import RecordDesk.Toml.Quoted
import RecordDesk.Toml.Draft

/-
  Reading TOML documents. A document is a list of lines: headings, and keys with values. Blanks,
  line ends and comments may stand between lines, and inside brackets and braces.
-/

namespace RecordDesk.Toml

/-! ## What does not count -/

/-- The text from the first character that is neither in a comment nor blank nor a line end; none
if a comment holds control characters. -/
def skipFiller? : (inComment : Bool) → List Char → Option (List Char)
  | _, [] => some []
  | _, '\r' :: '\n' :: cs => skipFiller? false cs
  | _, '\n' :: cs => skipFiller? false cs
  | true, c :: cs => if isControl c then none else skipFiller? true cs
  | false, c :: cs =>
    if isGap c then skipFiller? false cs
    else if c = '#' then skipFiller? true cs
    else some (c :: cs)

/-- The text from the first character that is not blank. -/
def skipGap (cs : List Char) : List Char := cs.dropWhile isGap

/-- Nothing but blanks or a comment is left on the line. -/
def endsLine (cs : List Char) : Bool :=
  match skipGap cs with
  | [] | '#' :: _ => true
  | rest => atLineEnd rest

/-! ## Keys and values -/

/-- The parts of a key with points between them. `fuel` bounds their number. -/
def keyParts? : (fuel : Nat) → List Char → Option (List String × List Char)
  | 0, _ => none
  | fuel + 1, cs => do
    let (part, rest) ← keyPart? (skipGap cs)
    match skipGap rest with
    | '.' :: more => do
      let (parts, last) ← keyParts? fuel more
      return (part :: parts, last)
    | last => return ([part], last)

/-- A key. -/
def key? (cs : List Char) : Option (KeyPath × List Char) := do
  let (parts, rest) ← keyParts? (cs.length + 1) cs
  return (← KeyPath.ofList? parts, rest)

/-- Characters that end a bare value. -/
def endsScalar (c : Char) : Bool :=
  isGap c || c == '\n' || c == '\r' || c == ',' || c == ']' || c == '\x7d' || c == '#'

/-- The text is a day and nothing else. -/
def isDayOnly (cs : List Char) : Bool :=
  match day? cs with
  | some (_, []) => true
  | _ => false

/-- A value without marks. A time may follow its day after a space. -/
def bare? (cs : List Char) : Option (Toml × List Char) :=
  let word := cs.takeWhile (!endsScalar ·)
  let rest := cs.drop word.length
  let (word, rest) := match rest with
    | ' ' :: c :: more =>
      if isDayOnly word && c.isDigit then
        let time := (c :: more).takeWhile (!endsScalar ·)
        (word ++ ' ' :: time, (c :: more).drop time.length)
      else (word, rest)
    | _ => (word, rest)
  (scalar? word).map (·, rest)

mutual

/-- A value. `depth` more levels of brackets and braces can be read, and `fuel` bounds the steps. -/
def value? : (fuel depth : Nat) → List Char → Option (Toml × List Char)
  | 0, _, _ => none
  | fuel + 1, depth, cs =>
    match cs with
    | '[' :: rest =>
      if depth = 0 then none
      else (items? fuel (depth - 1) rest).map fun (vs, more) => (array vs, more)
    | '\x7b' :: rest =>
      if depth = 0 then none
      else do
        let (fields, more) ← fields? fuel (depth - 1) rest
        return (← Draft.tableOf? fields, more)
    | '"' :: _ | '\'' :: _ => (quoted? cs).map fun (s, rest) => (string s, rest)
    | _ => bare? cs

/-- The items of an array up to its closing bracket. A comma may follow the last one. -/
def items? : (fuel depth : Nat) → List Char → Option (List Toml × List Char)
  | 0, _, _ => none
  | fuel + 1, depth, cs => do
    match ← skipFiller? false cs with
    | ']' :: more => return ([], more)
    | start =>
      let (v, rest) ← value? fuel depth start
      match ← skipFiller? false rest with
      | ']' :: more => return ([v], more)
      | ',' :: more =>
        let (vs, last) ← items? fuel depth more
        return (v :: vs, last)
      | _ => none

/-- The fields of a table up to its closing brace. A comma may follow the last one. -/
def fields? : (fuel depth : Nat) → List Char → Option (List (KeyPath × Toml) × List Char)
  | 0, _, _ => none
  | fuel + 1, depth, cs => do
    match ← skipFiller? false cs with
    | '\x7d' :: more => return ([], more)
    | start =>
      let (key, rest) ← key? start
      match ← skipFiller? false rest with
      | '=' :: body =>
        let (v, after) ← value? fuel depth (← skipFiller? false body)
        match ← skipFiller? false after with
        | '\x7d' :: more => return ([(key, v)], more)
        | ',' :: more =>
          let (fs, last) ← fields? fuel depth more
          return ((key, v) :: fs, last)
        | _ => none
      | _ => none

end

/-! ## Documents -/

/-- The nesting of brackets and braces that is still read. -/
def depthLimit : Nat := 80

/-- The line that the text starts with. -/
def line? (cs : List Char) : Option (Line × List Char) := do
  match cs with
  | '[' :: '[' :: start =>
    let (key, rest) ← key? start
    return (.item key, ← mark? ']' (← mark? ']' rest))
  | '[' :: start =>
    let (key, rest) ← key? start
    return (.table key, ← mark? ']' rest)
  | _ =>
    let (key, rest) ← key? cs
    let body := skipGap (← mark? '=' rest)
    let (v, after) ← value? (2 * body.length + 2) depthLimit body
    return (.entry key v, after)

/-- The lines of the text. `fuel` bounds their number. -/
def lines? : (fuel : Nat) → List Char → Option (List Line)
  | 0, _ => none
  | fuel + 1, cs => do
    match ← skipFiller? false cs with
    | [] => return []
    | start =>
      let (line, rest) ← line? start
      if endsLine rest then return line :: (← lines? fuel rest) else none

/-- The document that a text is. A byte order mark may stand in front. -/
def parse? (text : String) : Option Toml :=
  let cs := match text.toList with
    | '\ufeff' :: cs => cs
    | cs => cs
  (lines? (cs.length + 1) cs).bind ofLines?

mutual

/-- All whole numbers have 64 bits at most. -/
def isNarrow : Toml → Bool
  | integer n => Decimal.isInt64 n
  | array items => areNarrow items
  | table entries => entriesNarrow entries
  | _ => true

/-- The items hold no wider numbers. -/
def areNarrow : List Toml → Bool
  | [] => true
  | v :: rest => isNarrow v && areNarrow rest

/-- The entries hold no wider numbers. -/
def entriesNarrow : List (String × Toml) → Bool
  | [] => true
  | (_, v) :: rest => isNarrow v && entriesNarrow rest

end

/-- The document that a text is, if its whole numbers have 64 bits at most. -/
def parseNarrow? (text : String) : Option Toml := (parse? text).filter isNarrow

/-! ## Values from a command line -/

/-- A value as people type it: a flag, a whole number, a double, or else the text itself. -/
def ofTyped (s : String) : Toml :=
  if s = "true" then boolean true
  else if s = "false" then boolean false
  else match Decimal.readInt64? s with
    | some n => integer n
    | none =>
      match Decimal.readFloat? s with
      | some x => float x
      | none => string s

end RecordDesk.Toml
