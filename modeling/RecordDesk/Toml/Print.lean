import RecordDesk.Toml.Basic
import RecordDesk.Decimal.Shortest
import RecordDesk.Text.Category
import RecordDesk.Json.Print

/-
  TOML documents as text. A table is a block of `key = value` lines under its name; tables in it
  follow as blocks of their own, with a blank line between blocks. A block is left out if it would
  be empty and has blocks inside. Arrays of several items take a line for each item.
-/

namespace RecordDesk.Toml

/-! ## Strings and keys -/

/-- What the characters of a string ask of its notation. -/
structure Demand where
  /-- There are control characters that must be escaped. -/
  control : Bool
  /-- There are backslashes. -/
  backslash : Bool
  /-- There are line feeds. -/
  newline : Bool
  /-- The longest run of single quotes. -/
  single : Nat
  /-- The longest run of double quotes. -/
  double : Nat

/-- The length of the longest run of a character; `run` of it stand right before. -/
def longestRun (c : Char) (run : Nat) : List Char → Nat
  | [] => run
  | d :: ds => if d = c then longestRun c (run + 1) ds else max run (longestRun c 0 ds)

/-- Control characters that can only be written as escapes. -/
def isControl (c : Char) : Bool :=
  (c.toNat < 0x20 && c != '\t' && c != '\n') || c.toNat == 0x7F

/-- What a string asks for. -/
def Demand.of (cs : List Char) : Demand :=
  ⟨cs.any isControl, cs.contains '\\', cs.contains '\n', longestRun '\'' 0 cs, longestRun '"' 0 cs⟩

/-- A character inside a string with escapes. Line feeds stand for themselves over several lines. -/
def escape (multiline : Bool) (c : Char) : List Char :=
  if c = '\x08' then ['\\', 'b']
  else if c = '\t' then ['\\', 't']
  else if c = '\n' then (if multiline then ['\n'] else ['\\', 'n'])
  else if c = '\x0c' then ['\\', 'f']
  else if c = '\r' then ['\\', 'r']
  else if c = '\\' then ['\\', '\\']
  else if isControl c then '\\' :: 'u' :: (Value.hex4 c.toNat).map Char.toUpper
  else [c]

/-- The inside of a string with escapes; after `allowed` double quotes in a row the next one is
escaped. -/
def escapeAll (multiline : Bool) (allowed run : Nat) : List Char → List Char
  | [] => []
  | '"' :: cs =>
    if allowed ≤ run then '\\' :: '"' :: escapeAll multiline allowed 0 cs
    else '"' :: escapeAll multiline allowed (run + 1) cs
  | c :: cs => escape multiline c ++ escapeAll multiline allowed 0 cs

/-- The start of a string over several lines: its mark, and a line end if it has line ends. -/
def openLong (mark : String) (d : Demand) : String := if d.newline then mark ++ "\n" else mark

/-- A string on one line with escapes. -/
def basicText (cs : List Char) : String := "\"" ++ String.ofList (escapeAll false 0 0 cs) ++ "\""

/-- A string on one line as it is. -/
def literalText (cs : List Char) : String := "'" ++ String.ofList cs ++ "'"

/-- A string over several lines with escapes. -/
def longBasicText (d : Demand) (cs : List Char) : String :=
  openLong "\"\"\"" d ++ String.ofList (escapeAll true 2 0 cs) ++ "\"\"\""

/-- A string over several lines as it is. -/
def longLiteralText (d : Demand) (cs : List Char) : String :=
  openLong "'''" d ++ String.ofList cs ++ "'''"

/-- A string, in the first notation that shows it well. -/
def stringText (s : String) : String :=
  let cs := s.toList
  let d := Demand.of cs
  if !d.control && !d.backslash && d.double == 0 && !d.newline then basicText cs
  else if !d.control && d.single == 0 && !d.newline then literalText cs
  else if !d.control && !d.backslash && d.double ≤ 2 then longBasicText d cs
  else if !d.control && d.single ≤ 2 then longLiteralText d cs
  else if d.newline then longBasicText d cs
  else basicText cs

/-- Characters of keys without quotation marks. -/
def isBare (c : Char) : Bool := c.isAlphanum || c == '_' || c == '-'

/-- A key, with quotation marks if it needs them. -/
def keyText (key : String) : String :=
  let cs := key.toList
  let d := Demand.of cs
  if !cs.isEmpty && cs.all isBare then key
  else if !d.control && !d.backslash && d.double == 0 && !d.newline then basicText cs
  else if !d.control && d.single == 0 && !d.newline then literalText cs
  else basicText cs

/-! ## Scalars -/

/-- A number with zeros in front up to a width. -/
def zeros (width n : Nat) : String :=
  let digits := toString n
  String.ofList (List.replicate (width - digits.length) '0') ++ digits

/-- A day as text. -/
def Day.text (d : Day) : String := zeros 4 d.year ++ "-" ++ zeros 2 d.month ++ "-" ++ zeros 2 d.day

/-- A fraction of a second without zeros at the end, but with one digit at least. -/
def fractionText (n : Nat) : String :=
  let digits := ((zeros 9 n).toList.reverse.dropWhile (· == '0')).reverse
  "." ++ (if digits.isEmpty then "0" else String.ofList digits)

/-- A time of day as text. -/
def Clock.text (c : Clock) : String :=
  let second := (c.second.map fun n => ":" ++ zeros 2 n).getD ""
  let fraction := (c.nanosecond.map fractionText).getD ""
  zeros 2 c.hour ++ ":" ++ zeros 2 c.minute ++ second ++ fraction

/-- An offset as text. -/
def Offset.text : Offset → String
  | utc => "Z"
  | minutes n =>
    (if n < 0 then "-" else "+") ++ zeros 2 (n.natAbs / 60) ++ ":" ++ zeros 2 (n.natAbs % 60)

/-- A day, a time or both as text. -/
def Instant.text (i : Instant) : String :=
  let day := (i.day.map Day.text).getD ""
  let clock := (i.clock.map Clock.text).getD ""
  let offset := (i.offset.map Offset.text).getD ""
  day ++ (if i.day.isSome && i.clock.isSome then "T" else "") ++ clock ++ offset

/-- Doubles in TOML: digits only, and a point in every finite one. -/
def floatLayout : Decimal.Layout := ⟨.away, fun _ => true, true, false⟩

/-- A double as text. -/
def floatText (x : Float) : String := if x == x then floatLayout.write x else "nan"

/-! ## Order of entries -/

/-- The value is a table. -/
def isTable : Toml → Bool
  | table _ => true
  | _ => false

/-- The value is an array in which there is a table. -/
def hasTables : Toml → Bool
  | array items => items.any isTable
  | _ => false

/-- The value is an array of tables only, with one at least. -/
def isTableArray : Toml → Bool
  | array items => !items.isEmpty && items.all isTable
  | _ => false

/-- The place of an entry among others: tables come last, and arrays with tables right before. -/
def rank (v : Toml) : Nat := if v.isTable then 2 else if v.hasTables then 1 else 0

/-- Texts by their ranks, otherwise as they stand. -/
def byRank (texts : List (Nat × String)) : List String :=
  let ofRank (n : Nat) := (texts.filter (·.1 == n)).map Prod.snd
  ofRank 0 ++ ofRank 1 ++ ofRank 2

/-! ## Values on one line -/

mutual

/-- A value after its key. -/
def valueText : Toml → String
  | string s => stringText s
  | integer n => toString n
  | float x => floatText x
  | boolean b => if b then "true" else "false"
  | instant i => i.text
  | array [] => "[]"
  | array [item] => "[" ++ valueText item ++ "]"
  | array items => "[" ++ itemLines items ++ "\n]"
  | table [] => "\x7b\x7d"
  | table entries =>
    "\x7b " ++ String.intercalate ", " (byRank (inlineEntries entries)) ++ " \x7d"

/-- Items of an array, each on a line of its own. -/
def itemLines : List Toml → String
  | [] => ""
  | item :: rest => "\n    " ++ valueText item ++ "," ++ itemLines rest

/-- Entries of a table inside a value, with their ranks. -/
def inlineEntries : List (String × Toml) → List (Nat × String)
  | [] => []
  | (key, v) :: rest => (v.rank, keyText key ++ " = " ++ valueText v) :: inlineEntries rest

end

/-! ## Documents -/

/-- How a block comes to be: the document itself, a table, or an item of an array of tables. -/
inductive BlockKind
  | root
  | table
  | item
deriving DecidableEq, Repr

/-- The line over a block. -/
def heading (kind : BlockKind) (keys : List String) : String :=
  let name := String.intercalate "." (keys.map keyText)
  match kind with
  | .root => ""
  | .table => "[" ++ name ++ "]\n"
  | .item => "[[" ++ name ++ "]]\n"

/-- The lines of a block: what is neither a table nor an array of tables; arrays with tables among
other items come last. -/
def body (entries : List (String × Toml)) : String :=
  let own := entries.filter fun (_, v) => !v.isTable && !v.isTableArray
  String.join (byRank (own.map fun (key, v) =>
    (v.rank, keyText key ++ " = " ++ valueText v ++ "\n")))

/-- A block with its heading, unless it says nothing that the blocks inside do not say. -/
def block (kind : BlockKind) (keys : List String) (entries : List (String × Toml)) :
    List String :=
  let lines := body entries
  let inner := entries.any fun (_, v) => v.isTable || v.isTableArray
  let needed := match kind with
    | .root => !lines.isEmpty
    | .table => !lines.isEmpty || !inner
    | .item => true
  if needed then [heading kind keys ++ lines] else []

mutual

/-- The blocks of a table: its own, those of arrays of tables in it, those of tables in it. -/
def blocks (kind : BlockKind) (keys : List String) : Toml → List String
  | table entries =>
    block kind keys entries ++ arrayBlocks keys entries ++ tableBlocks keys entries
  | _ => []

/-- The blocks of arrays of tables among entries. -/
def arrayBlocks (keys : List String) : List (String × Toml) → List String
  | [] => []
  | (key, array items) :: rest =>
    (if (array items).isTableArray then itemBlocks (keys ++ [key]) items else [])
      ++ arrayBlocks keys rest
  | _ :: rest => arrayBlocks keys rest

/-- The blocks of the items of an array of tables. -/
def itemBlocks (keys : List String) : List Toml → List String
  | [] => []
  | item :: rest => blocks .item keys item ++ itemBlocks keys rest

/-- The blocks of tables among entries. -/
def tableBlocks (keys : List String) : List (String × Toml) → List String
  | [] => []
  | (key, table entries) :: rest =>
    blocks .table (keys ++ [key]) (table entries) ++ tableBlocks keys rest
  | _ :: rest => tableBlocks keys rest

end

/-- The text of a document; none if the value is not a table. -/
def print? : Toml → Option String
  | table entries => some (String.intercalate "\n" (blocks .root [] (table entries)))
  | _ => none

/-! ## Values with their kinds -/

/-- Characters that are shown by their codes. -/
def isHidden (c : Char) : Bool :=
  (Text.categories ["Cc", "Cf", "Cn", "Co", "Zs", "Zl", "Zp", "Mn", "Me"]).contains c.toNat
    && c != ' '

/-- A character inside quotation marks where hidden ones are shown. -/
def showChar (c : Char) : List Char :=
  if c = '"' then ['\\', '"']
  else if c = '\\' then ['\\', '\\']
  else if c = '\n' then ['\\', 'n']
  else if c = '\r' then ['\\', 'r']
  else if c = '\t' then ['\\', 't']
  else if c.toNat = 0 then ['\\', '0']
  else if c.toNat < 0x7F then (if c.toNat < 0x20 then code c else [c])
  else if isHidden c then code c
  else [c]
where
  /-- The code of a character. -/
  code (c : Char) : List Char := ['\\', 'u', '\x7b'] ++ Nat.toDigits 16 c.toNat ++ ['\x7d']

/-- A string in quotation marks. -/
def showString (s : String) : String := "\"" ++ String.ofList (s.toList.flatMap showChar) ++ "\""

/-- Doubles where kinds are shown: positional from `0.0001` to below `1e16`. -/
def shownLayout : Decimal.Layout := ⟨.away, fun k => -4 ≤ k && k ≤ 15, true, false⟩

/-- A thing that may be missing. -/
def showOption {α : Type} (text : α → String) : Option α → String
  | some a => "Some(" ++ text a ++ ")"
  | none => "None"

/-- A named record of fields. -/
def showFields (name : String) (fields : List (String × String)) : String :=
  name ++ " \x7b " ++ String.intercalate ", " (fields.map fun (f, v) => f ++ ": " ++ v) ++ " \x7d"

/-- A day with the names of its parts. -/
def Day.shown (d : Day) : String :=
  showFields "Date"
    [("year", toString d.year), ("month", toString d.month), ("day", toString d.day)]

/-- A time of day with the names of its parts. -/
def Clock.shown (c : Clock) : String :=
  showFields "Time"
    [("hour", toString c.hour), ("minute", toString c.minute),
      ("second", showOption toString c.second), ("nanosecond", showOption toString c.nanosecond)]

/-- An offset with the names of its parts. -/
def Offset.shown : Offset → String
  | utc => "Z"
  | minutes n => showFields "Custom" [("minutes", toString n)]

/-- A day, a time or both with the names of their parts. -/
def Instant.shown (i : Instant) : String :=
  showFields "Datetime"
    [("date", showOption Day.shown i.day), ("time", showOption Clock.shown i.clock),
      ("offset", showOption Offset.shown i.offset)]

mutual

/-- A value with its kind, and those of its parts. -/
def shown : Toml → String
  | string s => "String(" ++ showString s ++ ")"
  | integer n => "Integer(" ++ toString n ++ ")"
  | float x => "Float(" ++ shownLayout.write x ++ ")"
  | boolean b => "Boolean(" ++ (if b then "true" else "false") ++ ")"
  | instant i => "Datetime(" ++ i.shown ++ ")"
  | array items => "Array([" ++ shownItems items ++ "])"
  | table entries => "Table(\x7b" ++ shownEntries entries ++ "\x7d)"

/-- Items with their kinds. -/
def shownItems : List Toml → String
  | [] => ""
  | [item] => shown item
  | item :: rest => shown item ++ ", " ++ shownItems rest

/-- Entries with their kinds. -/
def shownEntries : List (String × Toml) → String
  | [] => ""
  | [(key, v)] => showString key ++ ": " ++ shown v
  | (key, v) :: rest => showString key ++ ": " ++ shown v ++ ", " ++ shownEntries rest

end

/-- A value for people: scalars bare, tables as documents, arrays with the kinds of their items. -/
def display : Toml → String
  | string s => s
  | integer n => toString n
  | float x => Decimal.display x
  | boolean b => if b then "true" else "false"
  | instant i => i.text
  | v => (print? v).getD (shown v)

end RecordDesk.Toml
