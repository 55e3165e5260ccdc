import RecordDesk.Catalog.Basic
import RecordDesk.Text.Blank
import RecordDesk.Decimal.Read
import RecordDesk.Json.Parse

/-
  Message catalogs in properties files. An entry is `key=value` or `key:value` on one line; a line
  that ends in an odd number of backslashes goes on with the next, without the blanks in front of
  it. Joined lines that start with `#` or `!` are comments. A backslash in a key or a value
  introduces an escape.
-/

namespace RecordDesk.Catalog

/-- The number of backslashes at the end of a line. -/
def trailingBackslashes (line : List Char) : Nat :=
  (line.reverse.takeWhile (· == '\\')).length

/-- Lines joined where they are continued; `pending` is the joined start of a continued line. -/
def joinLines (pending : Option (List Char)) : List (List Char) → List (List Char)
  | [] => match pending with
    | none | some [] => []
    | some start => [start]
  | raw :: rest =>
    let part := if pending.isSome then Text.dropBlank raw else raw
    let start := pending.getD []
    if trailingBackslashes part % 2 = 1 then joinLines (some (start ++ part.dropLast)) rest
    else (start ++ part) :: joinLines none rest

/-- The text before and after the first separator that no backslash escapes. -/
def splitEntry (escaped : Bool) : List Char → List Char × List Char
  | [] => ([], [])
  | c :: cs =>
    if escaped then
      let (key, value) := splitEntry false cs
      (c :: key, value)
    else if c = '=' ∨ c = ':' then ([], cs)
    else
      let (key, value) := splitEntry (c == '\\') cs
      (c :: key, value)

/-- The character of a code given by hexadecimal digits, with or without a plus sign. -/
def hexCharacter? (digits : List Char) : Option Char := do
  let body := match digits with
    | '+' :: rest => rest
    | _ => digits
  if body.isEmpty then none
  else
    let values ← body.mapM Json.hexValue?
    let n := values.foldl (fun n d => 16 * n + d) 0
    if n < 0xD800 ∨ (0xDFFF < n ∧ n < 0x110000) then some (Char.ofNat n) else none

/-- What an escaped `u` and the up to four characters after it stand for: the character of that
code, or the escape itself where there is none. -/
def unicodeEscape (digits : List Char) : List Char :=
  match hexCharacter? digits with
  | some c => [c]
  | none => '\\' :: 'u' :: digits

/-- What an escaped character other than `u` stands for. -/
def simpleEscape (c : Char) : Char :=
  if c = 'n' then '\n' else if c = 't' then '\t' else if c = 'r' then '\r' else c

/-- Text with its escapes replaced. A backslash at the very end is dropped. -/
def unescape : List Char → List Char
  | [] => []
  | '\\' :: 'u' :: a :: b :: c :: d :: cs => unicodeEscape [a, b, c, d] ++ unescape cs
  | '\\' :: 'u' :: cs => unicodeEscape cs
  | ['\\'] => []
  | '\\' :: c :: cs => simpleEscape c :: unescape cs
  | c :: cs => c :: unescape cs

/-- The entry of a joined line, if it holds one. -/
def entryOf? (line : List Char) : Option (String × String) :=
  let text := Text.dropBlank line
  match text with
  | [] => none
  | c :: _ =>
    if c = '#' ∨ c = '!' then none
    else
      let (key, value) := splitEntry false text
      if key.isEmpty then none
      else some (String.ofList (unescape (Text.dropBlankEnd key)),
        String.ofList (unescape (Text.dropBlank value)))

/-- The catalog in the text of a properties file. -/
def ofProperties (text : String) : Catalog :=
  let lines := joinLines none ((Text.lines text).map String.toList)
  ⟨.ofList (lines.filterMap entryOf?)⟩

end RecordDesk.Catalog
