/-
  Finding, replacing and splitting text, over lists of characters.
-/

namespace RecordDesk.Text

/-- The pattern stands somewhere in the text. -/
def containsChars (pattern : List Char) : List Char → Bool
  | [] => pattern.isEmpty
  | c :: cs => pattern.isPrefixOf (c :: cs) || containsChars pattern cs

/-- The text contains the pattern. -/
def contains (s pattern : String) : Bool := containsChars pattern.toList s.toList

/-- Replaces occurrences of a non-empty pattern from left to right; `skip` characters belong to
the occurrence just replaced and are passed over. -/
def replaceFrom (pattern replacement : List Char) : Nat → List Char → List Char
  | _, [] => []
  | skip + 1, _ :: cs => replaceFrom pattern replacement skip cs
  | 0, c :: cs =>
    if pattern.isPrefixOf (c :: cs) then
      replacement ++ replaceFrom pattern replacement (pattern.length - 1) cs
    else c :: replaceFrom pattern replacement 0 cs

/-- Every occurrence of a non-empty pattern, from left to right, gives way to the replacement. -/
def replace (s pattern replacement : String) : String :=
  String.ofList (replaceFrom pattern.toList replacement.toList 0 s.toList)

/-- The pieces between the characters that split. There is always at least one. -/
def splitChars (splits : Char → Bool) : List Char → List (List Char)
  | [] => [[]]
  | c :: cs =>
    if splits c then [] :: splitChars splits cs
    else match splitChars splits cs with
      | [] => [[c]]
      | piece :: rest => (c :: piece) :: rest

/-- The pieces of text between the characters that split. -/
def split (s : String) (splits : Char → Bool) : List String :=
  (splitChars splits s.toList).map String.ofList

/-- The text before and after the first occurrence of a character, if it occurs. -/
def splitAtFirst? (s : String) (c : Char) : Option (String × String) :=
  let before := s.toList.takeWhile (· != c)
  match s.toList.dropWhile (· != c) with
  | [] => none
  | _ :: after => some (String.ofList before, String.ofList after)

/-- A line without a carriage return at its end. -/
def withoutReturn (line : List Char) : List Char :=
  if line.getLast? = some '\r' then line.dropLast else line

/-- Lines end at a line feed, with a carriage return before it if there is one; a last line
without an end counts if it is not empty. -/
def lines (s : String) : List String :=
  let pieces := splitChars (· == '\n') s.toList
  let ended := pieces.dropLast.map withoutReturn
  let rest := pieces.getLast?.getD []
  (if rest.isEmpty then ended else ended ++ [rest]).map String.ofList

end RecordDesk.Text
