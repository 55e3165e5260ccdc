import RecordDesk.Text.Case
import RecordDesk.Text.Search

/-
  Labels made from identifiers: the words between underscores, hyphens and spaces, each with its
  first character in upper case.
-/

namespace RecordDesk.Text

/-- A word with its first character in upper case. -/
def capitalize (word : List Char) : List Char :=
  match word with
  | [] => []
  | c :: cs => upperChar c ++ cs

/-- The words of an identifier, each capitalized, with single spaces between them. -/
def titleCase (name : String) : String :=
  let words := splitChars (fun c => c == '_' || c == '-' || c == ' ') name.toList
  String.intercalate " " ((words.filter (!·.isEmpty)).map fun w => String.ofList (capitalize w))

end RecordDesk.Text
