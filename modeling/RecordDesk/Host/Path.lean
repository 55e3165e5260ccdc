/-
  Paths of files. A path names the directories on the way to a file, with slashes between them; it
  starts with a slash if it starts at the root.
-/

namespace RecordDesk.Path

/-- The path of a name in a directory. -/
def join (dir name : String) : String :=
  if dir.isEmpty || dir.toList.getLast? = some '/' then dir ++ name else dir ++ "/" ++ name

/-- A path without slashes at the end and names that stand for the directory itself. The path is
given from its end. -/
def trimBack : List Char → List Char
  | '/' :: cs => if cs.isEmpty then ['/'] else trimBack cs
  | '.' :: '/' :: cs => trimBack ('/' :: cs)
  | cs => cs

/-- The directory that a path lies in; the root and the empty path lie nowhere. -/
def parent? (path : String) : Option String :=
  match trimBack path.toList.reverse with
  | [] => none
  | ['/'] => none
  | back => some (String.ofList (trimBack (back.dropWhile (· != '/'))).reverse)

end RecordDesk.Path
