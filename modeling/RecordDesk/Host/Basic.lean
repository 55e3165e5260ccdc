import RecordDesk.Error

/-
  The machine that a program runs on, as far as the program uses it: variables of the environment,
  files and directories. It answers in some monad, so that the same program runs on a real machine
  and on one in memory.
-/

namespace RecordDesk

/-- A machine. Failures with files are failures of input and output that name the path. -/
structure Host (m : Type → Type) where
  /-- A variable of the environment. -/
  env? : (name : String) → m (Option String)
  /-- The directory in which programs keep their settings. -/
  configDir? : m (Option String)
  /-- There is a file or a directory. -/
  isThere : (path : String) → m Bool
  /-- The text of a file. -/
  read : (path : String) → ExceptT Error m String
  /-- Replaces a file, or makes it. -/
  write : (path text : String) → ExceptT Error m Unit
  /-- Makes a directory and all that are missing on the way to it. -/
  makeDirs : (path : String) → ExceptT Error m Unit

end RecordDesk
