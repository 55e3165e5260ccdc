import RecordDesk.Settings.Action

/-
  What the program can be asked to do.
-/

namespace RecordDesk

/-- A command. -/
inductive Command
  /-- Does something with the settings. -/
  | settings (action : SettingsAction)
  /-- Lists the tables. -/
  | tables
  /-- Shows the records of a table. -/
  | list (table : String) (search sort : Option String) (descending : Bool)
  /-- Shows the form of a table, for the record in a file if one is named. -/
  | form (table : String) (record : Option String)
  /-- Checks the record in a file. -/
  | validate (table file : String) (edit : Bool)
  /-- Checks the record in a file and stores it. -/
  | submit (table file : String) (edit : Bool)
  /-- Deletes the record with a key. -/
  | delete (table : String) (key : List String)
  /-- Writes the documents that a schema gives into a directory. -/
  | generate (schema directory : String)
deriving DecidableEq, Repr

/-- A command with what is said of every command. -/
structure Invocation where
  /-- The file of the settings. -/
  settingsFile : Option String
  /-- The directory of the configuration. -/
  configDir : Option String
  verbose : Bool
  command : Command
deriving DecidableEq, Repr

end RecordDesk
