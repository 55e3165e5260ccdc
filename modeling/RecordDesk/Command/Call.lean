import RecordDesk.Command.Basic
import RecordDesk.Arguments.Scan

/-
  How the commands of the program are called.
-/

namespace RecordDesk

namespace Command

/-! ## Usage -/

/-- The place of a table's name. -/
def tablePlace : Place := { valueName := "TABLE", help := "Table name" }

/-- The place of a record's file. -/
def filePlace : Place := { valueName := "FILE", isPath := true, help := "JSON file with the record" }

/-- The place of a key of the settings. -/
def keyPlace : Place := { valueName := "KEY", help := "Dotted key, e.g. `api.base_url`" }

/-- The commands on the settings. -/
def settingsUsage : Usage where
  name := "config"
  about := "Manage the CLI configuration file"
  commands := [
    { name := "path", about := "Show the resolved config file path" },
    { name := "get", about := "Get a value by dotted key", places := [keyPlace] },
    { name := "set", about := "Set a value by dotted key",
      places := [keyPlace, { valueName := "VALUE", help := "New value" }] },
    { name := "init", about := "Create a default config file",
      switches := [
        { name := "file", short := some 'f', takes := .text, valueName := "FILE",
          help := "Where to write it; defaults to the platform config directory" },
        { name := "force", help := "Overwrite an existing file" }] },
    { name := "export", about := "Print the configuration as environment variables",
      switches := [
        { name := "docker-env", help := "Format as `--env` flags for `docker run`" }] }]

/-- The list of a table's records. -/
def listUsage : Usage where
  name := "list"
  about := "Show a table's records"
  places := [tablePlace]
  switches := [
    { name := "search", short := some 's', takes := .text, valueName := "SEARCH",
      help := "Case-insensitive search text" },
    { name := "sort", takes := .text, valueName := "SORT", help := "Column to sort by" },
    { name := "desc", needs := some "sort", help := "Sort descending" }]

/-- The form of a table. -/
def formUsage : Usage where
  name := "form"
  about := "Show a table's form"
  places := [tablePlace]
  switches := [
    { name := "record", short := some 'r', takes := .path, valueName := "RECORD",
      help := "JSON file with the record to edit; omitted for a create form" }]

/-- Checking a record. -/
def validateUsage : Usage where
  name := "validate"
  about := "Validate a record without sending it"
  places := [tablePlace, filePlace]
  switches := [{ name := "edit", help := "Validate as an edit of an existing record" }]

/-- Storing a record. -/
def submitUsage : Usage where
  name := "submit"
  about := "Validate a record and create or update it"
  places := [tablePlace, filePlace]
  switches := [{ name := "edit", help := "Update the existing record instead of creating one" }]

/-- Deleting a record. -/
def deleteUsage : Usage where
  name := "delete"
  about := "Delete a record by key"
  places := [tablePlace]
  switches := [
    { name := "key", short := some 'k', takes := .texts, required := true, valueName := "KEYS",
      help := "Key columns as COLUMN=VALUE (repeat for composite keys)" }]

/-- Documents from a schema. -/
def generateUsage : Usage where
  name := "generate"
  about := "Generate configuration files from schema metadata"
  places := [{ valueName := "METADATA", isPath := true, help := "Schema metadata JSON file" }]
  switches := [
    { name := "out", short := some 'o', takes := .path, required := true, valueName := "OUT",
      help := "Output directory" }]

/-- How the program is called. -/
def calling : Calling where
  version := "0.1.0"
  usage := {
    name := Settings.programName
    about := "Operator CLI for Tablecraft configuration-driven CRUD screens"
    commands := [settingsUsage, { name := "tables", about := "List configured tables" },
      listUsage, formUsage, validateUsage, submitUsage, deleteUsage, generateUsage] }
  everywhere := [
    { name := "config", short := some 'c', takes := .text, valueName := "CONFIG",
      help := "Configuration file path" },
    { name := "config-dir", takes := .path, valueName := "CONFIG_DIR",
      help := "Read table/validation config from this directory instead of the backend" },
    { name := "verbose", short := some 'v', help := "Enable verbose output" }]

/-! ## Commands from calls -/

/-- An action on the settings. -/
def settingsAction? (c : Call) : Option SettingsAction :=
  match c.name, c.places with
  | "path", [] => some .path
  | "get", [key] => some (.get key)
  | "set", [key, value] => some (.set key value)
  | "init", [] => some (.init (Call.valueOf? [c] "file") (Call.isSaid [c] "force"))
  | "export", [] => some (.environment (Call.isSaid [c] "docker-env"))
  | _, _ => none

/-- The command of the innermost calls. -/
def ofCalls? : List Call → Option Command
  | [c] =>
    match c.name, c.places with
    | "tables", [] => some .tables
    | "list", [table] =>
      some (.list table (Call.valueOf? [c] "search") (Call.valueOf? [c] "sort")
        (Call.isSaid [c] "desc"))
    | "form", [table] => some (.form table (Call.valueOf? [c] "record"))
    | "validate", [table, file] => some (.validate table file (Call.isSaid [c] "edit"))
    | "submit", [table, file] => some (.submit table file (Call.isSaid [c] "edit"))
    | "delete", [table] => some (.delete table ((c.given.lookup "key").getD []))
    | "generate", [schema] => (Call.valueOf? [c] "out").map (.generate schema)
    | _, _ => none
  | [_, action] => (settingsAction? action).map .settings
  | _ => none

end Command

/-- What the words of a call ask for. -/
def Invocation.read (words : List String) : Except CallFault Invocation := do
  let calls ← Command.calling.read words
  match Command.ofCalls? (calls.drop 1) with
  | some command => return {
      settingsFile := Call.valueOf? calls "config"
      configDir := Call.valueOf? calls "config-dir"
      verbose := Call.isSaid calls "verbose"
      command }
  | none => throw .missingCommand

end RecordDesk
