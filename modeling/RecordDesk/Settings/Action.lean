import RecordDesk.Settings.Document
import RecordDesk.Host.Basic
import RecordDesk.Host.Path

/-
  Actions on the settings: where they are kept, what they are, and changing them. An action gives
  the text that it prints.
-/

namespace RecordDesk

/-- What can be done with the settings. -/
inductive SettingsAction
  /-- Says where the settings are kept. -/
  | path
  /-- Says what a key has. -/
  | get (key : String)
  /-- Changes a key in the file. -/
  | set (key value : String)
  /-- Makes a file of default settings. -/
  | init (file : Option String) (force : Bool)
  /-- Says the settings as variables, or as options of a container program. -/
  | environment (asOptions : Bool)
deriving DecidableEq, Repr

namespace Settings

variable {m : Type → Type} [Monad m]

/-! ## The file -/

/-- The file of the settings if nothing else is said. -/
def defaultFile? (h : Host m) : m (Option String) := do
  return (← h.configDir?).map fun dir => Path.join (Path.join dir programName) "config.toml"

/-- The file of the settings: the one that is asked for, that of the environment, or the default. -/
def file? (h : Host m) (explicit : Option String) : m (Option String) := do
  match explicit with
  | some path => return some path
  | none =>
    match nonempty (← h.env? fileVariable) with
    | some path => return some path
    | none => defaultFile? h

/-- A document in a file. -/
def parseFile {α : Type} (path : String) (parse : String → Option α) (text : String) :
    Except Error α :=
  match parse text with
  | some a => .ok a
  | none => .error (.config ("Failed to parse " ++ path))

/-- What the file says; without a file the settings keep their defaults. -/
def fromFile (h : Host m) (explicit : Option String) : ExceptT Error m Settings := do
  match ← (file? h explicit : m _) with
  | none => return default
  | some path =>
    if ← h.isThere path then parseFile path parse? (← h.read path) else return default

/-- The settings: those of the file, under the environment. -/
def load (h : Host m) (explicit : Option String) : ExceptT Error m Settings := do
  let s ← fromFile h explicit
  let url ← h.env? urlVariable
  let language ← h.env? languageVariable
  let configDir ← h.env? configDirVariable
  (s.withVariables url language configDir).check

/-! ## Actions -/

/-- A text as a line. -/
def line (s : String) : String := s ++ "\n"

/-- A path that must be known. -/
def known (message : String) : Option String → Except Error String
  | some path => .ok path
  | none => .error (.config message)

/-- The text of the value of a key. -/
def valueText (s : Settings) (key : String) : Except Error String := do
  match (← s.toToml).get? key with
  | some v => return v.display
  | none => throw (.config ("Key '" ++ key ++ "' not found in configuration"))

/-- The text of a document with a key changed. The settings in it must still be readable. -/
def changed (v : Toml) (key value : String) : Except Error String := do
  let new ← (v.set key (Toml.ofTyped value)).mapError Toml.SetError.toError
  match ofToml? true new with
  | some _ => return (Toml.print? new).getD ""
  | none => throw (.config ("Invalid value for '" ++ key ++ "'"))

/-- Changes a key in the file. -/
def change (h : Host m) (explicit : Option String) (key value : String) :
    ExceptT Error m String := do
  let path ← known "Could not determine config directory" (← (file? h explicit : m _))
  if !(← h.isThere path) then
    throw (.config ("Config file does not exist at " ++ path ++ ". Run `" ++ programName
      ++ " config init` first."))
  let v ← parseFile path Toml.parseNarrow? (← h.read path)
  h.write path (← changed v key value)
  return line ("Set " ++ key ++ " = " ++ value ++ " in " ++ path)

/-- Makes a file of default settings. -/
def create (h : Host m) (file : Option String) (force : Bool) : ExceptT Error m String := do
  let default? ← (defaultFile? h : m _)
  let path ← known "Could not determine config directory" (file.or default?)
  if (← h.isThere path) && !force then
    throw (.config ("Config file already exists at " ++ path ++ ". Use --force to overwrite."))
  match Path.parent? path with
  | some dir => h.makeDirs dir
  | none => pure ()
  h.write path (← default.print)
  return line ("Config file created at " ++ path)

end Settings

/-- Does an action and gives what it prints. -/
def SettingsAction.run {m : Type → Type} [Monad m] (h : Host m) (explicit : Option String) :
    SettingsAction → ExceptT Error m String
  | path => do
    return Settings.line (← Settings.known "Could not determine config directory for this platform"
      (← (Settings.file? h explicit : m _)))
  | get key => do
    let s ← Settings.load h explicit
    return Settings.line (← s.valueText key)
  | set key value => Settings.change h explicit key value
  | init file force => Settings.create h file force
  | environment asOptions => do
    let s ← Settings.load h explicit
    return String.join ((s.exportLines asOptions).map Settings.line)

end RecordDesk
