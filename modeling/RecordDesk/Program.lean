import RecordDesk.Arguments.Outcome
import RecordDesk.Client.Records
import RecordDesk.Command.Call
import RecordDesk.Desk.Tasks
import RecordDesk.Schema.Files

/-
  The program: it reads its words, does what they ask for and says how it went. Records come from
  the server; the configuration comes from a directory if one is set, and else from the server too.
-/

namespace RecordDesk

/-- What the program runs in: a machine, ways to servers, and a clock. -/
structure World (m : Type → Type) where
  host : Host m
  /-- The way to a server whose answers may take some seconds. -/
  transport : (timeout : Nat) → Transport m
  /-- The local time, as in `2024-01-31 09:30:00`. -/
  now : m String

namespace Outcome

/-- Everything went well. -/
def fine (text : String) : Outcome := ⟨text, "", 0⟩

/-- Nothing is printed but a complaint. -/
def failed (reason : String) : Outcome := ⟨"", "Error: " ++ reason ++ "\n", 1⟩

/-- The outcome of a task that may fail. -/
def ofResult : Except Error Outcome → Outcome
  | .ok o => o
  | .error e => failed e.message

end Outcome

namespace Program

variable {m : Type → Type} [Monad m]

/-! ## Generating -/

/-- Writes the documents of a schema into a directory and prints their paths. -/
def generate (w : World m) (schema directory : String) : ExceptT Error m String := do
  let s ← ConfigFiles.document Document.schema (← w.host.read schema)
  let now ← w.now
  let generated ← s.generate now
  let paths ← generated.write w.host directory
  return String.join (paths.map Settings.line)

/-! ## The desk -/

/-- The server of the settings. -/
def client (w : World m) (s : Settings) : Client m :=
  ⟨w.transport s.timeout, s.baseUrl, s.maxRetries⟩

/-- The source of the configuration: a directory if one is set, else the server. -/
def configSource (w : World m) (s : Settings) : ConfigSource m :=
  match s.configDir with
  | some dir => ConfigFiles.source fun name => w.host.read (Path.join dir name)
  | none => (client w s).config

/-- The desk of the settings. -/
def desk (w : World m) (s : Settings) : Desk m := ⟨(client w s).records, w.host.read⟩

/-- Does what a command asks of the desk; commands that need no desk do nothing here. -/
def atDesk (d : Desk m) : Command → DeskTask m Outcome
  | .tables => return .fine (← Desk.tables)
  | .list table search sort descending => return .fine (← d.list table search sort descending)
  | .form table file => return .fine (← d.form table file)
  | .validate table file edit => do
    let report ← d.validate table file edit
    return { Outcome.fine report.render with code := if report.isValid then 0 else 1 }
  | .submit table file edit => return .fine (Settings.line (← d.submit table file edit).pretty)
  | .delete table key => do
    if ← d.delete table key then return .fine "Deleted\n"
    else return { Outcome.fine "No matching record\n" with code := 1 }
  | .settings _ | .generate .. => return .fine ""

/-- Opens the desk of the settings and does what a command asks of it. -/
def openDesk (w : World m) (s : Settings) (command : Command) : m Outcome := do
  let store := ConfigStore.ofSource (configSource w s) s.language
  let (r, _) ← ((atDesk (desk w s) command).run).run store
  match r with
  | .ok o => return o
  | .error e => return .failed e.message

/-! ## Everything -/

/-- Does what was asked for. -/
def carryOut (w : World m) (i : Invocation) : ExceptT Error m Outcome := do
  match i.command with
  | .settings action => return .fine (← action.run w.host i.settingsFile)
  | .generate schema directory => return .fine (← generate w schema directory)
  | command =>
    let s ← Settings.load w.host i.settingsFile
    let s := { s with configDir := i.configDir.or s.configDir }
    (openDesk w s command : m _)

/-- Does what words ask for. -/
def run (w : World m) (words : List String) : m Outcome := do
  match Invocation.read words with
  | .ok i => return .ofResult (← (carryOut w i).run)
  | .error fault => return fault.outcome Command.calling

end Program

end RecordDesk
