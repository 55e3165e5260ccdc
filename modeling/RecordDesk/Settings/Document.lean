import RecordDesk.Settings.Basic
import RecordDesk.Toml.Parse

/-
  Settings as TOML documents. What a document leaves out keeps its default, and what it says beyond
  the settings is passed over. A table may also be written as an array of its values in order.
-/

namespace RecordDesk.Settings

/-! ## Reading -/

/-- The value of a field of a table, or at its place in an array of fields. -/
def slot? (key : String) (place : Nat) : Toml → Option Toml
  | .table entries => Dict.find? entries key
  | .array items => items[place]?
  | _ => none

/-- The value is a table of some fields, or an array of at most that many; `exact` forbids more. -/
def isRecord (exact : Bool) (fields : Nat) : Toml → Bool
  | .table _ => true
  | .array items => !exact || items.length ≤ fields
  | _ => false

/-- A field that keeps a default if it is missing. -/
def field {α : Type} (read : Toml → Option α) (default : α) : Option Toml → Option α
  | none => some default
  | some v => read v

/-- A text. -/
def text? : Toml → Option String
  | .string s => some s
  | _ => none

/-- A whole number of 64 bits that is not negative. -/
def count? : Toml → Option Nat
  | .integer n => if 0 ≤ n ∧ n < pow2 64 then some n.toNat else none
  | _ => none

/-- The settings in a document. In a document that is `exact`, arrays hold no surplus values. -/
def ofToml? (exact : Bool) (v : Toml) : Option Settings := do
  let api := (slot? "api" 1 v).getD .empty
  let ui := (slot? "ui" 2 v).getD .empty
  if !(isRecord exact 3 v && isRecord exact 3 api && isRecord exact 1 ui) then none
  return {
    configDir := ← field (fun v => (text? v).map some) none (slot? "config_dir" 0 v)
    baseUrl := ← field text? default.baseUrl (slot? "base_url" 0 api)
    timeout := ← field count? default.timeout (slot? "timeout_secs" 1 api)
    maxRetries := ← field count? default.maxRetries (slot? "max_retries" 2 api)
    language := ← field (fun v => (text? v).map some) none (slot? "language" 0 ui) }

/-- The settings that a text says. -/
def parse? (text : String) : Option Settings := (Toml.parse? text).bind (ofToml? false)

/-! ## Writing -/

/-- The entry of a text that may be missing. -/
def optional (key : String) (s : Option String) : List (String × Toml) :=
  (s.map fun s => (key, .string s)).toList

/-- The fields of the connection, in their order. -/
def api (s : Settings) : List (String × Toml) :=
  [("base_url", .string s.baseUrl), ("timeout_secs", .integer s.timeout),
    ("max_retries", .integer s.maxRetries)]

/-- All fields, in their order. -/
def fields (s : Settings) : List (String × Toml) :=
  optional "config_dir" s.configDir
    ++ [("api", .table s.api), ("ui", .table (optional "language" s.language))]

/-- The numbers of the settings have a sign bit to spare. -/
def isNarrow (s : Settings) : Bool := Decimal.isInt64 s.timeout && Decimal.isInt64 s.maxRetries

/-- The text of the settings. -/
def print (s : Settings) : Except Error String :=
  if s.isNarrow then .ok ((Toml.print? (.table s.fields)).getD "")
  else .error (.config "out-of-range value for u64 type")

/-- Entries in the order of their keys. -/
def ordered (entries : List (String × Toml)) : List (String × Toml) :=
  entries.foldl (fun sorted (key, v) => Dict.put key v sorted) []

/-- The settings as a document with its tables in order. -/
def toToml (s : Settings) : Except Error Toml :=
  if s.isNarrow then
    .ok (.table (ordered (optional "config_dir" s.configDir
      ++ [("api", .table (ordered s.api)), ("ui", .table (optional "language" s.language))])))
  else .error (.config "u64 value was too large")

end RecordDesk.Settings
