import RecordDesk.Config.Store
import RecordDesk.Json.Parse
import RecordDesk.Text.Search

/-
  The desk: tables, lists, forms and deletions over a source of records and a store of the
  configuration, as tasks that give text or say why they failed.
-/

namespace RecordDesk

/-- Why a task failed. -/
inductive Failure
  /-- A failure underneath. -/
  | inner (e : Error)
  /-- What was asked for makes no sense. -/
  | usage (reason : String)
  /-- A record violates rules. -/
  | invalid (count : Nat)
deriving DecidableEq, Repr

/-- The text of a failure. -/
def Failure.message : Failure → String
  | inner e => e.message
  | usage reason => "Invalid argument: " ++ reason
  | invalid count => toString count ++ " validation error(s)"

/-- Where records come from, and how files are read. -/
structure Desk (m : Type → Type) where
  records : RecordSource m
  read : (path : String) → m (Except Error String)

/-- Work that may load the configuration and may fail. -/
abbrev DeskTask (m : Type → Type) := ExceptT Failure (StateT (ConfigStore m) m)

namespace DeskTask

variable {m : Type → Type} [Monad m] {α : Type}

/-- A result, or the failure underneath. -/
def ofResult (r : Except Error α) : DeskTask m α := fun store =>
  return (r.mapError .inner, store)

/-- The answer of a source. -/
def ask (answer : m (Except Error α)) : DeskTask m α := fun store =>
  return ((← answer).mapError .inner, store)

/-- The configuration, loaded if need be. -/
def configuration : DeskTask m Configuration := fun store => do
  let (r, store) ← store.load
  return (r.mapError .inner, store)

end DeskTask

/-! ## Typed records -/

namespace Record

/-- A column and its value from `COLUMN=VALUE`; values that are JSON keep their kind. -/
def typedPair (pair : String) : Except Failure (String × Value) :=
  match Text.splitAtFirst? pair '=' with
  | some (column, raw) =>
    if (Text.trim column).isEmpty then refused
    else .ok (Text.trim column, (Json.parseValue? raw).getD (.str raw))
  | none => refused
where
  /-- The pair says nothing. -/
  refused : Except Failure (String × Value) :=
    .error (.usage ("expected COLUMN=VALUE, got '" ++ pair ++ "'"))

/-- The record that pairs `COLUMN=VALUE` say; the first that cannot be read counts. -/
def ofTypedPairs (pairs : List String) : Except Failure Record := do
  return .ofList (← pairs.mapM typedPair)

/-- The record in a file of JSON. -/
def ofFile (path text : String) : Except Failure Record :=
  match Json.parseValue? text with
  | some v => (Record.ofValue v).mapError .inner
  | none => .error (.usage path)

end Record

end RecordDesk
