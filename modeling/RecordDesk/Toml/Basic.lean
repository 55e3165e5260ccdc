import RecordDesk.Dict
import RecordDesk.Error
import RecordDesk.Text.Search

/-
  TOML documents: nested tables of values. Tables are kept in the order of their keys. A value in a
  document is addressed by the keys on the way to it, with points between them.
-/

namespace RecordDesk

namespace Toml

/-- A day of a calendar. -/
structure Day where
  year : Nat
  month : Nat
  day : Nat
deriving DecidableEq, Repr

/-- A time of day; seconds and billionths of seconds may be left out. -/
structure Clock where
  hour : Nat
  minute : Nat
  second : Option Nat
  nanosecond : Option Nat
deriving DecidableEq, Repr

/-- The offset of a time from universal time. -/
inductive Offset
  | utc
  | minutes (n : Int)
deriving DecidableEq, Repr

/-- A day, a time, or both with or without an offset. -/
structure Instant where
  day : Option Day
  clock : Option Clock
  offset : Option Offset
deriving DecidableEq, Repr

end Toml

/-- A value of a TOML document. -/
inductive Toml
  | string (s : String)
  | integer (n : Int)
  | float (x : Float)
  | boolean (b : Bool)
  | instant (i : Toml.Instant)
  | array (items : List Toml)
  | table (entries : List (String × Toml))

namespace Toml

instance : Inhabited Toml := ⟨.table []⟩

/-- The document without entries. -/
def empty : Toml := table []

/-- The entry of a key, if the value is a table that has one. -/
def entryOf? (key : String) : Toml → Option Toml
  | table entries => Dict.find? entries key
  | _ => none

/-- The value at the end of a way of keys. -/
def getAt? : List String → Toml → Option Toml
  | [], v => some v
  | key :: rest, v => (v.entryOf? key).bind (getAt? rest)

/-- The keys of a dotted key. -/
def segments (key : String) : List String := Text.split key (· == '.')

/-- The value of a dotted key. -/
def get? (v : Toml) (key : String) : Option Toml := getAt? (segments key) v

/-- Why a value cannot be set. -/
inductive SetError
  /-- The dotted key is empty or has an empty part. -/
  | invalidKey (key : String)
  /-- A value on the way is not a table. -/
  | blocked
  /-- The value that would hold the last key is not a table. -/
  | notATable
deriving DecidableEq, Repr

/-- Sets the value at the end of a way of keys, in place. Tables that are missing are made while the
way is gone, before it is known where it leads, so what is left behind is given in any case. -/
def assignAt : List String → Toml → Toml → Except SetError Unit × Toml
  | [], new, _ => (.ok (), new)
  | [last], new, v =>
    match v with
    | table entries => (.ok (), table (Dict.put last new entries))
    | _ => (.error .notATable, v)
  | key :: rest, new, v =>
    match v with
    | table entries =>
      let (result, inner) := assignAt rest new ((Dict.find? entries key).getD empty)
      (result, table (Dict.put key inner entries))
    | _ => (.error .blocked, v)

/-- Sets the value of a dotted key, in place. -/
def assign (v : Toml) (key : String) (new : Toml) : Except SetError Unit × Toml :=
  let keys := segments key
  if keys.any (·.isEmpty) then (.error (.invalidKey key), v) else assignAt keys new v

/-- The document with the value of a dotted key set. -/
def set (v : Toml) (key : String) (new : Toml) : Except SetError Toml :=
  let (result, changed) := v.assign key new
  result.map fun _ => changed

/-- The failure to set a value as people read it. -/
def SetError.toError : SetError → Error
  | invalidKey key => .config ("Invalid key path '" ++ key ++ "'")
  | blocked => .config "Cannot navigate into a non-table value"
  | notATable => .config "Cannot set key on a non-table value"

end Toml

end RecordDesk
