import RecordDesk.Json.Written
import RecordDesk.Text.Localized
import RecordDesk.Decimal.Read

/-
  Reading the parts of a configuration document. A structure is written as an object, whose
  unknown fields are passed over and whose known fields may stand once, or as an array of its
  fields in order, which may stop early but not be too long. Kinds are strict: a number is not read
  from text, an integer not from a double, and null only where a field may be absent or any value
  may stand.
-/

namespace RecordDesk.Document

/-- How a kind of thing is read from what is written; none where that does not have its form. -/
abbrev Reader (α : Type) := Written → Option α

/-! ## Scalars -/

/-- Text. -/
def text : Reader String
  | .str s => some s
  | _ => none

/-- A flag. -/
def flag : Reader Bool
  | .bool b => some b
  | _ => none

/-- A 64-bit integer with a sign. -/
def int64 : Reader Int
  | .int n => if Decimal.isInt64 n then some n else none
  | _ => none

/-- A natural number below a bound. -/
def natBelow (bound : Nat) : Reader Nat
  | .int n => if 0 ≤ n ∧ n < bound then some n.toNat else none
  | _ => none

/-- A 64-bit natural number. -/
def nat64 : Reader Nat := natBelow (pow2 64)

/-- A 32-bit natural number. -/
def nat32 : Reader Nat := natBelow (pow2 32)

/-- Any number, as a double. -/
def double : Reader Float
  | .int n => some (Float.ofInt n)
  | .float x => some x
  | _ => none

/-- Any value. -/
def any : Reader Value := Written.value?

/-! ## Parts -/

/-- An array of parts. -/
def list {α : Type} (part : Reader α) : Reader (List α)
  | .arr items => items.mapM part
  | _ => none

/-- An object whose fields are entries; of a repeated key the last counts. -/
def dict {α : Type} (part : Reader α) : Reader (Dict α)
  | .obj fields => do
    let entries ← fields.mapM fun (key, w) => do return (key, ← part w)
    return .ofList entries
  | _ => none

/-- Text by language. -/
def localized : Reader Localized := fun w => (dict text w).map Localized.mk

/-- A part that may be null. -/
def nullable {α : Type} (part : Reader α) : Reader (Option α)
  | .null => some none
  | w => (part w).map some

/-! ## Structures -/

/-- The fields of an object under one of these names. -/
def named (names : List String) (fields : List (String × Written)) : List Written :=
  (fields.filter fun field => names.contains field.1).map Prod.snd

/-- The value given for each of the declared fields, if one is given. Each declared field has one
name or several. -/
def slots (declared : List (List String)) : Reader (List (Option Written))
  | .obj fields =>
    declared.mapM fun names =>
      match named names fields with
      | [] => some none
      | [w] => some (some w)
      | _ => none
  | .arr items =>
    if declared.length < items.length then none
    else some ((items.map some) ++ List.replicate (declared.length - items.length) none)
  | _ => none

/-- A field that must be given. -/
def required {α : Type} (part : Reader α) : Option Written → Option α
  | some w => part w
  | none => none

/-- A field that has a default. -/
def orElse {α : Type} (part : Reader α) (default : α) : Option Written → Option α
  | some w => part w
  | none => some default

/-- A field that may be null or not given at all. -/
def optional {α : Type} (part : Reader α) : Option Written → Option (Option α) :=
  orElse (nullable part) none

/-- A document given as a value. -/
def ofValue? {α : Type} (part : Reader α) (v : Value) : Option α := part (Written.ofValue v)

/-! ## Writing -/

/-- A field that is always written. -/
def always (name : String) (v : Value) : List (String × Value) := [(name, v)]

/-- A field that is written if there is a value. -/
def given (name : String) : Option Value → List (String × Value)
  | some v => [(name, v)]
  | none => []

/-- An array that is written unless it is empty. -/
def nonEmpty (name : String) (items : List Value) : List (String × Value) :=
  if items.isEmpty then [] else [(name, .arr items)]

/-- An array of texts. -/
def texts (items : List String) : List Value := items.map .str

/-- A dictionary as an object. -/
def ofDict {α : Type} (part : α → Value) (d : Dict α) : Value :=
  .obj (d.entries.map fun (key, v) => (key, part v))

/-- Text by language as an object. -/
def ofLocalized (t : Localized) : Value := ofDict .str t.texts

end RecordDesk.Document
