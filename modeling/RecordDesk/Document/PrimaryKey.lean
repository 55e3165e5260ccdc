import RecordDesk.Document.Reading

/-
  The primary key of a table: one column, or several that count together.
-/

namespace RecordDesk

/-- One key column or several. -/
inductive KeyKind
  | single
  | composite
deriving DecidableEq, Repr, Inhabited

/-- The name of a kind of key in a document. -/
def KeyKind.name : KeyKind → String
  | single => "single"
  | composite => "composite"

/-- The key columns of a table. Both spellings, one column and a list, may be given for either
kind. -/
structure PrimaryKey where
  kind : KeyKind
  column : Option String
  listed : List String
deriving DecidableEq, Repr

namespace PrimaryKey

/-- A key of one column. -/
def single (column : String) : PrimaryKey := ⟨.single, some column, []⟩

/-- A key of several columns. -/
def composite (columns : List String) : PrimaryKey := ⟨.composite, none, columns⟩

instance : Inhabited PrimaryKey := ⟨single "id"⟩

/-- The key columns in order: those listed, else the one column, else `id`. -/
def columns (k : PrimaryKey) : List String :=
  if k.listed.isEmpty then [k.column.getD "id"] else k.listed

/-- Records are addressed by several columns. -/
def isComposite (k : PrimaryKey) : Bool := k.kind == .composite && !k.listed.isEmpty

theorem columns_ne_nil (k : PrimaryKey) : k.columns ≠ [] := by
  unfold columns
  split
  · simp
  · next h => simpa using h

end PrimaryKey

namespace Document

/-- One of the named alternatives, written as its name or as an object that gives it null. -/
def alternative {α : Type} (ofName : String → Option α) : Reader α
  | .str name => ofName name
  | .obj [(name, .null)] => ofName name
  | _ => none

/-- The kind of a key. -/
def keyKind : Reader KeyKind :=
  alternative fun
    | "single" => some .single
    | "composite" => some .composite
    | _ => none

/-- A primary key; what is not given is as in a single `id` key. -/
def primaryKey : Reader PrimaryKey := fun w => do
  let [kind, column, listed] ← slots [["type"], ["column"], ["columns"]] w | none
  return {
    kind := ← orElse keyKind .single kind
    column := ← orElse (nullable text) (some "id") column
    listed := ← orElse (list text) [] listed }

/-- A primary key as a document. -/
def ofPrimaryKey (k : PrimaryKey) : Value :=
  .obj (
    always "type" (.str k.kind.name)
    ++ given "column" (k.column.map .str)
    ++ nonEmpty "columns" (texts k.listed))

end Document

end RecordDesk
