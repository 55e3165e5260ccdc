import RecordDesk.Listing.Cell
import RecordDesk.Record.Key

/-
  Lists: the records of a table as rows of cells, narrowed down by a search and sorted by a column.
  Sorting is stable, and rows without a value come last in either direction.
-/

namespace RecordDesk

/-- The direction of a sort. -/
inductive Direction
  | ascending
  | descending
deriving DecidableEq, Repr

/-- The column that a list is sorted by. -/
structure SortState where
  column : String
  direction : Direction
deriving DecidableEq, Repr

/-- The header of a column. -/
structure Header where
  name : String
  title : String
  sortable : Bool
deriving DecidableEq, Repr

/-- A row with its key, if the record carries one. -/
structure Row where
  key : Option RecordKey
  cells : List String

/-- The records of a table as they are listed. -/
structure Listing where
  table : Table
  lookups : Lookups
  language : String
  defaultLanguage : String
  records : List Record
  query : String
  sort : Option SortState

namespace Direction

/-- The other direction. -/
def flip : Direction → Direction
  | ascending => descending
  | descending => ascending

end Direction

/-! ## Order of values -/

namespace Value

/-- Doubles as they compare; a NaN is equal to everything. -/
def compareFloat (x y : Float) : Ordering :=
  if x < y then .lt else if y < x then .gt else .eq

/-- The order of cells: texts by code point, numbers by size, flags with the unset one first, and
values of different kinds by their texts. -/
def compareCells (a b : Value) : Ordering :=
  match a, b with
  | str x, str y => compare x y
  | bool x, bool y => compare x y
  | int x, int y => compareFloat (Float.ofInt x) (Float.ofInt y)
  | int x, float y => compareFloat (Float.ofInt x) y
  | float x, int y => compareFloat x (Float.ofInt y)
  | float x, float y => compareFloat x y
  | a, b => compare a.display b.display

end Value

namespace SortState

/-- A value that counts in a sort: present and not null. -/
def sortValue? (s : SortState) (r : Record) : Option Value :=
  (r.lookup s.column).filter (!·.isNull)

/-- The order of two records; those without a value come last in either direction. -/
def compareRecords (s : SortState) (a b : Record) : Ordering :=
  match s.sortValue? a, s.sortValue? b with
  | none, none => .eq
  | none, some _ => .gt
  | some _, none => .lt
  | some x, some y =>
    match s.direction with
    | .ascending => x.compareCells y
    | .descending => (x.compareCells y).swap

end SortState

/-- Puts an item into a list that is sorted from the back: before the first item that it is not
less than. -/
def insertLast {α : Type} (order : α → α → Ordering) (x : α) : List α → List α
  | [] => [x]
  | y :: ys => if order x y = .lt then y :: insertLast order x ys else x :: y :: ys

/-- The items in order, equal ones as they stood. -/
def stableSort {α : Type} (order : α → α → Ordering) (items : List α) : List α :=
  (items.foldl (fun done x => insertLast order x done) []).reverse

namespace Listing

/-- All records of a table, neither searched nor sorted. -/
def ofRecords (table : Table) (records : List Record) (lookups : Lookups)
    (language default : String) : Listing :=
  ⟨table, lookups, language, default, records, "", none⟩

/-- Narrows the list down to what contains a text in any case; blank text shows all. -/
def search (l : Listing) (text : String) : Listing :=
  { l with query := Text.lower (Text.trim text) }

/-- The column can be sorted by. -/
def isSortable (l : Listing) (column : String) : Bool :=
  (l.table.listColumn? column).any (·.sortable)

/-- Sorts by a column, or turns the direction round if the list is sorted by it already. A column
that is not sortable changes nothing. -/
def toggleSort (l : Listing) (column : String) : Listing :=
  if l.isSortable column then
    { l with sort := some (match l.sort with
        | some s => if s.column = column then { s with direction := s.direction.flip }
          else ⟨column, .ascending⟩
        | none => ⟨column, .ascending⟩) }
  else l

/-- Some value of the record contains what is searched for. -/
def isFound (l : Listing) (r : Record) : Bool :=
  l.query.isEmpty || r.entries.any fun (_, v) => Text.contains (Text.lower v.display) l.query

/-- The records that are found. -/
def found (l : Listing) : List Record := l.records.filter l.isFound

/-- The records that are shown, in order. -/
def visible (l : Listing) : List Record :=
  match l.sort with
  | some s => stableSort s.compareRecords l.found
  | none => l.found

/-- A record as a row. -/
def row (l : Listing) (r : Record) : Row where
  key := (RecordKey.ofRecord r l.table.primaryKey).toOption
  cells := l.table.listColumns.map fun c => c.cell l.lookups r

/-- The rows that are shown. -/
def rows (l : Listing) : List Row := l.visible.map l.row

/-- The mark behind the title of a column: the direction of the sort, or that it can be sorted. -/
def sortMark (l : Listing) (c : ListColumn) : String :=
  let plain := if c.sortable then " ↕" else ""
  match l.sort with
  | some s =>
    if s.column = c.name then
      match s.direction with
      | .ascending => " ↑"
      | .descending => " ↓"
    else plain
  | none => plain

/-- The headers in column order. -/
def headers (l : Listing) : List Header :=
  l.table.listColumns.map fun c =>
    ⟨c.name, c.labelText l.language l.defaultLanguage ++ l.sortMark c, c.sortable⟩

/-- The list without the records that have a key. -/
def remove (l : Listing) (key : RecordKey) : Listing :=
  { l with records := l.records.filter (!key.isIn ·) }

/-- The number of records that are found. -/
def foundCount (l : Listing) : Nat := l.found.length

/-- The number of all records. -/
def totalCount (l : Listing) : Nat := l.records.length

end Listing

end RecordDesk
