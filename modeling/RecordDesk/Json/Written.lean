import RecordDesk.Value.Basic

/-
  Values as they are written in a text, before anyone reads them. Fields that are written twice are
  both there, and parts that no value can hold are marked: a number that is too large, half of a
  surrogate pair, a nesting that is too deep. A marked part does no harm as long as nobody reads it.
-/

namespace RecordDesk

/-- A value as it is written. -/
inductive Written
  | unreadable
  | null
  | bool (b : Bool)
  | int (n : Int)
  | float (x : Float)
  | str (s : String)
  | arr (items : List Written)
  | obj (fields : List (String × Written))

namespace Written

instance : Inhabited Written := ⟨.null⟩

mutual

/-- The value that is written, if all of it can be read. Of a field that is written twice the first
place and the last value count. -/
def value? : Written → Option Value
  | unreadable => none
  | null => some .null
  | bool b => some (.bool b)
  | int n => some (.int n)
  | float x => some (.float x)
  | str s => some (.str s)
  | arr items => (values? items).map .arr
  | obj fields => (fields? [] fields).map .obj

/-- The values of items, one by one. -/
def values? : List Written → Option (List Value)
  | [] => some []
  | w :: rest => do return (← value? w) :: (← values? rest)

/-- The values of fields, put one after another into those collected so far. -/
def fields? (done : List (String × Value)) :
    List (String × Written) → Option (List (String × Value))
  | [] => some done
  | (name, w) :: rest => do fields? (Value.putField name (← value? w) done) rest

end

mutual

/-- A value, written down. -/
def ofValue : Value → Written
  | .null => null
  | .bool b => bool b
  | .int n => int n
  | .float x => float x
  | .str s => str s
  | .arr items => arr (ofValues items)
  | .obj fields => obj (ofFields fields)

/-- Values, written down one by one. -/
def ofValues : List Value → List Written
  | [] => []
  | v :: rest => ofValue v :: ofValues rest

/-- Fields, written down one by one. -/
def ofFields : List (String × Value) → List (String × Written)
  | [] => []
  | (name, v) :: rest => (name, ofValue v) :: ofFields rest

end

end Written

end RecordDesk
