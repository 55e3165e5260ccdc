/-
  Values: what a column of a record can hold, and what a configuration document is made of.
  Integers and doubles are different kinds of number, so `1` and `1.0` are different values.
  The fields of an object keep the order in which they were written.
-/

namespace RecordDesk

/-- A value. Integers are those of 64 bits, with or without a sign. -/
inductive Value
  | null
  | bool (b : Bool)
  | int (n : Int)
  | float (x : Float)
  | str (s : String)
  | arr (items : List Value)
  | obj (fields : List (String × Value))

namespace Value

instance : Inhabited Value := ⟨.null⟩

/-- The value is null. -/
def isNull : Value → Bool
  | null => true
  | _ => false

/-- The short name of a value's kind. -/
def kindName : Value → String
  | null => "null"
  | bool _ => "boolean"
  | int _ | float _ => "number"
  | str _ => "string"
  | arr _ => "array"
  | obj _ => "object"

/-- The field of this name, the first if there are several. -/
def field? : List (String × Value) → String → Option Value
  | [], _ => none
  | (other, v) :: rest, name => if other = name then some v else field? rest name

mutual

/-- Equal values: of the same kind, with equal contents. Objects are equal when they have as many
fields and each field of the one equals that of the same name in the other. -/
def same : Value → Value → Bool
  | null, null => true
  | bool a, bool b => a == b
  | int a, int b => a == b
  | float a, float b => a == b
  | str a, str b => a == b
  | arr a, arr b => sameItems a b
  | obj a, obj b => a.length == b.length && sameFields a b
  | _, _ => false

/-- Equal items, one by one. -/
def sameItems : List Value → List Value → Bool
  | [], [] => true
  | a :: as, b :: bs => same a b && sameItems as bs
  | _, _ => false

/-- Each field has an equal one of its name among the others. -/
def sameFields : List (String × Value) → List (String × Value) → Bool
  | [], _ => true
  | (name, a) :: rest, others =>
    (match field? others name with
      | some b => same a b
      | none => false) && sameFields rest others

end

instance : BEq Value := ⟨same⟩

/-- Puts a field in: one of this name is replaced where it stands, a new one comes last. -/
def putField (name : String) (value : Value) : List (String × Value) → List (String × Value)
  | [] => [(name, value)]
  | (other, old) :: rest =>
    if other = name then (name, value) :: rest else (other, old) :: putField name value rest

end Value

end RecordDesk
