import RecordDesk.Formula.Parse
import RecordDesk.Record.Basic
import RecordDesk.Error

/-
  The value of a formula on a record. A blank field makes the result blank; a fault comes from the
  leftmost place that has one. Both sides of an operation are evaluated before either is looked
  at, but the arguments of a call only up to the first blank one.
-/

namespace RecordDesk.Formula

/-- The number of decimal places that can be rounded to, on either side of the point. -/
def roundLimit : Float := 15.0

/-- `x` rounded to a number of decimal places, a half away from zero. -/
def roundTo (x : Float) (places : Int) : Float :=
  let factor := Decimal.powerOfTen places
  Decimal.roundHalfAway (x * factor) / factor

/-- The whole part of a double; what is not finite stays as it is. -/
def wholePart (x : Float) : Float :=
  match Decimal.Binary.ofFloat? x with
  | some b => if b.isIntegral then x else
      let magnitude := Float.ofNat b.whole
      if b.negative then -magnitude else magnitude
  | none => x

/-- An operation on two numbers. -/
def Operator.apply (op : Operator) (a b : Float) : Except Fault Float :=
  match op with
  | .add => .ok (a + b)
  | .sub => .ok (a - b)
  | .mul => .ok (a * b)
  | .div => if b == 0.0 then .error .divisionByZero else .ok (a / b)
  | .rem => if b == 0.0 then .error .divisionByZero else .ok (Decimal.remainder a b)

/-- A function on its arguments. Without arguments there is no result. -/
def Function.apply (f : Function) : List Float → Except Fault (Option Float)
  | [] => .ok none
  | x :: rest =>
    match f with
    | .abs => .ok (some (if x < 0.0 then -x else if x == 0.0 then 0.0 else x))
    | .min => .ok (some (rest.foldl Decimal.least x))
    | .max => .ok (some (rest.foldl Decimal.greatest x))
    | .round =>
      let digits := wholePart (rest.head?.getD 0.0)
      if -roundLimit ≤ digits ∧ digits ≤ roundLimit then
        let places := ((Decimal.Binary.ofFloat? digits).map Decimal.Binary.trunc).getD 0
        .ok (some (roundTo x places))
      else .error (.roundDigits digits)

/-- The number of a field; none if it is blank. -/
def fieldNumber (values : Record) (name : String) : Except Fault (Option Float) :=
  match values.lookup name with
  | none => .ok none
  | some v =>
    if Value.isBlank (some v) then .ok none
    else match v.number? with
      | some x => .ok (some x)
      | none => .error (.notNumeric name)

namespace Expr

mutual

/-- The value of an expression; none if a field it needs is blank. -/
def eval (values : Record) : Expr → Except Fault (Option Float)
  | number x => .ok (some x)
  | field name => fieldNumber values name
  | neg e => do return (← eval values e).map (-·)
  | binary op left right => do
    let a ← eval values left
    let b ← eval values right
    match a, b with
    | some a, some b => return some (← op.apply a b)
    | _, _ => return none
  | call f args => do
    match ← evalAll values args with
    | some xs => f.apply xs
    | none => return none

/-- The values of arguments up to the first blank one. -/
def evalAll (values : Record) : List Expr → Except Fault (Option (List Float))
  | [] => .ok (some [])
  | e :: rest => do
    match ← eval values e with
    | none => return none
    | some x => return (← evalAll values rest).map (x :: ·)

end

end Expr

/-- The value of a formula on a record; none if a field it needs is blank. -/
def evaluate (f : Formula) (values : Record) : Except Fault (Option Float) := f.expr.eval values

/-- A fault of a formula as a failure. -/
def failure (source : String) (fault : Fault) : Error := .formula source fault.message

/-- The formula of a text, or the failure that it is none. -/
def read (source : String) : Except Error Formula := (parse source).mapError (failure source)

end RecordDesk.Formula
