/-
  Doubles as exact numbers. A finite double is `± mantissa · 2^exponent`; every rule about
  integral values, truncation, rounding and remainders is stated on that pair, in whole
  numbers, so nothing here depends on how the machine rounds.
-/

namespace RecordDesk

/-- The power `2^n`. -/
def pow2 (n : Nat) : Nat := Nat.pow 2 n

/-- The power `10^n`. -/
def pow10 (n : Nat) : Nat := Nat.pow 10 n

namespace Decimal

/-- A finite double read exactly: `± mantissa · 2^exponent`. -/
structure Binary where
  negative : Bool
  mantissa : Nat
  exponent : Int
deriving DecidableEq, Repr

namespace Binary

/-- The exact reading of a double; none for the infinities and for NaN. -/
def ofFloat? (x : Float) : Option Binary :=
  let bits := x.toBits.toNat
  let negative := bits / pow2 63 == 1
  let field : Nat := bits / pow2 52 % pow2 11
  let fraction := bits % pow2 52
  if field == 2047 then none
  else if field == 0 then some ⟨negative, fraction, -1074⟩
  else some ⟨negative, pow2 52 + fraction, (field : Int) - 1075⟩

/-- The double with this reading, for a mantissa below `2^53` and an exponent from -1074 on. -/
def toFloat (b : Binary) : Float :=
  let room := (52 : Int) - (Nat.log2 b.mantissa : Int)
  let shift := (min room (b.exponent + 1074)).toNat
  let mantissa := if b.mantissa = 0 then 0 else b.mantissa * pow2 shift
  let exponent := b.exponent - shift
  let magnitude :=
    if mantissa < pow2 52 then mantissa
    else (exponent + 1075).toNat * pow2 52 + (mantissa - pow2 52)
  let sign := if b.negative then pow2 63 else 0
  Float.ofBits (UInt64.ofNat (sign + magnitude))

/-- The whole number below the magnitude. -/
def whole (b : Binary) : Nat :=
  if 0 ≤ b.exponent then b.mantissa * pow2 b.exponent.toNat
  else b.mantissa / pow2 (-b.exponent).toNat

/-- The integer part: the fraction is cut off, toward zero. -/
def trunc (b : Binary) : Int :=
  if b.negative then -(b.whole : Int) else b.whole

/-- No fractional part. -/
def isIntegral (b : Binary) : Bool :=
  if 0 ≤ b.exponent then true
  else b.mantissa % pow2 (-b.exponent).toNat == 0

/-- The nearest integer of the magnitude; a half goes away from zero. -/
def nearest (b : Binary) : Nat :=
  if 0 ≤ b.exponent then b.mantissa * pow2 b.exponent.toNat
  else
    let unit := pow2 (-b.exponent).toNat
    (2 * b.mantissa + unit) / (2 * unit)

/-- The remainder of a division that truncates; the sign is the dividend's. -/
def rem (a b : Binary) : Binary :=
  let exponent := min a.exponent b.exponent
  let left := a.mantissa * pow2 (a.exponent - exponent).toNat
  let right := b.mantissa * pow2 (b.exponent - exponent).toNat
  ⟨a.negative, left % right, exponent⟩

end Binary

/-- Neither an infinity nor NaN. -/
def isFinite (x : Float) : Bool :=
  (Binary.ofFloat? x).isSome

/-- The double of the magnitude's nearest integer; infinities and NaN stay as they are. -/
def roundHalfAway (x : Float) : Float :=
  match Binary.ofFloat? x with
  | none => x
  | some b =>
    if 0 ≤ b.exponent then x
    else
      let magnitude := Float.ofNat b.nearest
      if b.negative then -magnitude else magnitude

/-- The remainder of `x / y` toward zero: NaN for a zero divisor or an infinite dividend. -/
def remainder (x y : Float) : Float :=
  match Binary.ofFloat? x, Binary.ofFloat? y with
  | some a, some b => if b.mantissa = 0 then 0.0 / 0.0 else (a.rem b).toFloat
  | some _, none => if y == y then x else y
  | none, _ => 0.0 / 0.0

/-- The smaller of two doubles; a NaN gives way to the other side. -/
def least (x y : Float) : Float :=
  if x == x then (if y == y then (if y < x then y else x) else x) else y

/-- The larger of two doubles; a NaN gives way to the other side. -/
def greatest (x y : Float) : Float :=
  if x == x then (if y == y then (if x < y then y else x) else x) else y

/-- `10^d` for a small `d`: a product for `d ≥ 0`, its inverse below. -/
def powerOfTen (d : Int) : Float :=
  if 0 ≤ d then Float.ofNat (pow10 d.toNat) else 1.0 / Float.ofNat (pow10 (-d).toNat)

end Decimal

end RecordDesk
