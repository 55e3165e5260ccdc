import RecordDesk.Decimal.Shortest

/-
  Numbers read from text. An integer is an optional sign and digits. A double is an optional
  sign and either digits with at most one point, on either side of which digits may be missing
  but not on both, and an optional exponent, or one of the words `inf`, `infinity` and `nan` in
  any case. Digits are the ten ASCII digits, and nothing else may stand in the text.
-/

namespace RecordDesk.Decimal

/-- The value of a digit string read in base ten. -/
def digitsValue (cs : List Char) : Nat :=
  cs.foldl (fun n c => 10 * n + (c.toNat - '0'.toNat)) 0

/-- A sign, if there is one, and the rest. -/
def takeSign : List Char → Bool × List Char
  | '-' :: cs => (true, cs)
  | '+' :: cs => (false, cs)
  | cs => (false, cs)

/-- A non-empty run of digits and nothing else. -/
def readDigits? (cs : List Char) : Option Nat :=
  if cs.isEmpty then none
  else if cs.all Char.isDigit then some (digitsValue cs)
  else none

/-- An optional sign and digits, of any size. -/
def readInteger? (cs : List Char) : Option Int :=
  let (negative, rest) := takeSign cs
  (readDigits? rest).map fun n => if negative then -(n : Int) else n

/-- The integers of 64 bits with a sign. -/
def isInt64 (n : Int) : Bool := -(pow2 63 : Int) ≤ n && n < pow2 63

/-- An integer of 64 bits with a sign. -/
def readInt64? (s : String) : Option Int :=
  (readInteger? s.toList).filter isInt64

/-- The double nearest to `± n · 10^e`; too large a value is infinite, too small a one zero. -/
def nearestFloat (negative : Bool) (n : Nat) (e : Int) : Float :=
  let size := (digitCount n : Int) + e
  let magnitude : Float :=
    if n = 0 then 0.0
    else if 400 < size then 1.0 / 0.0
    else if size < -400 then 0.0
    else Float.ofScientific n (decide (e < 0)) e.natAbs
  if negative then -magnitude else magnitude

/-- The exponent part of a number: nothing, or a mark, an optional sign and digits. -/
def readExponent? : List Char → Option Int
  | [] => some 0
  | c :: cs => if c = 'e' ∨ c = 'E' then readInteger? cs else none

/-- Digits with an optional point, then an optional exponent: the digits as one number, and the
power of ten it is multiplied by. -/
def readScientific? (cs : List Char) : Option (Nat × Int) :=
  let whole := cs.takeWhile Char.isDigit
  let rest := cs.dropWhile Char.isDigit
  let pointed := rest.head? = some '.'
  let afterPoint := if pointed then rest.drop 1 else rest
  let fraction := if pointed then afterPoint.takeWhile Char.isDigit else []
  let tail := if pointed then afterPoint.dropWhile Char.isDigit else rest
  if whole.isEmpty && fraction.isEmpty then none
  else
    (readExponent? tail).map fun e =>
      (digitsValue (whole ++ fraction), e - (fraction.length : Int))

/-- A double in decimal notation, or one of the three words. -/
def readFloat? (s : String) : Option Float :=
  let (negative, rest) := takeSign s.toList
  let word := String.ofList (rest.map Char.toLower)
  if word = "inf" ∨ word = "infinity" then
    some (if negative then -1.0 / 0.0 else 1.0 / 0.0)
  else if word = "nan" then some (0.0 / 0.0)
  else (readScientific? rest).map fun (n, e) => nearestFloat negative n e

end RecordDesk.Decimal
