import RecordDesk.Decimal.Binary

/-
  A double with a fixed number of decimal places. The exact binary value is rounded, and a half
  goes to the even neighbour; a negative value keeps its sign even where it rounds to zero.
-/

namespace RecordDesk.Decimal

/-- `num / den` rounded to the nearest integer, a half to the even one. -/
def roundHalfEven (num den : Nat) : Nat :=
  let n := num / den
  let rest := num % den
  if 2 * rest < den then n
  else if den < 2 * rest then n + 1
  else if n % 2 = 0 then n else n + 1

/-- The magnitude in units of `10^-places`, rounded. -/
def Binary.scaled (b : Binary) (places : Nat) : Nat :=
  if 0 ≤ b.exponent then b.mantissa * pow2 b.exponent.toNat * pow10 places
  else roundHalfEven (b.mantissa * pow10 places) (pow2 (-b.exponent).toNat)

/-- A whole number of units of `10^-places`, with the point put in. -/
def placePoint (places n : Nat) : List Char :=
  let digits := Nat.toDigits 10 n
  let padded := List.replicate (places + 1 - digits.length) '0' ++ digits
  let split := padded.length - places
  if places = 0 then padded else padded.take split ++ '.' :: padded.drop split

/-- The text of a double with exactly `places` decimal places. -/
def fixed (places : Nat) (x : Float) : String :=
  match Binary.ofFloat? x with
  | some b =>
    let sign := if b.negative then ['-'] else []
    String.ofList (sign ++ placePoint places (b.scaled places))
  | none => if x == x then (if x < 0.0 then "-inf" else "inf") else "NaN"

end RecordDesk.Decimal
