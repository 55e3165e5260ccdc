import RecordDesk.Decimal.Binary

/-
  The shortest decimal text of a double. A double stands for every real number that rounds to
  it; the digits written are the fewest that fall into that interval, and of those the nearest
  to the double. Where two are equally near, the layout says which one is taken.
-/

namespace RecordDesk.Decimal

/-- Which of two equally near decimals is taken: the even one, or the one further from zero. -/
inductive Tie
  | toEven
  | away
deriving DecidableEq, Repr

/-- The number of decimal digits of `n`; one for zero. -/
def digitCount (n : Nat) : Nat :=
  (Nat.toDigits 10 n).length

/-- The exponent `k` with `10^k ≤ num / den < 10^(k+1)`, for positive `num` and `den`. -/
def magnitude (num den : Nat) : Int :=
  if den ≤ num then (digitCount (num / den) : Int) - 1
  else
    let count := digitCount (den / num)
    if den ≤ num * pow10 (count - 1) then 1 - (count : Int) else -(count : Int)

/-- The real numbers that round to a positive double, over one denominator. -/
structure Interval where
  low : Nat
  value : Nat
  high : Nat
  den : Nat
  closed : Bool

/-- The ends are halfway to the neighbours and belong to the interval iff the mantissa is even.
Below a power of two the lower neighbour is twice as near. -/
def Interval.ofBinary (b : Binary) : Interval :=
  let exponent := b.exponent - 2
  let unit := if 0 ≤ exponent then pow2 exponent.toNat else 1
  let den := if 0 ≤ exponent then 1 else pow2 (-exponent).toNat
  let value := 4 * b.mantissa
  let below := if b.mantissa = pow2 52 ∧ -1074 < b.exponent then 1 else 2
  ⟨(value - below) * unit, value * unit, (value + 2) * unit, den, b.mantissa % 2 == 0⟩

/-- The point of the grid `10^q · n` that lies in the interval and nearest to its value. -/
def Interval.onGrid? (i : Interval) (tie : Tie) (q : Int) : Option Nat :=
  let scale := if 0 ≤ q then 1 else pow10 (-q).toNat
  let step := if 0 ≤ q then i.den * pow10 q.toNat else i.den
  let value := i.value * scale
  let n := value / step
  let rest := value % step
  let lowIn := i.low * scale < n * step ∨ (i.closed = true ∧ i.low * scale = n * step)
  let highIn := (n + 1) * step < i.high * scale ∨ (i.closed = true ∧ (n + 1) * step = i.high * scale)
  if lowIn then
    if highIn then
      if 2 * rest < step then some n
      else if step < 2 * rest then some (n + 1)
      else match tie with
        | .away => some (n + 1)
        | .toEven => some (if n % 2 = 0 then n else n + 1)
    else some n
  else if highIn then some (n + 1)
  else none

/-- A positive decimal `digits · 10^exponent`. -/
structure Scientific where
  digits : Nat
  exponent : Int
deriving DecidableEq, Repr

/-- The first of the grids `10^q`, `10^(q-1)`, … that has a point in the interval. -/
def Interval.firstOnGrid (i : Interval) (tie : Tie) : Nat → Int → Scientific
  | 0, q => ⟨(i.onGrid? tie q).getD 0, q⟩
  | more + 1, q =>
    match i.onGrid? tie q with
    | some n => ⟨n, q⟩
    | none => i.firstOnGrid tie more (q - 1)

/-- The shortest decimal that reads back as the positive double `b`. -/
def shortest (tie : Tie) (b : Binary) : Scientific :=
  let i := Interval.ofBinary b
  i.firstOnGrid tie 17 (magnitude i.value i.den)

/-- How a double is laid out as text. -/
structure Layout where
  /-- Which of two equally near shortest decimals is written. -/
  tie : Tie
  /-- The decimal exponents written without an exponent mark. -/
  positional : Int → Bool
  /-- Whole numbers end in `.0` where no exponent is written. -/
  pointed : Bool
  /-- A positive exponent carries its sign. -/
  plus : Bool

/-- The digits without trailing zeros. -/
def significant (n : Nat) : List Char :=
  ((Nat.toDigits 10 n).reverse.dropWhile (· == '0')).reverse

/-- `d.ddd` at the decimal exponent `k`, without an exponent mark. -/
def positionalText (pointed : Bool) (digits : List Char) (k : Int) : List Char :=
  if k < 0 then
    '0' :: '.' :: (List.replicate (-k - 1).toNat '0' ++ digits)
  else
    let places := k.toNat + 1
    if places < digits.length then digits.take places ++ '.' :: digits.drop places
    else
      let whole := digits ++ List.replicate (places - digits.length) '0'
      if pointed then whole ++ ['.', '0'] else whole

/-- `d.ddde±k`. -/
def scientificText (plus : Bool) (digits : List Char) (k : Int) : List Char :=
  let lead := digits.take 1
  let tail := digits.drop 1
  let point := if tail.isEmpty then [] else '.' :: tail
  let sign := if k < 0 then ['-'] else if plus then ['+'] else []
  lead ++ point ++ 'e' :: (sign ++ Nat.toDigits 10 k.natAbs)

/-- The text of a finite double. -/
def Layout.finite (layout : Layout) (b : Binary) : List Char :=
  let sign := if b.negative then ['-'] else []
  if b.mantissa = 0 then sign ++ (if layout.pointed then ['0', '.', '0'] else ['0'])
  else
    let s := shortest layout.tie b
    let digits := significant s.digits
    let k := s.exponent + (digitCount s.digits : Int) - 1
    sign ++
      (if layout.positional k then positionalText layout.pointed digits k
       else scientificText layout.plus digits k)

/-- The text of any double; `NaN`, `inf` and `-inf` where it is not finite. -/
def Layout.write (layout : Layout) (x : Float) : String :=
  match Binary.ofFloat? x with
  | some b => String.ofList (layout.finite b)
  | none => if x == x then (if x < 0.0 then "-inf" else "inf") else "NaN"

/-- The layout for people: digits only, no exponent and no `.0`. -/
def plain : Layout := ⟨.away, fun _ => true, false, false⟩

/-- The text of a double for people. -/
def display (x : Float) : String := plain.write x

end RecordDesk.Decimal
