import RecordDesk.Toml.Basic
import RecordDesk.Calendar.Date
import RecordDesk.Decimal.Read

/-
  Scalars of TOML: flags, numbers, days and times. Digits of a number may be grouped by single
  underscores, and whole numbers may be written in base sixteen, eight or two.
-/

namespace RecordDesk.Toml

/-! ## Numbers -/

/-- The digits of a run in which single underscores may stand between digits. -/
def grouped? (isDigit : Char → Bool) : List Char → Option (List Char)
  | [] => none
  | [c] => if isDigit c then some [c] else none
  | c :: '_' :: cs => if isDigit c then (grouped? isDigit cs).map (c :: ·) else none
  | c :: d :: cs => if isDigit c then (grouped? isDigit (d :: cs)).map (c :: ·) else none

/-- Digits of base ten without a needless zero in front. -/
def decimalDigits? (cs : List Char) : Option (List Char) :=
  (grouped? Char.isDigit cs).filter fun digits => digits.length = 1 || digits.head? != some '0'

/-- The value of a digit in bases up to sixteen. -/
def digitValue (c : Char) : Nat :=
  if c.isDigit then c.toNat - '0'.toNat
  else if 'a' ≤ c then c.toNat - 'a'.toNat + 10
  else c.toNat - 'A'.toNat + 10

/-- The digits of a base. -/
def isDigitOf (base : Nat) (c : Char) : Bool :=
  (c.isDigit || ('a' ≤ c && c ≤ 'f') || ('A' ≤ c && c ≤ 'F')) && digitValue c < base

/-- A whole number in a base. -/
def inBase? (base : Nat) (cs : List Char) : Option Int :=
  (grouped? (isDigitOf base) cs).map fun digits =>
    (digits.foldl (fun n c => base * n + digitValue c) 0 : Nat)

/-- Whole numbers of at most 128 bits. -/
def isWide (n : Int) : Bool := -(pow2 127 : Int) ≤ n && n < pow2 128

/-- A whole number. -/
def integer? (cs : List Char) : Option Int :=
  let read := match cs with
    | '0' :: 'x' :: digits => inBase? 16 digits
    | '0' :: 'o' :: digits => inBase? 8 digits
    | '0' :: 'b' :: digits => inBase? 2 digits
    | _ =>
      let (negative, digits) := Decimal.takeSign cs
      (decimalDigits? digits).map fun ds =>
        let n : Int := Decimal.digitsValue ds
        if negative then -n else n
  read.filter isWide

/-- An exponent: a sign or none, and digits. -/
def exponent? (cs : List Char) : Option (List Char) :=
  let (negative, digits) := Decimal.takeSign cs
  (grouped? Char.isDigit digits).map fun ds => if negative then '-' :: ds else ds

/-- The text of a number with a point or an exponent, without its underscores. -/
def floatDigits? (cs : List Char) : Option (List Char) := do
  let isMark (c : Char) := c == 'e' || c == 'E'
  let mantissa := cs.takeWhile (!isMark ·)
  let tail ← match cs.dropWhile (!isMark ·) with
    | [] => some []
    | _ :: rest => (exponent? rest).map ('e' :: ·)
  let whole ← decimalDigits? (mantissa.takeWhile (· != '.'))
  match mantissa.dropWhile (· != '.') with
  | [] => if tail.isEmpty then none else some (whole ++ tail)
  | _ :: fraction => do
    let fraction ← grouped? Char.isDigit fraction
    return whole ++ '.' :: fraction ++ tail

/-- A double; one that is written with digits must be finite. -/
def float? (cs : List Char) : Option Float :=
  let (negative, rest) := Decimal.takeSign cs
  if rest = ['i', 'n', 'f'] then some (if negative then -1.0 / 0.0 else 1.0 / 0.0)
  else if rest = ['n', 'a', 'n'] then some (0.0 / 0.0)
  else do
    let digits ← floatDigits? rest
    let x ← (Decimal.readFloat? (String.ofList digits)).filter Decimal.isFinite
    return if negative then -x else x

/-! ## Days and times -/

/-- Digits of a fixed number at the start. -/
def fixed? (width : Nat) (cs : List Char) : Option (Nat × List Char) :=
  let digits := cs.take width
  if digits.length = width ∧ digits.all Char.isDigit then
    some (Decimal.digitsValue digits, cs.drop width)
  else none

/-- A character at the start. -/
def mark? (c : Char) : List Char → Option (List Char)
  | d :: cs => if c = d then some cs else none
  | [] => none

/-- A day of the calendar at the start. -/
def day? (cs : List Char) : Option (Day × List Char) := do
  let (year, cs) ← fixed? 4 cs
  let (month, cs) ← fixed? 2 (← mark? '-' cs)
  let (day, cs) ← fixed? 2 (← mark? '-' cs)
  if Calendar.isDay year month day then some (⟨year, month, day⟩, cs) else none

/-- Billionths of a second from the digits of a fraction; digits after the ninth do not count. -/
def nanoseconds (digits : List Char) : Nat :=
  let kept := digits.take 9
  Decimal.digitsValue kept * pow10 (9 - kept.length)

/-- Seconds and their fraction at the start, if there are any. -/
def seconds? : List Char → Option ((Option Nat × Option Nat) × List Char)
  | ':' :: cs => do
    let (second, cs) ← fixed? 2 cs
    match cs with
    | '.' :: rest =>
      let digits := rest.takeWhile Char.isDigit
      if digits.isEmpty then none
      else some ((some second, some (nanoseconds digits)), rest.drop digits.length)
    | _ => some ((some second, none), cs)
  | cs => some ((none, none), cs)

/-- A time of day at the start. -/
def clock? (cs : List Char) : Option (Clock × List Char) := do
  let (hour, cs) ← fixed? 2 cs
  let (minute, cs) ← fixed? 2 (← mark? ':' cs)
  let ((second, nanosecond), cs) ← seconds? cs
  if Calendar.isTime hour minute (second.getD 0) then some (⟨hour, minute, second, nanosecond⟩, cs)
  else none

/-- An offset, and nothing after it. -/
def offset? : List Char → Option Offset
  | ['Z'] | ['z'] => some .utc
  | sign :: cs =>
    if sign = '+' ∨ sign = '-' then do
      let (hours, cs) ← fixed? 2 cs
      let (minutes, cs) ← fixed? 2 (← mark? ':' cs)
      if hours < 24 ∧ minutes < 60 ∧ cs.isEmpty then
        let n : Int := hours * 60 + minutes
        some (.minutes (if sign = '-' then -n else n))
      else none
    else none
  | [] => none

/-- A time after a day, with an offset or without. -/
def clockOfDay? (day : Day) (cs : List Char) : Option Instant := do
  let (clock, rest) ← clock? cs
  if rest.isEmpty then return ⟨some day, some clock, none⟩
  else return ⟨some day, some clock, some (← offset? rest)⟩

/-- A day, a time, or both. -/
def instant? (cs : List Char) : Option Instant :=
  match day? cs with
  | some (day, []) => some ⟨some day, none, none⟩
  | some (day, c :: rest) => if c = 'T' ∨ c = 't' ∨ c = ' ' then clockOfDay? day rest else none
  | none =>
    match clock? cs with
    | some (clock, []) => some ⟨none, some clock, none⟩
    | _ => none

/-! ## Any scalar -/

/-- The scalar that a text is. -/
def scalar? (cs : List Char) : Option Toml :=
  if cs = ['t', 'r', 'u', 'e'] then some (boolean true)
  else if cs = ['f', 'a', 'l', 's', 'e'] then some (boolean false)
  else match instant? cs with
    | some i => some (instant i)
    | none =>
      match integer? cs with
      | some n => some (integer n)
      | none => (float? cs).map float

end RecordDesk.Toml
