import RecordDesk.Calendar.Date
import RecordDesk.Decimal.Read
import RecordDesk.Text.Blank

/-
  Dates and moments read from text. A layout is a row of parts, and the whole text must be used.
  The internet layout with an offset from universal time is tried first; the offset is checked and
  left out, so what is read is the time on the wall where it was written.
-/

namespace RecordDesk.Calendar

/-- The numbers of a layout. -/
inductive Field
  | year
  | month
  | day
  | hour
  | minute
  | second
deriving DecidableEq, Repr

/-- A part of a layout. -/
inductive Part
  /-- A number of exactly as many digits as the field has. -/
  | exact (field : Field)
  /-- A number of up to as many digits as the field has, with white space in front; a year with a
  sign may have any number of digits. -/
  | loose (field : Field)
  /-- This character. -/
  | mark (c : Char)
  /-- A `T` in either case, or a space. -/
  | separator
  /-- White space, or none. -/
  | gap
  /-- A point and digits, or nothing. -/
  | fraction
  /-- A `Z` in either case, or a sign, hours and minutes of less than a day. -/
  | offset
deriving DecidableEq, Repr

/-- Numbers read so far; what a layout does not have is zero. -/
structure Numbers where
  year : Int
  month : Nat
  day : Nat
  hour : Nat
  minute : Nat
  second : Nat
deriving DecidableEq, Repr

/-- No numbers. -/
def Numbers.zero : Numbers := ⟨0, 0, 0, 0, 0, 0⟩

/-- The digits of a field. -/
def Field.width : Field → Nat
  | year => 4
  | _ => 2

/-- Sets the number of a field other than a year's sign. -/
def Numbers.set (numbers : Numbers) (field : Field) (n : Nat) : Numbers :=
  match field with
  | .year => { numbers with year := n }
  | .month => { numbers with month := n }
  | .day => { numbers with day := n }
  | .hour => { numbers with hour := n }
  | .minute => { numbers with minute := n }
  | .second => { numbers with second := n }

/-- The leading digits of a text, at most `most` of them if there is a limit, as a number. -/
def leadingNumber? (most : Option Nat) (cs : List Char) : Option (Nat × List Char) :=
  let run := cs.takeWhile Char.isDigit
  let digits := match most with
    | some n => run.take n
    | none => run
  if digits.isEmpty then none else some (Decimal.digitsValue digits, cs.drop digits.length)

/-- Exactly `width` digits at the start of a text. -/
def exactNumber? (width : Nat) (cs : List Char) : Option (Nat × List Char) :=
  let digits := cs.take width
  if digits.length = width ∧ digits.all Char.isDigit then
    some (Decimal.digitsValue digits, cs.drop width)
  else none

/-- A loose number of a field. -/
def looseNumber? (numbers : Numbers) (field : Field) (cs : List Char) :
    Option (Numbers × List Char) :=
  let unsigned (cs : List Char) :=
    (leadingNumber? (some field.width) cs).map fun (n, rest) => (numbers.set field n, rest)
  match field, Text.dropBlank cs with
  | .year, '-' :: rest =>
    (leadingNumber? none rest).map fun (n, rest) => ({ numbers with year := -(n : Int) }, rest)
  | .year, '+' :: rest =>
    (leadingNumber? none rest).map fun (n, rest) => (numbers.set .year n, rest)
  | _, start => unsigned start

/-- What follows an offset from universal time. -/
def afterOffset? : List Char → Option (List Char)
  | 'Z' :: rest | 'z' :: rest => some rest
  | sign :: rest =>
    if sign = '+' ∨ sign = '-' ∨ sign = '−' then do
      let (hours, rest) ← exactNumber? 2 rest
      let ':' :: rest := rest | none
      let (minutes, rest) ← exactNumber? 2 rest
      if hours < 24 ∧ minutes < 60 then some rest else none
    else none
  | [] => none

/-- What follows the fraction of a second, if there is one. -/
def afterFraction? : List Char → Option (List Char)
  | '.' :: rest => (leadingNumber? none rest).map Prod.snd
  | rest => some rest

/-- Reads one part. -/
def Part.read? (part : Part) (numbers : Numbers) (cs : List Char) : Option (Numbers × List Char) :=
  match part with
  | exact field =>
    (exactNumber? field.width cs).map fun (n, rest) => (numbers.set field n, rest)
  | loose field => looseNumber? numbers field cs
  | mark c =>
    match cs with
    | d :: rest => if c = d then some (numbers, rest) else none
    | [] => none
  | separator =>
    match cs with
    | d :: rest => if d = 'T' ∨ d = 't' ∨ d = ' ' then some (numbers, rest) else none
    | [] => none
  | gap => some (numbers, Text.dropBlank cs)
  | fraction => (afterFraction? cs).map (numbers, ·)
  | offset => (afterOffset? cs).map (numbers, ·)

/-- Reads all parts of a layout, and with them all of the text. -/
def readParts? (numbers : Numbers) : List Part → List Char → Option Numbers
  | [], cs => if cs.isEmpty then some numbers else none
  | part :: rest, cs => do
    let (numbers, cs) ← part.read? numbers cs
    readParts? numbers rest cs

/-! ## Layouts -/

/-- Year, month and day with hyphens. -/
def dateParts (part : Field → Part) : List Part :=
  [part .year, .mark '-', part .month, .mark '-', part .day]

/-- Hour, minute and second with colons. -/
def timeParts (part : Field → Part) : List Part :=
  [part .hour, .mark ':', part .minute, .mark ':', part .second]

/-- The layout of timestamps on the internet. -/
def internetLayout : List Part :=
  dateParts .exact ++ [.separator] ++ timeParts .exact ++ [.fraction, .offset]

/-- A date alone. -/
def dateLayout : List Part := dateParts .loose

/-- The layouts of a moment in the order in which they are tried. A date alone is its midnight. -/
def momentLayouts : List (List Part) := [
  internetLayout,
  dateParts .loose ++ [.mark 'T'] ++ timeParts .loose ++ [.fraction],
  dateParts .loose ++ [.gap] ++ timeParts .loose ++ [.fraction],
  dateParts .loose ++ [.mark 'T', .loose .hour, .mark ':', .loose .minute],
  dateLayout]

/-- The date that numbers give. -/
def Numbers.date? (n : Numbers) : Option Date := Date.of? n.year n.month n.day

/-- The moment that numbers give. -/
def Numbers.moment? (n : Numbers) : Option Moment := do
  Moment.of? (← n.date?) n.hour n.minute n.second

/-- The moment that a text gives in the first layout it has. -/
def moment? (text : String) : Option Moment :=
  momentLayouts.findSome? fun parts =>
    (readParts? .zero parts text.toList).bind Numbers.moment?

/-- The date that a text gives: a date alone, or the date of a moment. -/
def date? (text : String) : Option Date :=
  ((readParts? .zero dateLayout text.toList).bind Numbers.date?).or
    ((moment? text).map (·.date))

end RecordDesk.Calendar
