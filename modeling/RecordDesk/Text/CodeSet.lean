/-
  Sets of code points, given as runs. A set is written in rows of text, one
  `first-last` or single code point after another in hexadecimal, which keeps the tables of Unicode
  properties legible.
-/

namespace RecordDesk.Text

/-- A set of code points: runs `(first, last)`, both ends included. -/
structure CodeSet where
  runs : List (Nat × Nat)
deriving DecidableEq, Repr

namespace CodeSet

/-- The set holds the code point. -/
def contains (s : CodeSet) (c : Nat) : Bool :=
  s.runs.any fun (first, last) => first ≤ c && c ≤ last

/-- The empty set. -/
def empty : CodeSet := ⟨[]⟩

/-- Every code point. -/
def all : CodeSet := ⟨[(0, 0x10FFFF)]⟩

/-- The code points of either set. -/
def union (s t : CodeSet) : CodeSet := ⟨s.runs ++ t.runs⟩

@[simp] theorem contains_empty (c : Nat) : empty.contains c = false := rfl

@[simp] theorem contains_union (s t : CodeSet) (c : Nat) :
    (s.union t).contains c = (s.contains c || t.contains c) := by
  simp [contains, union]

/-- The value of one hexadecimal digit; zero for any other character. -/
def hexDigit (c : Char) : Nat :=
  if '0' ≤ c ∧ c ≤ '9' then c.toNat - '0'.toNat
  else if 'A' ≤ c ∧ c ≤ 'F' then c.toNat - 'A'.toNat + 10
  else if 'a' ≤ c ∧ c ≤ 'f' then c.toNat - 'a'.toNat + 10
  else 0

/-- One step over the text of a set: the runs so far, the start of an open run, and the number
being read. -/
def readStep (state : List (Nat × Nat) × Option Nat × Nat) (c : Char) :
    List (Nat × Nat) × Option Nat × Nat :=
  let (runs, start, n) := state
  if c = '-' then (runs, some n, 0)
  else if c = ' ' then ((start.getD n, n) :: runs, none, 0)
  else (runs, start, 16 * n + hexDigit c)

/-- The runs written in one row of a table, a blank between two of them. -/
def readRow (row : String) : List (Nat × Nat) :=
  let (runs, start, n) := row.toList.foldl readStep ([], none, 0)
  ((start.getD n, n) :: runs).reverse

/-- The set written in rows. -/
def ofRows (rows : List String) : CodeSet := ⟨rows.flatMap readRow⟩

end CodeSet

end RecordDesk.Text
