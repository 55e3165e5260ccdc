import RecordDesk.Text.Property
import RecordDesk.Text.Folding

/-
  Patterns: regular expressions over text, and where they match. A match is found with sets of
  positions: the positions reached so far, as one flag for every place between two characters. Each
  part of a pattern maps the set it starts from to the set it can end at, so the work is bounded by
  the size of the pattern and the text, whatever the pattern is.
-/

namespace RecordDesk.Pattern

/-! ## Character classes -/

/-- A set of characters. -/
inductive Class
  | codes (s : Text.CodeSet)
  | complement (c : Class)
  | union (a b : Class)
  | intersection (a b : Class)
  | difference (a b : Class)
  | symmetricDifference (a b : Class)
  /-- Every character one of whose case variants is in the class. -/
  | anyCase (c : Class)
  /-- Every character that is in the class up to the case of ASCII letters. -/
  | anyAsciiCase (c : Class)

namespace Class

/-- An ASCII letter in both cases, any other character alone. -/
def asciiVariants (n : Nat) : List Nat :=
  if 65 ≤ n ∧ n ≤ 90 then [n, n + 32] else if 97 ≤ n ∧ n ≤ 122 then [n, n - 32] else [n]

/-- The code point belongs to the class. -/
def contains : Class → Nat → Bool
  | codes s, n => s.contains n
  | complement c, n => !c.contains n
  | union a b, n => a.contains n || b.contains n
  | intersection a b, n => a.contains n && b.contains n
  | difference a b, n => a.contains n && !b.contains n
  | symmetricDifference a b, n => a.contains n != b.contains n
  | anyCase c, n => (Text.caseVariants n).any fun m => c.contains m
  | anyAsciiCase c, n => (asciiVariants n).any fun m => c.contains m

/-- The class without characters. -/
def none : Class := codes .empty

/-- The class of one run of characters. -/
def range (first last : Nat) : Class := codes ⟨[(first, last)]⟩

/-- The class of one character. -/
def single (n : Nat) : Class := range n n

/-- The number of runs that make up a class. -/
def size : Class → Nat
  | codes s => s.runs.length
  | complement c | anyCase c | anyAsciiCase c => c.size + 1
  | union a b | intersection a b | difference a b | symmetricDifference a b => a.size + b.size

/-- Only ASCII characters belong to the class. -/
def withinAscii : Class → Bool
  | codes s => s.runs.all fun run => run.2 < 128
  | complement _ => false
  | union a b | symmetricDifference a b => a.withinAscii && b.withinAscii
  | intersection a b => a.withinAscii || b.withinAscii
  | difference a _ => a.withinAscii
  | anyCase c | anyAsciiCase c => c.withinAscii

end Class

/-! ## Patterns -/

/-- A condition on a position. -/
inductive Look
  | textStart
  | textEnd
  | lineStart
  | lineEnd
  | lineStartAnyEnd
  | lineEndAnyEnd
  | wordBoundary (word : Class)
  | noWordBoundary (word : Class)
  | wordStart (word : Class)
  | wordEnd (word : Class)
  | wordStartHalf (word : Class)
  | wordEndHalf (word : Class)

/-- A pattern. -/
inductive Node
  | empty
  | set (c : Class)
  | look (l : Look)
  | seq (a b : Node)
  | alt (a b : Node)
  | times (a : Node) (least : Nat) (most : Option Nat)

/-! ## Matching -/

/-- The characters before and after a position. -/
structure Place where
  before : Option Char
  after : Option Char

/-- The places between the characters of a text, from its start to its end. -/
def places (before : Option Char) : List Char → List Place
  | [] => [⟨before, none⟩]
  | c :: cs => ⟨before, some c⟩ :: places (some c) cs

/-- The condition holds at a place. -/
def Look.holds (l : Look) (p : Place) : Bool :=
  let inWord (word : Class) (c : Option Char) := c.any (word.contains ·.toNat)
  match l with
  | textStart => p.before.isNone
  | textEnd => p.after.isNone
  | lineStart => p.before.isNone || p.before == some '\n'
  | lineEnd => p.after.isNone || p.after == some '\n'
  | lineStartAnyEnd =>
    p.before.isNone || p.before == some '\n' || (p.before == some '\r' && p.after != some '\n')
  | lineEndAnyEnd =>
    p.after.isNone || p.after == some '\r' || (p.after == some '\n' && p.before != some '\r')
  | wordBoundary word => inWord word p.before != inWord word p.after
  | noWordBoundary word => inWord word p.before == inWord word p.after
  | wordStart word => !inWord word p.before && inWord word p.after
  | wordEnd word => inWord word p.before && !inWord word p.after
  | wordStartHalf word => !inWord word p.before
  | wordEndHalf word => !inWord word p.after

/-- A set of positions: one flag for every place of a text. -/
abbrev Positions := List Bool

/-- The positions in either set. -/
def joined (s t : Positions) : Positions := List.zipWith (· || ·) s t

/-- The positions one character of the class further. -/
def advanced (c : Class) (text : List Char) (s : Positions) : Positions :=
  false :: List.zipWith (fun ch here => here && c.contains ch.toNat) text s

/-- Takes a step again and again, at most `count` times, and keeps every position on the way. Once a
step brings nothing new, no later one does. -/
def collect (step : Positions → Positions) : (count : Nat) → (all last : Positions) → Positions
  | 0, all, _ => all
  | count + 1, all, last =>
    let next := step last
    let more := joined all next
    if more == all then all else collect step count more next

/-- Takes a step `count` times, or until it changes nothing. -/
def iterate (step : Positions → Positions) : (count : Nat) → Positions → Positions
  | 0, s => s
  | count + 1, s =>
    let next := step s
    if next == s then s else iterate step count next

/-- The positions where the pattern can end when it starts from the set. After as many steps as the
text has places, one more step changes nothing, so counts are cut off there. -/
def Node.ends (text : List Char) : Node → Positions → Positions
  | empty, s => s
  | set c, s => advanced c text s
  | look l, s => List.zipWith (fun place here => here && l.holds place) (places none text) s
  | seq a b, s => b.ends text (a.ends text s)
  | alt a b, s => joined (a.ends text s) (b.ends text s)
  | times a least most, s =>
    let bound := text.length + 1
    let start := iterate (a.ends text) (min least bound) s
    let further := match most with
      | none => bound
      | some most => min (most - least) bound
    collect (a.ends text) further start start

/-- The pattern matches somewhere in the text. -/
def Node.occursIn (n : Node) (text : String) : Bool :=
  let cs := text.toList
  (n.ends cs (List.replicate (cs.length + 1) true)).any id

end RecordDesk.Pattern
