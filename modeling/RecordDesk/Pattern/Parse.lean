import RecordDesk.Pattern.Named
import RecordDesk.Decimal.Read
import RecordDesk.Text.Blank
import RecordDesk.Json.Parse

/-
  Patterns read from text. There is no look-around and no reference back to a group; an escape that
  has no meaning is refused rather than taken literally. Flags apply from where they are set to the
  end of the group around them.
-/

namespace RecordDesk.Pattern

/-! ## Flags -/

/-- The flags in force: letters without case, lines with their own ends, a dot for line ends too,
all of Unicode, carriage returns as line ends, and blanks that only separate. -/
structure Flags where
  anyCase : Bool
  multiLine : Bool
  dotAll : Bool
  unicode : Bool
  anyLineEnd : Bool
  spaced : Bool

/-- The flags at the start of a pattern. -/
def Flags.initial : Flags := ⟨false, false, false, true, false, false⟩

/-- Sets or clears the flag of a letter. The letter for lazy repetition changes nothing about
whether a text matches. -/
def Flags.put (f : Flags) (letter : Char) (on : Bool) : Option Flags :=
  match letter with
  | 'i' => some { f with anyCase := on }
  | 'm' => some { f with multiLine := on }
  | 's' => some { f with dotAll := on }
  | 'u' => some { f with unicode := on }
  | 'R' => some { f with anyLineEnd := on }
  | 'x' => some { f with spaced := on }
  | 'U' => some f
  | _ => none

/-! ## Blanks -/

/-- The text after a comment, which ends with its line. -/
def afterComment (cs : List Char) : List Char := (cs.dropWhile (· != '\n')).drop 1

/-- The text after blanks and comments, where these only separate. -/
def skipFrom : (fuel : Nat) → List Char → List Char
  | 0, cs => cs
  | fuel + 1, c :: cs =>
    if Text.isBlank c then skipFrom fuel cs
    else if c = '#' then skipFrom fuel (afterComment cs)
    else c :: cs
  | _ + 1, [] => []

/-- The text after blanks and comments if the flag for that is set. -/
def skip (f : Flags) (cs : List Char) : List Char :=
  if f.spaced then skipFrom (cs.length + 1) cs else cs

/-! ## Pieces -/

/-- A pattern with its size: how deep it is nested, and the cost of an automaton for it. -/
structure Piece where
  node : Node
  depth : Nat
  cost : Nat
  /-- The pattern matches the empty text only. -/
  zeroWidth : Bool

/-- The piece for the empty text. -/
def Piece.empty : Piece := ⟨.empty, 0, 1, true⟩

/-- A condition on a position. -/
def Piece.look (l : Look) : Piece := ⟨.look l, 0, 1, true⟩

/-- One character of a class. The states for a class grow with its runs, but runs that touch share
theirs, and the largest classes need about seven hundred. -/
def Piece.set (c : Class) (depth : Nat) : Piece := ⟨.set c, depth, max 1 (min c.size 700), false⟩

/-- One piece after another. A single piece stands for itself. -/
def Piece.sequence : List Piece → Piece
  | [] => .empty
  | [p] => p
  | p :: ps =>
    let all := p :: ps
    { node := ps.foldl (fun n q => .seq n q.node) p.node
      depth := 1 + (all.map (·.depth)).foldl max 0
      cost := (all.map (·.cost)).foldl (· + ·) 0
      zeroWidth := all.all (·.zeroWidth) }

/-- One piece or another. -/
def Piece.choice : List Piece → Piece
  | [] => .empty
  | [p] => p
  | p :: ps =>
    let all := p :: ps
    { node := ps.foldl (fun n q => .alt n q.node) p.node
      depth := 1 + (all.map (·.depth)).foldl max 0
      cost := (all.map (·.cost)).foldl (· + ·) 1
      zeroWidth := all.all (·.zeroWidth) }

/-- A piece several times over. -/
def Piece.times (p : Piece) (least : Nat) (most : Option Nat) : Piece :=
  let copies := if p.zeroWidth then 1 else match most with
    | none => least + 1
    | some most => most
  { node := .times p.node least most
    depth := 1 + p.depth
    cost := 1 + copies * (p.cost + 1)
    zeroWidth := p.zeroWidth || most == some 0 }

/-! ## Escapes -/

/-- What an escape or a single character of a class can be. -/
inductive Atom
  /-- A character; `byte` tells that it was written with two hexadecimal digits. -/
  | literal (n : Nat) (byte : Bool)
  | cls (c : Class)
  | look (l : Look)

/-- Characters with a meaning of their own, which an escape takes away. -/
def isMeta (c : Char) : Bool := "\\.+*?()|[]\x7b\x7d^$#&-~".toList.contains c

/-- A superfluous escape is allowed before ASCII characters that are neither letters nor digits nor
angle brackets. -/
def isEscapable (c : Char) : Bool :=
  isMeta c || (c.toNat < 128 && !c.isAlphanum && c != '<' && c != '>')

/-- A code point that is a character. -/
def scalar? (n : Nat) : Option Nat :=
  if n < 0xD800 ∨ (0xDFFF < n ∧ n < 0x110000) then some n else none

/-- The value of hexadecimal digits. -/
def hexNumber? (cs : List Char) : Option Nat := do
  let ds ← cs.mapM Json.hexValue?
  return ds.foldl (fun n d => 16 * n + d) 0

/-- Takes characters one by one, passing over blanks after each where these only separate. -/
def takeSpaced (f : Flags) : (count : Nat) → List Char → Option (List Char × List Char)
  | 0, cs => some ([], cs)
  | count + 1, c :: cs => do
    let (taken, rest) ← takeSpaced f count (skip f cs)
    return (c :: taken, rest)
  | _ + 1, [] => none

/-- Takes characters up to a closing brace, passing over blanks where these only separate. -/
def takeBraced (f : Flags) : (fuel : Nat) → List Char → Option (List Char × List Char)
  | 0, _ => none
  | fuel + 1, cs =>
    match skip f cs with
    | [] => none
    | '\x7d' :: rest => some ([], rest)
    | c :: rest => do
      let (taken, last) ← takeBraced f fuel rest
      return (c :: taken, last)

/-- A character by its hexadecimal code, in braces or with a fixed number of digits. -/
def hexEscape? (f : Flags) (letter : Char) (cs : List Char) : Option (Atom × List Char) := do
  match skip f cs with
  | '\x7b' :: rest =>
    let (ds, rest) ← takeBraced f (rest.length + 1) rest
    if ds.isEmpty then none
    else
      let n ← (← hexNumber? ds) |> scalar?
      return (.literal n false, skip f rest)
  | rest =>
    let count := if letter = 'x' then 2 else if letter = 'u' then 4 else 8
    let (ds, rest) ← takeSpaced f count rest
    let n ← (← hexNumber? ds) |> scalar?
    return (.literal n (letter == 'x'), rest)

/-- A text split at the first place where a pattern stands. -/
def splitAt? (pattern : List Char) : List Char → Option (List Char × List Char)
  | [] => none
  | c :: cs =>
    if pattern.isPrefixOf (c :: cs) then some ([], (c :: cs).drop pattern.length)
    else (splitAt? pattern cs).map fun (before, after) => (c :: before, after)

/-- The class of a property as it is written between braces, and whether it is turned around. -/
def braceClass? (text : List Char) : Option (Class × Bool) :=
  let value (parts : List Char × List Char) :=
    valueClass? (String.ofList parts.1) (String.ofList parts.2)
  match splitAt? ['!', '='] text with
  | some parts => (value parts).map (·, true)
  | none =>
    match (splitAt? [':'] text).or (splitAt? ['='] text) with
    | some parts => (value parts).map (·, false)
    | none => (namedClass? (String.ofList text)).map (·, false)

/-- A class under the flag for letters without case. -/
def folded (f : Flags) (c : Class) : Class :=
  if f.anyCase then (if f.unicode then .anyCase c else .anyAsciiCase c) else c

/-- A class or its complement. -/
def turned (negated : Bool) (c : Class) : Class := if negated then .complement c else c

/-- A class of Unicode properties after the letter of its escape. -/
def propertyEscape? (f : Flags) (negated : Bool) (cs : List Char) : Option (Atom × List Char) := do
  if !f.unicode then none
  else match skip f cs with
  | [] | '\\' :: _ => none
  | '\x7b' :: rest =>
    let (name, rest) ← takeBraced f (rest.length + 1) rest
    let (c, inverted) ← braceClass? name
    return (.cls (turned (negated != inverted) (folded f c)), rest)
  | letter :: rest =>
    let c ← namedClass? (String.singleton letter)
    return (.cls (turned negated (folded f c)), skip f rest)

/-- The class of word characters under the flags. -/
def wordClass (f : Flags) : Class := shorthand f.unicode 'w'

/-- Letters and hyphens, of which the names of word conditions are made. -/
def inWordName (c : Char) : Bool := c.isAlpha || c == '-'

/-- The characters of the name of a word condition, blanks passed over. -/
def takeWordName (f : Flags) : (fuel : Nat) → List Char → List Char × List Char
  | 0, cs => ([], cs)
  | fuel + 1, c :: cs =>
    if inWordName c then
      let (taken, rest) := takeWordName f fuel (skip f cs)
      (c :: taken, rest)
    else ([], c :: cs)
  | _ + 1, [] => ([], [])

/-- A word boundary, or a condition named in braces after it. Braces that do not start with a letter
or a hyphen are left to be a repetition. -/
def boundaryEscape? (f : Flags) (cs : List Char) : Option (Atom × List Char) :=
  let plain := some (Atom.look (.wordBoundary (wordClass f)), cs)
  match cs with
  | '\x7b' :: inside =>
    match skip f inside with
    | [] => none
    | start =>
      if (start.head?.map inWordName).getD false then
        let (name, rest) := takeWordName f (start.length + 1) start
        match rest with
        | '\x7d' :: rest =>
          let word := wordClass f
          match String.ofList name with
          | "start" => some (.look (.wordStart word), rest)
          | "end" => some (.look (.wordEnd word), rest)
          | "start-half" => some (.look (.wordStartHalf word), rest)
          | "end-half" => some (.look (.wordEndHalf word), rest)
          | _ => none
        | _ => none
      else plain
  | _ => plain

/-- A shorthand class; outside of Unicode only those that stay within ASCII. -/
def shorthandEscape? (f : Flags) (letter : Char) : Option Atom :=
  let c := shorthand f.unicode letter.toLower
  if letter.isLower then some (.cls c)
  else some (.cls (.complement c))

/-- What stands after a backslash. -/
def escape? (f : Flags) : List Char → Option (Atom × List Char)
  | [] => none
  | c :: cs =>
    if c = 'x' ∨ c = 'u' ∨ c = 'U' then hexEscape? f c cs
    else if c = 'p' ∨ c = 'P' then propertyEscape? f (c == 'P') cs
    else if ['d', 's', 'w', 'D', 'S', 'W'].contains c then
      (shorthandEscape? f c).map (·, cs)
    else if isEscapable c then some (.literal c.toNat false, cs)
    else match c with
      | 'a' => some (.literal 7 false, cs)
      | 'f' => some (.literal 12 false, cs)
      | 't' => some (.literal 9 false, cs)
      | 'n' => some (.literal 10 false, cs)
      | 'r' => some (.literal 13 false, cs)
      | 'v' => some (.literal 11 false, cs)
      | 'A' => some (.look .textStart, cs)
      | 'z' => some (.look .textEnd, cs)
      | 'b' => boundaryEscape? f cs
      | 'B' => some (.look (.noWordBoundary (wordClass f)), cs)
      | '<' => some (.look (.wordStart (wordClass f)), cs)
      | '>' => some (.look (.wordEnd (wordClass f)), cs)
      | _ => none

/-! ## Bracketed classes -/

/-- A class between brackets with the depth of its nesting. -/
structure Bracket where
  cls : Class
  depth : Nat

/-- The union of the items of a class. -/
def Bracket.union : List Bracket → Bracket
  | [] => ⟨.none, 0⟩
  | [b] => b
  | b :: bs =>
    ⟨bs.foldl (fun c other => .union c other.cls) b.cls,
      1 + ((b :: bs).map (·.depth)).foldl max 0⟩

/-- An operation between the items of a class. -/
inductive SetOperation
  | intersection
  | difference
  | symmetricDifference

/-- What came before an operation, with the operation. -/
abbrev Pending := Option (Bracket × SetOperation)

/-- The items so far, put behind what came before an operation. Both sides are taken without regard
to case first where the flag says so. -/
def Bracket.close (f : Flags) (pending : Pending) (items : List Bracket) : Bracket :=
  let right := Bracket.union items.reverse
  match pending with
  | none => right
  | some (left, op) =>
    let a := folded f left.cls
    let b := folded f right.cls
    let c := match op with
      | .intersection => Class.intersection a b
      | .difference => Class.difference a b
      | .symmetricDifference => Class.symmetricDifference a b
    ⟨c, 1 + max left.depth right.depth⟩

/-- A named class of ASCII at the start of the text: `[:name:]` or `[:^name:]`. -/
def asciiItem? (f : Flags) (cs : List Char) : Option (Bracket × List Char) :=
  match cs with
  | '[' :: ':' :: rest =>
    let negated := rest.head? == some '^'
    let body := if negated then rest.drop 1 else rest
    let name := body.takeWhile (· != ':')
    match body.dropWhile (· != ':') with
    | ':' :: ']' :: rest =>
      (asciiClass? (String.ofList name)).map fun c => (⟨turned negated (folded f c), 0⟩, rest)
    | _ => none
  | _ => none

/-- An item of a class: an escape or a plain character. -/
def classAtom? (f : Flags) : List Char → Option (Atom × List Char)
  | [] => none
  | '\\' :: cs => escape? f cs
  | c :: cs => some (.literal c.toNat false, cs)

/-- The code of a character that ends a range; without Unicode it has to be a single byte. -/
def rangeEnd? (f : Flags) : Atom → Option Nat
  | .literal n byte => if f.unicode || n < 128 || byte then some n else none
  | _ => none

/-- An item standing alone. -/
def itemClass? (f : Flags) : Atom → Option Class
  | .literal n byte => (rangeEnd? f (.literal n byte)).map .single
  | .cls c => some c
  | .look _ => none

/-- The text goes on with a range: a hyphen that neither ends the class nor starts a difference. -/
def startsRange (f : Flags) (cs : List Char) : Bool :=
  match cs with
  | '-' :: rest =>
    match skip f rest with
    | ']' :: _ | '-' :: _ => false
    | _ => true
  | _ => false

/-- An item or a range of a class. -/
def classItem? (f : Flags) (cs : List Char) : Option (Bracket × List Char) := do
  let (first, rest) ← classAtom? f cs
  let rest := skip f rest
  if startsRange f rest then
    let (second, rest) ← classAtom? f (skip f (rest.drop 1))
    let a ← rangeEnd? f first
    let b ← rangeEnd? f second
    if a ≤ b then return (⟨.range a b, 0⟩, rest) else none
  else return (⟨← itemClass? f first, 0⟩, rest)

/-- Hyphens at the start of a class, which stand for themselves. -/
def leadingHyphens (f : Flags) : (fuel : Nat) → List Char → List Bracket × List Char
  | fuel + 1, '-' :: cs =>
    let (bs, rest) := leadingHyphens f fuel (skip f cs)
    (⟨.single 45, 0⟩ :: bs, rest)
  | _, cs => ([], cs)

/-- The start of a class after its bracket: whether it is turned around, and the characters that
stand for themselves only there. -/
def classStart (f : Flags) (cs : List Char) : Bool × List Bracket × List Char :=
  let cs := skip f cs
  let negated := cs.head? == some '^'
  let cs := if negated then skip f (cs.drop 1) else cs
  let (hyphens, rest) := leadingHyphens f (cs.length + 1) cs
  match hyphens, rest with
  | [], ']' :: rest => (negated, [⟨.single 93, 0⟩], skip f rest)
  | _, _ => (negated, hyphens, rest)

mutual

/-- A bracketed class after its opening bracket. -/
def bracketed? (f : Flags) : (fuel : Nat) → List Char → Option (Bracket × List Char)
  | 0, _ => none
  | fuel + 1, cs => do
    let (negated, items, rest) := classStart f cs
    let (b, rest) ← classBody? f fuel none items.reverse rest
    return (⟨turned negated (folded f b.cls), 1 + b.depth⟩, rest)

/-- The rest of a bracketed class up to its closing bracket. The items so far are held back to
front. -/
def classBody? (f : Flags) : (fuel : Nat) → Pending → List Bracket → List Char →
    Option (Bracket × List Char)
  | 0, _, _, _ => none
  | fuel + 1, pending, items, cs =>
    match skip f cs with
    | [] => none
    | ']' :: rest => some (Bracket.close f pending items, rest)
    | '&' :: '&' :: rest =>
      classBody? f fuel (some (Bracket.close f pending items, .intersection)) [] rest
    | '-' :: '-' :: rest =>
      classBody? f fuel (some (Bracket.close f pending items, .difference)) [] rest
    | '~' :: '~' :: rest =>
      classBody? f fuel (some (Bracket.close f pending items, .symmetricDifference)) [] rest
    | '[' :: rest =>
      match asciiItem? f ('[' :: rest) with
      | some (b, rest) => classBody? f fuel pending (b :: items) rest
      | none => do
        let (b, rest) ← bracketed? f fuel rest
        classBody? f fuel pending (b :: items) rest
    | c :: rest => do
      let (b, rest) ← classItem? f (c :: rest)
      classBody? f fuel pending (b :: items) rest

end

/-! ## Repetition -/

/-- The text after the mark of a lazy repetition, if there is one. -/
def afterLazy : List Char → List Char
  | '?' :: cs => cs
  | cs => cs

/-- A count: digits with blanks around them, below `2^32`. -/
def count? (f : Flags) (cs : List Char) : Option (Nat × List Char) :=
  let start := cs.dropWhile Text.isBlank
  let rec digits : (fuel : Nat) → List Char → List Char × List Char
    | fuel + 1, c :: cs =>
      if c.isDigit then
        let (ds, rest) := digits fuel (skip f cs)
        (c :: ds, rest)
      else ([], c :: cs)
    | _, cs => ([], cs)
  let (ds, rest) := digits (start.length + 1) start
  let n := Decimal.digitsValue ds
  if ds.isEmpty || pow2 32 ≤ n then none
  else some (n, skip f (rest.dropWhile Text.isBlank))

/-- The bounds of a counted repetition after its opening brace. -/
def bounds? (f : Flags) (cs : List Char) : Option ((Nat × Option Nat) × List Char) := do
  let (least, rest) ← count? f (skip f cs)
  match rest with
  | '\x7d' :: rest => return ((least, some least), skip f rest)
  | ',' :: rest =>
    match skip f rest with
    | '\x7d' :: rest => return ((least, none), skip f rest)
    | rest =>
      let (most, rest) ← count? f rest
      match rest with
      | '\x7d' :: rest => if least ≤ most then return ((least, some most), skip f rest) else none
      | _ => none
  | _ => none

/-! ## Groups and sequences -/

/-- A piece of a sequence; a change of flags cannot be repeated. -/
inductive Item
  | piece (p : Piece)
  | flags

/-- The flags in force and the names of groups so far. -/
structure State where
  flags : Flags
  names : List String

/-- Takes the last item of a sequence, if it can be repeated. -/
def takeLast? : List Item → Option (Piece × List Item)
  | .piece p :: items => some (p, items)
  | _ => none

/-- The pieces of a sequence, whose items are held back to front. -/
def sequenceOf (items : List Item) : Piece :=
  .sequence (items.reverse.map fun
    | .piece p => p
    | .flags => .empty)

/-- Letters of any script, and characters used as such. -/
def isLetter (c : Char) : Bool := c.isAlpha || Text.alphabetic.contains c.toNat

/-- Letters and numbers of any script. -/
def isLetterOrNumber (c : Char) : Bool :=
  c.isAlphanum || isLetter c || (Text.categories ["Nd", "Nl", "No"]).contains c.toNat

/-- The name of a group up to its closing bracket. -/
def groupName? (cs : List Char) : Option (String × List Char) :=
  let name := cs.takeWhile (· != '>')
  match cs.dropWhile (· != '>') with
  | [] => none
  | _ :: rest =>
    let starts (c : Char) := c == '_' || isLetter c
    let continues (c : Char) := ['_', '.', '[', ']'].contains c || isLetterOrNumber c
    match name with
    | [] => none
    | c :: more =>
      if starts c && more.all continues then some (String.ofList name, rest) else none

/-- Flag letters up to a colon or a closing parenthesis: the flags they leave, and how many letters
and signs there were. `seen` holds those already met, none of which may come again. -/
def flagLetters? (f : Flags) (on : Bool) (seen : List Char) :
    List Char → Option (Flags × List Char × List Char)
  | [] => none
  | c :: cs =>
    if c = ':' ∨ c = ')' then
      if seen.head? = some '-' then none else some (f, seen, c :: cs)
    else if seen.contains c then none
    else if c = '-' then flagLetters? f false ('-' :: seen) cs
    else do flagLetters? (← f.put c on) on (c :: seen) cs

/-- The condition of a start or end mark. -/
def startLook (f : Flags) : Look :=
  if f.multiLine then if f.anyLineEnd then .lineStartAnyEnd else .lineStart else .textStart

/-- The condition of an end mark. -/
def endLook (f : Flags) : Look :=
  if f.multiLine then if f.anyLineEnd then .lineEndAnyEnd else .lineEnd else .textEnd

/-- The class of a dot. Without Unicode a dot would match parts of characters. -/
def dotClass? (f : Flags) : Option Class :=
  if !f.unicode then none
  else if f.dotAll then some (.codes .all)
  else if f.anyLineEnd then some (.complement (.union (.single 10) (.single 13)))
  else some (.complement (.single 10))

/-- An escape or a plain character as a piece. Without Unicode nothing may match parts of a
character. -/
def atomPiece? (f : Flags) : Atom → Option Piece
  | .literal n byte =>
    if !f.unicode && byte && 128 ≤ n then none
    else some { Piece.set (folded f (.single n)) 0 with cost := (Char.ofNat n).utf8Size }
  | .cls c => if f.unicode || c.withinAscii then some (.set c 0) else none
  | .look l => some (.look l)

mutual

/-- Alternatives up to the end of the text or of the group around them. -/
def choice? : (fuel : Nat) → State → List Char → Option (Piece × State × List Char)
  | 0, _, _ => none
  | fuel + 1, st, cs => do
    let (p, st, rest) ← sequence? fuel st [] cs
    match rest with
    | '|' :: rest => do
      let (ps, st, rest) ← choices? fuel st rest
      return (.choice (p :: ps), st, rest)
    | rest => return (p, st, rest)

/-- The alternatives after the first. -/
def choices? : (fuel : Nat) → State → List Char → Option (List Piece × State × List Char)
  | 0, _, _ => none
  | fuel + 1, st, cs => do
    let (p, st, rest) ← sequence? fuel st [] cs
    match rest with
    | '|' :: rest => do
      let (ps, st, rest) ← choices? fuel st rest
      return (p :: ps, st, rest)
    | rest => return ([p], st, rest)

/-- A sequence of items up to the end of an alternative. The items so far are held back to
front. -/
def sequence? : (fuel : Nat) → State → List Item → List Char →
    Option (Piece × State × List Char)
  | 0, _, _, _ => none
  | fuel + 1, st, items, cs =>
    match skip st.flags cs with
    | [] => some (sequenceOf items, st, [])
    | '|' :: rest => some (sequenceOf items, st, '|' :: rest)
    | ')' :: rest => some (sequenceOf items, st, ')' :: rest)
    | '*' :: rest => do
      let (p, items) ← takeLast? items
      sequence? fuel st (.piece (p.times 0 none) :: items) (afterLazy rest)
    | '+' :: rest => do
      let (p, items) ← takeLast? items
      sequence? fuel st (.piece (p.times 1 none) :: items) (afterLazy rest)
    | '?' :: rest => do
      let (p, items) ← takeLast? items
      sequence? fuel st (.piece (p.times 0 (some 1)) :: items) (afterLazy rest)
    | '\x7b' :: rest => do
      let (p, items) ← takeLast? items
      let ((least, most), rest) ← bounds? st.flags rest
      sequence? fuel st (.piece (p.times least most) :: items) (afterLazy rest)
    | '(' :: rest => do
      let (item, st, rest) ← group? fuel st (skip st.flags rest)
      sequence? fuel st (item :: items) rest
    | '[' :: rest => do
      let (b, rest) ← bracketed? st.flags fuel rest
      if st.flags.unicode || b.cls.withinAscii then
        sequence? fuel st (.piece (.set b.cls b.depth) :: items) rest
      else none
    | '.' :: rest => do
      let c ← dotClass? st.flags
      sequence? fuel st (.piece (.set c 0) :: items) rest
    | '^' :: rest => sequence? fuel st (.piece (.look (startLook st.flags)) :: items) rest
    | '$' :: rest => sequence? fuel st (.piece (.look (endLook st.flags)) :: items) rest
    | '\\' :: rest => do
      let (a, rest) ← escape? st.flags rest
      sequence? fuel st (.piece (← atomPiece? st.flags a) :: items) rest
    | c :: rest => do
      let p ← atomPiece? st.flags (.literal c.toNat false)
      sequence? fuel st (.piece p :: items) rest

/-- A group after its opening parenthesis, or a change of flags. -/
def group? : (fuel : Nat) → State → List Char → Option (Item × State × List Char)
  | 0, _, _ => none
  | fuel + 1, st, cs =>
    match cs with
    | '?' :: '=' :: _ | '?' :: '!' :: _ | '?' :: '<' :: '=' :: _ | '?' :: '<' :: '!' :: _ => none
    | '?' :: 'P' :: '<' :: rest | '?' :: '<' :: rest => do
      let (name, rest) ← groupName? rest
      if st.names.contains name then none
      else grouped? fuel st { st with names := name :: st.names } rest
    | '?' :: rest => do
      let (flags, seen, rest) ← flagLetters? st.flags true [] rest
      match rest with
      | ')' :: rest =>
        if seen.isEmpty then none else return (.flags, { st with flags := flags }, rest)
      | _ :: rest => grouped? fuel st { st with flags := flags } rest
      | [] => none
    | rest => grouped? fuel st st rest

/-- The inside of a group and its closing parenthesis. The flags after it are those before it. -/
def grouped? : (fuel : Nat) → (outer inner : State) → List Char →
    Option (Item × State × List Char)
  | 0, _, _, _ => none
  | fuel + 1, outer, inner, cs => do
    let (p, last, rest) ← choice? fuel inner cs
    match rest with
    | ')' :: rest =>
      let piece := { p with depth := 1 + p.depth, cost := p.cost + 2 }
      return (.piece piece, { last with flags := outer.flags }, rest)
    | _ => none

end

/-! ## Limits -/

/-- The nesting that is allowed. -/
def depthLimit : Nat := 250

/-- The states that an automaton may have, roughly: ten megabytes of 32 bytes each. -/
def costLimit : Nat := 10 * pow2 20 / 32

/-- The pattern of a text, if the text is one. -/
def parse? (text : String) : Option Node := do
  let cs := text.toList
  let (p, _, rest) ← choice? (4 * cs.length + 4) ⟨.initial, []⟩ cs
  if rest.isEmpty && p.depth ≤ depthLimit && p.cost ≤ costLimit then some p.node else none

end RecordDesk.Pattern
