import RecordDesk.Arguments.Usage
import RecordDesk.Text.Search

/-
  Reading the words of a call. A switch with a value takes the word after it, or what follows an
  equals sign; letters may stand together after one dash, and all words after `--` are values. The
  values of a switch are checked only when the next word shows that they are complete.
-/

namespace RecordDesk

/-- What waits for values, or has them. -/
inductive Target
  | switch (s : Switch)
  | place (p : Place)
deriving DecidableEq, Repr

/-- Values that are not checked yet. The target is hungry while the next word may be its value. -/
structure Pending where
  target : Target
  values : List String
  hungry : Bool
deriving DecidableEq, Repr

/-- What was read of a command. -/
structure Scan where
  given : List (String × List String)
  places : List String
  pending : Option Pending
  /-- All further words are values. -/
  valuesOnly : Bool
deriving DecidableEq, Repr

namespace Scan

/-- Nothing read. -/
def start : Scan := ⟨[], [], none, false⟩

/-! ## Values -/

/-- Takes the values of a switch. A switch may be there once, unless it takes many texts. -/
def giveSwitch (s : Scan) (sw : Switch) (values : List String) : Except CallFault Scan :=
  if sw.takesValue && values.isEmpty then .error (.emptyValue sw.name)
  else match s.given.lookup sw.name with
    | some earlier =>
      if sw.takes = .texts then
        .ok { s with given := s.given.map fun (name, vs) =>
          if name = sw.name then (name, earlier ++ values) else (name, vs) }
      else .error (.repeated sw.name)
    | none =>
      if sw.takes = .path ∧ values.contains "" then .error (.emptyValue sw.name)
      else .ok { s with given := s.given ++ [(sw.name, values)] }

/-- Takes values for their target. -/
def give (s : Scan) (target : Target) (values : List String) : Except CallFault Scan :=
  match target with
  | .switch sw => s.giveSwitch sw values
  | .place p =>
    if p.isPath && values.contains "" then .error (.emptyValue p.valueName)
    else .ok { s with places := s.places ++ values }

/-- Takes the values that waited. -/
def resolve (s : Scan) : Except CallFault Scan :=
  match s.pending with
  | none => .ok s
  | some p => { s with pending := none }.give p.target p.values

/-! ## Switches -/

/-- A switch without a value. -/
def raise (s : Scan) (way : List String) (sw : Switch) : Except CallFault Scan := do
  let s ← s.resolve
  match sw.takes with
  | .help => throw (.help way)
  | .version => throw .version
  | _ => s.giveSwitch sw []

/-- A switch that takes values; one that is attached is the only one. -/
def await (s : Scan) (sw : Switch) (attached : Option String) : Except CallFault Scan := do
  let s ← s.resolve
  match attached with
  | some value => s.giveSwitch sw [value]
  | none => return { s with pending := some ⟨.switch sw, [], true⟩ }

/-- A word after two dashes. -/
def long (s : Scan) (way : List String) (switches : List Switch) (word : String) :
    Except CallFault Scan :=
  let (name, attached) := match Text.splitAtFirst? word '=' with
    | some (name, value) => (name, some value)
    | none => (word, none)
  match switches.find? (·.name == name) with
  | none => .error (.unknownArgument ("--" ++ name))
  | some sw =>
    if sw.takesValue then s.await sw attached
    else if attached.isSome then .error (.surplusValue name)
    else s.raise way sw

/-- The value attached to a letter; an equals sign before it does not count. -/
def attachedTo : List Char → Option String
  | [] => none
  | '=' :: cs => some (String.ofList cs)
  | cs => some (String.ofList cs)

/-- Letters after one dash. The first that takes a value ends them. -/
def letters (way : List String) (switches : List Switch) : Scan → List Char → Except CallFault Scan
  | s, [] => .ok s
  | s, c :: cs =>
    match switches.find? (·.short == some c) with
    | none => .error (.unknownArgument ("-" ++ String.singleton c))
    | some sw =>
      if sw.takesValue then s.await sw (attachedTo cs)
      else do letters way switches (← s.raise way sw) cs

/-! ## Words -/

/-- A value that a hungry switch takes, if there is such a switch. -/
def feed? (s : Scan) (word : String) : Option Scan :=
  match s.pending with
  | some ⟨.switch sw, values, true⟩ =>
    some { s with pending := some ⟨.switch sw, values ++ [word], sw.takes == .texts⟩ }
  | _ => none

/-- The places that have values, checked or not. -/
def filled (s : Scan) : Nat :=
  s.places.length + match s.pending with
    | some ⟨.place _, values, _⟩ => values.length
    | _ => 0

/-- A value at the next place. -/
def fill (s : Scan) (u : Usage) (word : String) : Except CallFault Scan :=
  match u.places[s.filled]? with
  | some p => do
    let s ← s.resolve
    return { s with pending := some ⟨.place p, [word], false⟩ }
  | none =>
    if u.commands.isEmpty || (s.valuesOnly && (u.follow? [word]).isSome) then
      .error (.unknownArgument word)
    else .error (.unknownCommand word)

/-- The names of what is required and was not said. -/
def missing (s : Scan) (u : Usage) : List String :=
  let said (name : String) := (s.given.lookup name).isSome
  (u.switches.filter fun sw => sw.required && !said sw.name).map (·.name)
    ++ (u.places.drop s.places.length).map (·.valueName)
    ++ (u.switches.filter (said ·.name)).filterMap fun sw => sw.needs.filter (!said ·)

/-- What was said of a command, when all its words are read. `entered` says that a command inside
it follows. -/
def close (s : Scan) (u : Usage) (way : List String) (entered : Bool) : Except CallFault Call := do
  let s ← s.resolve
  if !entered && !u.commands.isEmpty then
    throw (if s.given.isEmpty then .nothingSaid way else .missingCommand)
  let missing := s.missing u
  if missing.isEmpty then return ⟨u.name, s.given, s.places⟩ else throw (.missingArgument missing)

/-- A switch waits for a value, so that the next word is no command. -/
def isHungry (s : Scan) : Bool := s.pending.any (·.hungry)

/-- A word that is a switch, a value of one, or a value at a place. -/
def word (s : Scan) (c : Calling) (u : Usage) (way : List String) (w : String) :
    Except CallFault Scan :=
  let switches := c.switches u !way.isEmpty
  match s.valuesOnly, w.toList with
  | false, ['-', '-'] => .ok { s with valuesOnly := true }
  | false, '-' :: '-' :: cs => s.long way switches (String.ofList cs)
  | false, '-' :: c :: cs => letters way switches s (c :: cs)
  | false, _ =>
    match s.feed? w with
    | some s => .ok s
    | none => s.fill u w
  | true, _ => s.fill u w

end Scan

/-- What a word does that may name a command. -/
inductive Turn
  /-- A command inside the command begins. -/
  | enter (inner : Usage)
  /-- Help is asked for. -/
  | help
  /-- The word belongs to the command itself. -/
  | stay

/-- What a word does: commands are named by words that are neither values nor after `--`. -/
def Scan.turn (s : Scan) (u : Usage) (w : String) : Turn :=
  if s.valuesOnly || s.isHungry then .stay
  else match u.command? w with
    | some inner => .enter inner
    | none => if w = Usage.helpWord ∧ !u.commands.isEmpty then .help else .stay

namespace Calling

/-- The calls of a command and of the commands inside it. -/
def readFrom (c : Calling) : (u : Usage) → (way : List String) → Scan → List String →
    Except CallFault (List Call)
  | u, way, s, [] => do return [← s.close u way false]
  | u, way, s, w :: rest =>
    match s.turn u w with
    | .enter inner => do
      let calls ← readFrom c inner (way ++ [inner.name]) .start rest
      return (← s.close u way true) :: calls
    | .help =>
      match u.follow? rest with
      | some _ => .error (.help (way ++ rest))
      | none => .error (.unknownCommand (rest.getLast?.getD w))
    | .stay => do readFrom c u way (← s.word c u way w) rest

/-- The calls that words make, from the program to its innermost command. -/
def read (c : Calling) (words : List String) : Except CallFault (List Call) :=
  c.readFrom c.usage [] .start words

end Calling

namespace Call

/-- The value of a switch in the innermost call that has it. -/
def valueOf? (calls : List Call) (name : String) : Option String :=
  (calls.reverse.findSome? fun c => c.given.lookup name).bind List.head?

/-- A switch is there in some call. -/
def isSaid (calls : List Call) (name : String) : Bool :=
  calls.any fun c => (c.given.lookup name).isSome

end Call

end RecordDesk
