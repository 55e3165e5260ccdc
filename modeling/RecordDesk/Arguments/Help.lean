import RecordDesk.Arguments.Usage

/-
  Help on how a program is called: what a command is for, how it is written, and a list each of its
  commands, places and switches.
-/

namespace RecordDesk

/-- A name and what it stands for. -/
structure HelpEntry where
  label : String
  text : String
deriving DecidableEq, Repr

namespace HelpEntry

/-- Spaces that fill a text up to a width. -/
def filling (width : Nat) (s : String) : String :=
  String.ofList (List.replicate (width - s.length) ' ')

/-- Entries under a heading, with their texts in one column. -/
def list (heading : String) (entries : List HelpEntry) : List String :=
  let width := entries.foldl (fun w e => max w e.label.length) 0
  if entries.isEmpty then []
  else [heading ++ ":\n"
    ++ String.join (entries.map fun e =>
      "  " ++ e.label ++ filling width e.label ++ "  " ++ e.text ++ "\n")]

end HelpEntry

namespace Switch

/-- The switch with its value. -/
def label (s : Switch) : String :=
  let value := if s.takesValue then " <" ++ s.valueName ++ ">" else ""
  "--" ++ s.name ++ value ++ (if s.takes = .texts then "..." else "")

/-- The switch in a list. -/
def entry (s : Switch) : HelpEntry :=
  let short := match s.short with
    | some c => "-" ++ String.singleton c ++ ", "
    | none => "    "
  ⟨short ++ s.label, s.help⟩

/-- What switches of one rank are ordered by: the letter, or else the name. -/
def sortKey (s : Switch) : String :=
  match s.short with
  | some c => String.singleton c.toLower ++ (if c.isLower then "0" else "1")
  | none => s.name

/-- A switch with its rank among the arguments of a command. -/
abbrev Ranked := Nat × Switch

/-- The first of two stands before the second. -/
def before (a b : Ranked) : Bool :=
  a.1 < b.1 || (a.1 == b.1 && decide (a.2.sortKey ≤ b.2.sortKey))

/-- Puts a switch before the first that it stands before. -/
def insertRanked (a : Ranked) : List Ranked → List Ranked
  | [] => [a]
  | b :: rest => if before a b then a :: b :: rest else b :: insertRanked a rest

end Switch

namespace Usage

/-- The place with its value. -/
def placeLabel (p : Place) : String := "<" ++ p.valueName ++ ">"

/-- Every command inside the command, and the one that gives help. -/
def commandEntries (u : Usage) : List HelpEntry :=
  if u.commands.isEmpty then []
  else (u.commands ++ [helper]).map fun inner => ⟨inner.name, inner.about⟩

/-- How a command is written. -/
def writtenAs (u : Usage) (words : List String) : String :=
  let required := (u.switches.filter (·.required)).map Switch.label
  let inner := if u.commands.isEmpty then [] else ["<COMMAND>"]
  String.intercalate " " (words ++ ["[OPTIONS]"] ++ required ++ u.places.map placeLabel ++ inner)

end Usage

namespace Calling

/-- The rank of what stands last. -/
def lastRank : Nat := 999

/-- The switches of a command by rank: its own after its places, those of all commands from the
first place on, and those that ask for help and version last. -/
def ranked (c : Calling) (u : Usage) (inside : Bool) : List Switch.Ranked :=
  let own := u.switches.mapIdx fun i s => (u.places.length + i, s)
  let everywhere := c.everywhere.mapIdx fun i s => (i, s)
  let asking := (if inside then [.askHelp] else [.askHelp, .askVersion]).map fun s => (lastRank, s)
  (own ++ everywhere ++ asking).foldr Switch.insertRanked []

/-- A page of help. -/
def page (about writtenAs : String) (lists : List String) : String :=
  String.intercalate "\n" ((about ++ "\n") :: ("Usage: " ++ writtenAs ++ "\n") :: lists)

/-- The page of help on help. -/
def helperPage (words : List String) : String :=
  page Usage.helper.about (String.intercalate " " (words ++ ["[COMMAND]..."]))
    (HelpEntry.list "Arguments" [⟨"[COMMAND]...", "Print help for the subcommand(s)"⟩])

/-- The page of help on the command at the end of a way. -/
def help (c : Calling) (way : List String) : String :=
  let words := c.usage.name :: way
  match c.usage.follow? way with
  | some u =>
    if u.name = Usage.helpWord then helperPage words
    else page u.about (u.writtenAs words)
      (HelpEntry.list "Commands" u.commandEntries
        ++ HelpEntry.list "Arguments" (u.places.map fun p => ⟨Usage.placeLabel p, p.help⟩)
        ++ HelpEntry.list "Options" ((c.ranked u !way.isEmpty).map fun (_, s) => s.entry))
  | none => ""

/-- The line that says the version. -/
def versionLine (c : Calling) : String := c.usage.name ++ " " ++ c.version ++ "\n"

end Calling

end RecordDesk
