/-
  How a program is called: switches, which may take values, values by their places, and commands
  inside commands. What is read from the words of a call, and what can be wrong with them.
-/

namespace RecordDesk

/-- What a switch takes. -/
inductive Takes
  /-- No value; it is there or not. -/
  | nothing
  /-- One text. -/
  | text
  /-- One path, which is not empty. -/
  | path
  /-- Texts, one at least, up to the next switch. -/
  | texts
  /-- No value; it asks for help. -/
  | help
  /-- No value; it asks for the version. -/
  | version
deriving DecidableEq, Repr

/-- A switch: a word after two dashes, or a letter after one. -/
structure Switch where
  name : String
  short : Option Char := none
  takes : Takes := .nothing
  required : Bool := false
  /-- Another switch that must be there too. -/
  needs : Option String := none
  /-- The name of its value. -/
  valueName : String := ""
  help : String
deriving DecidableEq, Repr

/-- A value that stands at a place of its own. Every such value is required. -/
structure Place where
  valueName : String
  isPath : Bool := false
  help : String
deriving DecidableEq, Repr

/-- A command: its switches and places, or the commands inside it. -/
structure Usage where
  name : String
  about : String
  switches : List Switch := []
  places : List Place := []
  commands : List Usage := []

/-- A program: its command, its version, and the switches of all its commands. -/
structure Calling where
  usage : Usage
  version : String
  everywhere : List Switch

/-- The words of a call that belong to one command. -/
structure Call where
  name : String
  given : List (String × List String)
  places : List String
deriving DecidableEq, Repr

/-- Why a call cannot be carried out. `way` holds the names of commands inside commands. -/
inductive CallFault
  /-- Help on a command was asked for. -/
  | help (way : List String)
  /-- The version was asked for. -/
  | version
  /-- Nothing was said; help may be wanted. -/
  | nothingSaid (way : List String)
  /-- A command inside the command is missing. -/
  | missingCommand
  /-- There is no such command. -/
  | unknownCommand (word : String)
  /-- There is no such switch, or no place for a value. -/
  | unknownArgument (word : String)
  /-- Something required is missing. -/
  | missingArgument (names : List String)
  /-- A value is missing or empty. -/
  | emptyValue (name : String)
  /-- A switch without values has one. -/
  | surplusValue (name : String)
  /-- A switch is there twice. -/
  | repeated (name : String)
deriving DecidableEq, Repr

namespace Switch

/-- The switch takes values. -/
def takesValue (s : Switch) : Bool :=
  match s.takes with
  | .text | .path | .texts => true
  | _ => false

/-- The switch that asks for help. -/
def askHelp : Switch := { name := "help", short := some 'h', takes := .help, help := "Print help" }

/-- The switch that asks for the version. -/
def askVersion : Switch :=
  { name := "version", short := some 'V', takes := .version, help := "Print version" }

end Switch

namespace Usage

/-- The word that asks for help on a command. -/
def helpWord : String := "help"

/-- The command that gives help on others. -/
def helper : Usage :=
  { name := helpWord, about := "Print this message or the help of the given subcommand(s)" }

/-- The command of a name inside a command. -/
def command? (u : Usage) (name : String) : Option Usage := u.commands.find? (·.name == name)

/-- The command at the end of a way; help on help ends every way. -/
def follow? : List String → Usage → Option Usage
  | [], u => some u
  | name :: way, u =>
    match u.command? name with
    | some inner => follow? way inner
    | none =>
      if name = helpWord ∧ !u.commands.isEmpty ∧ way.isEmpty then some helper else none

end Usage

namespace Calling

/-- The switches of a command. The version is asked of the program itself only. -/
def switches (c : Calling) (u : Usage) (inside : Bool) : List Switch :=
  u.switches ++ c.everywhere ++ [.askHelp] ++ (if inside then [] else [.askVersion])

end Calling

end RecordDesk
