import RecordDesk.Host.Basic
import RecordDesk.Text.Search

/-
  Files and directories in memory. A path is looked up name by name from the root, so that it can
  be said why a file cannot be read or written. Names and paths may be of any length.
-/

namespace RecordDesk

/-- A thing on a disk. -/
inductive DiskNode
  | directory
  | file (text : String)
deriving DecidableEq, Repr

/-- Why a thing on a disk cannot be used. -/
inductive DiskFault
  | nullCharacter
  | missing
  | taken
  | notDirectory
  | isDirectory
deriving DecidableEq, Repr

/-- The things on a disk by the names on the way to them; the root is always there. -/
structure Disk where
  nodes : List (List String × DiskNode)
deriving DecidableEq, Repr

/-- The text of a fault. -/
def DiskFault.reason : DiskFault → String
  | nullCharacter => "file name contained an unexpected NUL byte"
  | missing => "No such file or directory (os error 2)"
  | taken => "File exists (os error 17)"
  | notDirectory => "Not a directory (os error 20)"
  | isDirectory => "Is a directory (os error 21)"

namespace Disk

/-- A disk with nothing but its root. -/
def empty : Disk := ⟨[]⟩

instance : Inhabited Disk := ⟨empty⟩

/-- The steps of a path from the root. -/
def steps (path : String) : List String := (Text.split path (· == '/')).filter (!·.isEmpty)

/-- Where a step leads to from a place; two points lead back, and one leads nowhere else. -/
def follow (way : List String) (name : String) : List String :=
  if name == "." then way else if name == ".." then way.dropLast else way ++ [name]

/-- The place that a path leads to. -/
def place (path : String) : List String := (steps path).foldl follow []

/-- What stands at a place. -/
def node? (d : Disk) (way : List String) : Option DiskNode :=
  if way.isEmpty then some .directory else d.nodes.lookup way

/-- Puts a thing at a place. -/
def put (d : Disk) (way : List String) (node : DiskNode) : Disk :=
  if way.isEmpty then d else ⟨(way, node) :: d.nodes.filter (·.1 != way)⟩

/-- The directory at a place can be entered. -/
def enter (d : Disk) (way : List String) : Except DiskFault Unit :=
  match d.node? way with
  | some .directory => .ok ()
  | some (.file _) => .error .notDirectory
  | none => .error .missing

/-- All directories from which steps are made can be entered. -/
def enterAll (d : Disk) : (entered rest : List String) → Except DiskFault Unit
  | _, [] => .ok ()
  | entered, name :: rest => do
    d.enter entered
    enterAll d (follow entered name) rest

/-- The path asks for a directory by a slash at its end. -/
def asksDirectory (path : String) : Bool := path.toList.getLast? = some '/'

/-- The path has a character that no name on a disk has. -/
def hasNull (path : String) : Bool := path.toList.contains '\x00'

/-- The thing at a path, if there is one. -/
def find (d : Disk) (path : String) : Except DiskFault (Option DiskNode) := do
  if hasNull path then throw .nullCharacter
  if path.isEmpty then throw .missing
  d.enterAll [] (steps path)
  match d.node? (place path) with
  | some (.file text) =>
    if asksDirectory path then throw .notDirectory else return some (.file text)
  | found => return found

/-- There is something at a path. -/
def isThere (d : Disk) (path : String) : Bool :=
  match d.find path with
  | .ok (some _) => true
  | _ => false

/-- The text of a file. -/
def read (d : Disk) (path : String) : Except DiskFault String := do
  match ← d.find path with
  | some (.file text) => return text
  | some .directory => throw .isDirectory
  | none => throw .missing

/-- The disk with a file written. -/
def write (d : Disk) (path text : String) : Except DiskFault Disk := do
  match ← d.find path with
  | some .directory => throw .isDirectory
  | some (.file _) => return d.put (place path) (.file text)
  | none =>
    if asksDirectory path then throw .isDirectory else return d.put (place path) (.file text)

/-- The disk with the directories made that are missing from a place on. -/
def makeFrom (d : Disk) : (entered rest : List String) → Except DiskFault Disk
  | _, [] => .ok d
  | entered, name :: rest =>
    let way := follow entered name
    match d.node? way with
    | some .directory => makeFrom d way rest
    | some (.file _) => .error (if rest.isEmpty then .taken else .notDirectory)
    | none => makeFrom (d.put way .directory) way rest

/-- The disk with a directory made, and all that are missing on the way to it. -/
def makeDirs (d : Disk) (path : String) : Except DiskFault Disk :=
  if hasNull path then .error .nullCharacter else d.makeFrom [] (steps path)

end Disk

/-! ## A machine in memory -/

/-- A disk, an environment and a place for settings. -/
structure Machine where
  disk : Disk
  environment : List (String × String)
  configDir : Option String

namespace Machine

instance : Inhabited Machine := ⟨⟨.empty, [], none⟩⟩

/-- A fault at a path as a failure. -/
def failure (path : String) (fault : DiskFault) : Error := .io path fault.reason

/-- A change of the disk, which stays as it is if that fails. -/
def change (path : String) (f : Disk → Except DiskFault Disk) :
    ExceptT Error (StateM Machine) Unit :=
  fun s =>
    match f s.disk with
    | .ok disk => (.ok (), { s with disk })
    | .error fault => (.error (failure path fault), s)

/-- The machine as a host. -/
def host : Host (StateM Machine) where
  env? name := return (← get).environment.lookup name
  configDir? := return (← get).configDir
  isThere path := return (← get).disk.isThere path
  read path := fun s => ((s.disk.read path).mapError (failure path), s)
  write path text := change path (·.write path text)
  makeDirs path := change path (·.makeDirs path)

end Machine

end RecordDesk
