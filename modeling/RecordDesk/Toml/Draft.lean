import RecordDesk.Toml.Basic

/-
  Documents in the making. While a document is read, each table remembers how it came to be, because
  that decides what later lines may add to it: a table has one heading at most, and tables that
  dotted keys made are closed to headings.
-/

namespace RecordDesk.Toml

/-- How a table came to be. -/
inductive Origin
  /-- It has a heading, or it is the document itself. -/
  | stated
  /-- Only the heading of a table inside it named it. -/
  | implied
  /-- Dotted keys named it. -/
  | dotted
deriving DecidableEq, Repr

/-- A part of a document in the making. -/
inductive Draft
  /-- A finished value. -/
  | value (v : Toml)
  /-- A table that can grow. -/
  | table (origin : Origin) (entries : List (String × Draft))
  /-- An array of tables that can grow. -/
  | items (elements : List Draft)

/-- A key: the keys of the tables on the way and its own name. -/
structure KeyPath where
  way : List String
  last : String
deriving DecidableEq, Repr

/-- A key from its parts. -/
def KeyPath.ofList? (parts : List String) : Option KeyPath :=
  parts.getLast?.map fun last => ⟨parts.dropLast, last⟩

namespace Draft

instance : Inhabited Draft := ⟨.table .stated []⟩

/-- The entries of a table in the making. -/
abbrev Entries := List (String × Draft)

/-- What may be done with the entries of a table, in the light of how it came to be. -/
abbrev Change := Origin → Entries → Option Entries

/-- Changes the table at the end of a way. Tables missing on the way are made as `fresh`; one that
is there must be of an origin that `allow` admits. The last element stands for an array of
tables. -/
def alter (fresh : Origin) (allow : Origin → Bool) (change : Change) : List String → Change
  | [], origin, entries => change origin entries
  | key :: way, _, entries =>
    let put (d : Draft) := Dict.put key d entries
    match Dict.find? entries key with
    | none => (alter fresh allow change way fresh []).map fun inner => put (.table fresh inner)
    | some (.table origin inner) =>
      if allow origin then
        (alter fresh allow change way origin inner).map fun inner => put (.table origin inner)
      else none
    | some (.items elements) =>
      match elements.getLast? with
      | some (.table origin inner) =>
        (alter fresh allow change way origin inner).map fun inner =>
          put (.items (elements.dropLast ++ [.table origin inner]))
      | _ => none
    | some (.value _) => none

/-- Gives a table its heading. -/
def state (key : String) : Change := fun _ entries =>
  match Dict.find? entries key with
  | none => some (Dict.put key (.table .stated []) entries)
  | some (.table .implied inner) => some (Dict.put key (.table .stated inner) entries)
  | some _ => none

/-- Appends an empty table to an array of tables. -/
def append (key : String) : Change := fun _ entries =>
  match Dict.find? entries key with
  | none => some (Dict.put key (.items [.table .stated []]) entries)
  | some (.items elements) =>
    some (Dict.put key (.items (elements ++ [.table .stated []])) entries)
  | some _ => none

/-- Adds a value under a key that is not taken; below dotted keys only in a table of theirs. -/
def add (key : KeyPath) (v : Toml) : Change :=
  alter .dotted (· != .stated)
    (fun origin entries =>
      if (origin == .dotted) == key.way.isEmpty then none
      else match Dict.find? entries key.last with
        | none => some (Dict.put key.last (.value v) entries)
        | some _ => none)
    key.way

mutual

/-- The value that a draft has become. -/
def finish : Draft → Toml
  | value v => v
  | table _ entries => .table (finishEntries entries)
  | items elements => .array (finishAll elements)

/-- The entries that drafts have become. -/
def finishEntries : Entries → List (String × Toml)
  | [] => []
  | (key, d) :: rest => (key, finish d) :: finishEntries rest

/-- The values that drafts have become. -/
def finishAll : List Draft → List Toml
  | [] => []
  | d :: rest => finish d :: finishAll rest

end

/-- The table that pairs make on their own, as between braces. -/
def tableOf? (pairs : List (KeyPath × Toml)) : Option Toml :=
  (pairs.foldlM (fun entries (key, v) => add key v .stated entries) []).map fun entries =>
    .table (finishEntries entries)

end Draft

/-! ## Lines -/

/-- A line of a document. -/
inductive Line
  /-- The heading of a table. -/
  | table (key : KeyPath)
  /-- The heading of the next element of an array of tables. -/
  | item (key : KeyPath)
  /-- A value. -/
  | entry (key : KeyPath) (v : Toml)

/-- The way to the table under the last heading, and the entries so far. -/
structure Progress where
  heading : List String
  entries : Draft.Entries

/-- What a line adds. -/
def Progress.step (p : Progress) : Line → Option Progress
  | .table key => do
    let entries ← Draft.alter .implied (fun _ => true) (Draft.state key.last) key.way .stated p.entries
    return ⟨key.way ++ [key.last], entries⟩
  | .item key => do
    let entries ← Draft.alter .implied (fun _ => true) (Draft.append key.last) key.way .stated p.entries
    return ⟨key.way ++ [key.last], entries⟩
  | .entry key v => do
    let entries ← Draft.alter .implied (fun _ => true) (Draft.add key v) p.heading .stated p.entries
    return ⟨p.heading, entries⟩

/-- The document that lines make. -/
def ofLines? (lines : List Line) : Option Toml :=
  (lines.foldlM Progress.step ⟨[], []⟩).map fun p => .table (Draft.finishEntries p.entries)

end RecordDesk.Toml
