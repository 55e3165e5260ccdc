import RecordDesk.Config.Loaded
import RecordDesk.Source.Basic

/-
  A store of the configuration: it is fetched from a source when it is first asked for and kept
  until it is fetched again. Messages that cannot be fetched are left out.
-/

namespace RecordDesk

/-- A source of configuration with what was fetched last. `fetches` counts the fetches that
succeeded. -/
structure ConfigStore (m : Type → Type) where
  source : ConfigSource m
  language : Option String
  kept : Option Configuration
  fetches : Nat

namespace ConfigStore

variable {m : Type → Type} [Monad m]

/-- A store that has not fetched anything; without a language that of the project is used. -/
def ofSource (source : ConfigSource m) (language : Option String) : ConfigStore m :=
  ⟨source, language, none, 0⟩

/-- The documents of a source put together. -/
def fetch (source : ConfigSource m) (language : Option String) : m (Except Error Configuration) := do
  match ← source.tables with
  | .error e => return .error e
  | .ok tables =>
    match ← source.rules with
    | .error e => return .error e
    | .ok rules =>
      let chosen := language.getD tables.project.defaultLanguage
      let messages := (← source.messages chosen).toOption.getD .empty
      return Configuration.make tables rules messages chosen

/-- Fetches the configuration and keeps it; the store stays as it is if that fails. -/
def reload (s : ConfigStore m) : m (Except Error Configuration × ConfigStore m) := do
  match ← fetch s.source s.language with
  | .ok c => return (.ok c, { s with kept := some c, fetches := s.fetches + 1 })
  | .error e => return (.error e, s)

/-- The configuration that is kept, or the one fetched now. -/
def load (s : ConfigStore m) : m (Except Error Configuration × ConfigStore m) :=
  match s.kept with
  | some c => return (.ok c, s)
  | none => s.reload

end ConfigStore

end RecordDesk
