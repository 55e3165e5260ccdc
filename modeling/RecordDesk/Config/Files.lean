import RecordDesk.Source.Basic
import RecordDesk.Catalog.Properties
import RecordDesk.Json.Parse

/-
  Configuration kept in files of one directory: a document of tables, one of rules, and a catalog
  of messages for each language with one for all others.
-/

namespace RecordDesk.ConfigFiles

/-- The file of the tables. -/
def tablesName : String := "table-config.json"

/-- The file of the validation rules. -/
def rulesName : String := "validation-config.json"

/-- The file of the messages of languages that have none of their own. -/
def messagesName : String := "messages.properties"

/-- The file of the messages of a language. -/
def localizedName (language : String) : String := "messages_" ++ language ++ ".properties"

/-- A document in JSON text. -/
def document {α : Type} (reader : Document.Reader α) (text : String) : Except Error α :=
  match (Json.parse? text).bind reader with
  | some a => .ok a
  | none => .error .serialization

/-- The files as a source of configuration; `read` gives the text of a file by its name. -/
def source {m : Type → Type} [Monad m] (read : String → m (Except Error String)) :
    ConfigSource m where
  tables := do return (← read tablesName).bind (document Document.tableBook)
  rules := do return (← read rulesName).bind (document Document.ruleBook)
  messages language := do
    match ← read (localizedName language) with
    | .ok text => return .ok (.ofProperties text)
    | .error _ => return (← read messagesName).map .ofProperties

end RecordDesk.ConfigFiles
