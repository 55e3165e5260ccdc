import RecordDesk.Schema.Generate
import RecordDesk.Config.Files
import RecordDesk.Host.Basic
import RecordDesk.Host.Path

/-
  Generated documents as files, in the order in which they are written. The messages of the default
  language are written a second time for the languages that have none of their own.
-/

namespace RecordDesk.Generated

/-- One character of a message in a properties file: backslashes and line ends are escaped. -/
def escapeCharacter (c : Char) : List Char :=
  if c = '\\' then ['\\', '\\']
  else if c = '\n' then ['\\', 'n']
  else if c = '\r' then ['\\', 'r']
  else [c]

/-- A message as a properties file has it. -/
def escapeMessage (text : String) : String :=
  String.ofList (text.toList.flatMap escapeCharacter)

/-- The comment that a properties file starts with. -/
def heading (project language : String) : String :=
  "# " ++ project ++ " - " ++ Text.upper language ++ " Messages"

/-- The line of a message under its key. -/
def messageLine (key text : String) : String := key ++ "=" ++ escapeMessage text

/-- The text of a properties file: a heading, and a line for each message by its key. -/
def properties (project language : String) (c : Catalog) : String :=
  let lines := c.messages.entries.map fun (key, text) => messageLine key text
  String.intercalate "\n" (heading project language :: "" :: (lines ++ [""]))

/-- The files of a language's messages. -/
def messageFiles (g : Generated) (language : String) (c : Catalog) : List (String × String) :=
  let text := properties g.tables.project.name language c
  (if language = g.tables.project.defaultLanguage then [(ConfigFiles.messagesName, text)] else [])
    ++ [(ConfigFiles.localizedName language, text)]

/-- All files with their texts. -/
def files (g : Generated) : List (String × String) :=
  (ConfigFiles.tablesName, (Document.ofTableBook g.tables).pretty)
    :: (ConfigFiles.rulesName, (Document.ofRuleBook g.rules).pretty)
    :: g.messages.entries.flatMap fun (language, c) => messageFiles g language c

/-- Writes all files into a directory, which is made if need be. The answer is their paths. -/
def write {m : Type → Type} [Monad m] (g : Generated) (host : Host m) (directory : String) :
    ExceptT Error m (List String) := do
  host.makeDirs directory
  g.files.mapM fun (name, text) => do
    let path := Path.join directory name
    host.write path text
    return path

end RecordDesk.Generated
