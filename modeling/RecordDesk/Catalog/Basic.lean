import RecordDesk.Dict
import RecordDesk.Error
import RecordDesk.Json.Print
import RecordDesk.Text.Search

/-
  Message catalogs: templates by message key. Placeholders `{0}`, `{1}`, … in a template stand for
  parameters; they are filled in one after another.
-/

namespace RecordDesk

/-- Message templates by key. -/
structure Catalog where
  messages : Dict String

namespace Catalog

/-- No messages. -/
def empty : Catalog := ⟨.empty⟩

instance : Inhabited Catalog := ⟨empty⟩

/-- Adds or replaces a message. -/
def insert (c : Catalog) (key template : String) : Catalog := ⟨c.messages.insert key template⟩

/-- The template of a key. -/
def get? (c : Catalog) (key : String) : Option String := c.messages.get? key

/-- The placeholder of a parameter. -/
def placeholder (i : Nat) : String := "\x7b" ++ toString i ++ "\x7d"

/-- Fills in parameters from the `i`-th on. -/
def fill (template : String) (i : Nat) : List String → String
  | [] => template
  | param :: rest => fill (Text.replace template (placeholder i) param) (i + 1) rest

/-- The message of a key with its parameters filled in; an unknown key stands for itself. -/
def resolve (c : Catalog) (key : String) (params : List String) : String :=
  fill ((c.get? key).getD key) 0 params

/-- The text of a message in a JSON catalog: strings as they are, anything else as JSON. -/
def messageText : Value → String
  | .str s => s
  | v => v.compact

/-- A catalog given as a flat JSON object. -/
def ofValue : Value → Except Error Catalog
  | .obj fields => .ok ⟨.ofList (fields.map fun (key, v) => (key, messageText v))⟩
  | _ => .error (.config "message catalog must be a JSON object")

end Catalog

end RecordDesk
