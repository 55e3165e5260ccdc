import RecordDesk.Dict

/-
  Text in several languages.
-/

namespace RecordDesk

/-- Text by language code. -/
structure Localized where
  texts : Dict String

namespace Localized

/-- No text in any language. -/
def empty : Localized := ⟨.empty⟩

instance : Inhabited Localized := ⟨empty⟩

/-- No language has an entry. -/
def isEmpty (t : Localized) : Bool := t.texts.isEmpty

/-- The language has an entry, be it empty. -/
def contains (t : Localized) (language : String) : Bool := t.texts.contains language

/-- Sets the text of a language. -/
def insert (t : Localized) (language text : String) : Localized := ⟨t.texts.insert language text⟩

/-- The texts of several languages, the last of a language staying. -/
def ofList (entries : List (String × String)) : Localized := ⟨.ofList entries⟩

/-- The text of a language if it has one that is not empty. -/
def nonEmpty? (t : Localized) (language : String) : Option String :=
  (t.texts.get? language).filter (!·.isEmpty)

/-- The text of a language, else that of the default language; empty text counts as missing. -/
def resolve? (t : Localized) (language default : String) : Option String :=
  (t.nonEmpty? language).or (t.nonEmpty? default)

end Localized

end RecordDesk
