/-
  What can go wrong between a configuration and a stored record. Every failure is one of a few
  kinds; its text for people is made in one place.
-/

namespace RecordDesk

/-- A failure. -/
inductive Error
  /-- The configuration is missing, malformed or at odds with itself. -/
  | config (message : String)
  /-- A table, a field or the like does not exist. -/
  | notFound (kind name : String)
  /-- Input was refused, for the sake of one field where that is known. -/
  | validation (field : Option String) (message : String)
  /-- Derived fields depend on each other in a circle. -/
  | cyclicDependency (table : String) (fields : List String)
  /-- A formula cannot be read or evaluated. -/
  | formula (formula message : String)
  /-- A source of records or of configuration failed. -/
  | source (message : String) (retryable : Bool)
  /-- A file could not be read or written. -/
  | io (path reason : String)
  /-- A document does not have the form it should. -/
  | serialization
deriving DecidableEq, Repr, Inhabited

namespace Error

/-- Another attempt may succeed. -/
def isRetryable : Error → Bool
  | source _ retryable => retryable
  | io .. => true
  | _ => false

/-- The text of a failure. -/
def message : Error → String
  | config message => "Configuration error: " ++ message
  | notFound kind name => kind ++ " not found: " ++ name
  | validation _ message => "Validation error: " ++ message
  | cyclicDependency table fields =>
    "Cyclic field dependency in table '" ++ table ++ "': " ++ String.intercalate " -> " fields
  | formula text message => "Formula error in '" ++ text ++ "': " ++ message
  | source message _ => "Source error: " ++ message
  | io path reason => "I/O error at " ++ path ++ ": " ++ reason
  | serialization => "Serialization error"

end Error

end RecordDesk
