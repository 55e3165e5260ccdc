import RecordDesk.Arguments.Help

/-
  What a program answers to a call that it cannot carry out.
-/

namespace RecordDesk

/-- What a program leaves behind: what it prints, what it complains about, and a code that is zero
if all went well. -/
structure Outcome where
  printed : String
  complaint : String
  code : Nat
deriving DecidableEq, Repr

namespace CallFault

/-- What is wrong with a call. -/
def reason : CallFault → String
  | help _ | version => ""
  | nothingSaid _ | missingCommand => "a subcommand is required but was not provided"
  | unknownCommand word => "unrecognized subcommand '" ++ word ++ "'"
  | unknownArgument word => "unexpected argument '" ++ word ++ "' found"
  | missingArgument names =>
    "the following required arguments were not provided: " ++ String.intercalate ", " names
  | emptyValue name => "a value is required for '" ++ name ++ "' but none was supplied"
  | surplusValue name => "unexpected value for '" ++ name ++ "' found; no more were expected"
  | repeated name => "the argument '" ++ name ++ "' cannot be used multiple times"

/-- Help and version are printed; anything else is a complaint with code 2. -/
def outcome (c : Calling) : CallFault → Outcome
  | help way => ⟨c.help way, "", 0⟩
  | version => ⟨c.versionLine, "", 0⟩
  | nothingSaid way => ⟨"", c.help way, 2⟩
  | fault => ⟨"", "error: " ++ fault.reason ++ "\n", 2⟩

end CallFault

end RecordDesk
