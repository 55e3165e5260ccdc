import RecordDesk.Pattern.Node
import RecordDesk.Text.Script

/-
  Character classes that patterns call by name: general categories, scripts and other properties of
  Unicode, and the classes of ASCII. Names of properties are compared without regard to case,
  blanks, hyphens, underscores and an `is` in front.
-/

namespace RecordDesk.Pattern

open Text (CodeSet)

/-- A name as it is compared. A lone `isc` keeps its front, which is part of another name. -/
def normalName (name : String) : String :=
  let lowered := (name.toList.filter (·.toNat < 128)).map Char.toLower
  let startsWithIs := ['i', 's'].isPrefixOf lowered
  let body := if startsWithIs then lowered.drop 2 else lowered
  let kept := body.filter fun c => c != ' ' && c != '_' && c != '-'
  if startsWithIs && kept == ['c'] then "isc" else String.ofList kept

/-- The two-letter general categories behind each name. -/
def categoryNames : List (List String × List String) := [
  (["lu", "uppercaseletter"], ["Lu"]), (["ll", "lowercaseletter"], ["Ll"]),
  (["lt", "titlecaseletter"], ["Lt"]), (["lm", "modifierletter"], ["Lm"]),
  (["lo", "otherletter"], ["Lo"]), (["lc", "casedletter"], ["Lu", "Ll", "Lt"]),
  (["l", "letter"], ["Lu", "Ll", "Lt", "Lm", "Lo"]),
  (["mn", "nonspacingmark"], ["Mn"]), (["mc", "spacingmark"], ["Mc"]),
  (["me", "enclosingmark"], ["Me"]), (["m", "mark", "combiningmark"], ["Mn", "Mc", "Me"]),
  (["nd", "decimalnumber", "digit"], ["Nd"]), (["nl", "letternumber"], ["Nl"]),
  (["no", "othernumber"], ["No"]), (["n", "number"], ["Nd", "Nl", "No"]),
  (["pc", "connectorpunctuation"], ["Pc"]), (["pd", "dashpunctuation"], ["Pd"]),
  (["ps", "openpunctuation"], ["Ps"]), (["pe", "closepunctuation"], ["Pe"]),
  (["pi", "initialpunctuation"], ["Pi"]), (["pf", "finalpunctuation"], ["Pf"]),
  (["po", "otherpunctuation"], ["Po"]),
  (["p", "punctuation", "punct"], ["Pc", "Pd", "Ps", "Pe", "Pi", "Pf", "Po"]),
  (["sm", "mathsymbol"], ["Sm"]), (["sc", "currencysymbol"], ["Sc"]),
  (["sk", "modifiersymbol"], ["Sk"]), (["so", "othersymbol"], ["So"]),
  (["s", "symbol"], ["Sm", "Sc", "Sk", "So"]),
  (["zs", "spaceseparator"], ["Zs"]), (["zl", "lineseparator"], ["Zl"]),
  (["zp", "paragraphseparator"], ["Zp"]), (["z", "separator"], ["Zs", "Zl", "Zp"]),
  (["cc", "control", "cntrl"], ["Cc"]), (["cf", "format"], ["Cf"]),
  (["co", "privateuse"], ["Co"])]

/-- Every assigned character. -/
def assigned : CodeSet := Text.categories (Text.categoryRuns.map Prod.fst)

/-- The class of a general category by its compared name. -/
def categoryClass? (name : String) : Option Class :=
  match name with
  | "any" => some (.codes .all)
  | "ascii" => some (.range 0 127)
  | "assigned" => some (.codes assigned)
  | "cn" | "unassigned" => some (.complement (.codes assigned))
  | "c" | "other" =>
    some (.union (.codes (Text.categories ["Cc", "Cf", "Co"])) (.complement (.codes assigned)))
  | _ => (categoryNames.find? (·.1.contains name)).map fun entry =>
    .codes (Text.categories entry.2)

/-- The class of a script by its compared name. -/
def scriptClass? (name : String) : Option Class :=
  let long := match Text.scriptShortNames.lookup name with
    | some long => some long
    | none => (Text.scriptRuns.find? fun (entry : String × List String) => normalName entry.1 == name).map Prod.fst
  (long.bind Text.script?).map .codes

/-- The properties that follow from other tables. -/
def composedProperty? (name : String) : Option CodeSet :=
  match name with
  | "alphabetic" | "alpha" => some Text.alphabetic
  | "lowercase" | "lower" => some Text.lowercase
  | "uppercase" | "upper" => some Text.uppercase
  | "cased" => some Text.cased
  | "caseignorable" | "ci" => some Text.caseIgnorable
  | "idstart" | "ids" => some Text.identifierStart
  | "idcontinue" | "idc" => some Text.identifierContinue
  | "math" => some ((Text.category "Sm").union (Text.property "OtherMath"))
  | _ => none

/-- The table name behind each short name of a property. -/
def propertyShortNames : List (String × String) := [
  ("wspace", "WhiteSpace"), ("space", "WhiteSpace"), ("epres", "EmojiPresentation"),
  ("emod", "EmojiModifier"), ("ebase", "EmojiModifierBase"), ("ecomp", "EmojiComponent"),
  ("extpict", "ExtendedPictographic"), ("hex", "HexDigit"), ("ahex", "ASCIIHexDigit"),
  ("ideo", "Ideographic"), ("dia", "Diacritic"), ("ext", "Extender"),
  ("qmark", "QuotationMark"), ("term", "TerminalPunctuation"), ("sterm", "SentenceTerminal"),
  ("joinc", "JoinControl"), ("vs", "VariationSelector"), ("nchar", "NoncharacterCodePoint"),
  ("di", "DefaultIgnorableCodePoint"), ("patsyn", "PatternSyntax"),
  ("patws", "PatternWhiteSpace"), ("ri", "RegionalIndicator"), ("sd", "SoftDotted"),
  ("uideo", "UnifiedIdeograph"), ("bidic", "BidiControl"), ("dep", "Deprecated"),
  ("loe", "LogicalOrderException")]

/-- The class of a property by its compared name. -/
def propertyClass? (name : String) : Option Class :=
  match composedProperty? name with
  | some s => some (.codes s)
  | none =>
    let long := match propertyShortNames.lookup name with
      | some long => some long
      | none => (Text.propertyRuns.find? fun (entry : String × List String) => normalName entry.1 == name).map Prod.fst
    long.map fun long => .codes (Text.property long)

/-- The class of a name standing alone: a property, a general category or a script. -/
def namedClass? (name : String) : Option Class :=
  let name := normalName name
  let asProperty := if name = "cf" ∨ name = "sc" ∨ name = "lc" then none else propertyClass? name
  (asProperty.or (categoryClass? name)).or (scriptClass? name)

/-- The class of a value of a property given by name. -/
def valueClass? (property value : String) : Option Class :=
  match normalName property with
  | "gc" | "generalcategory" => categoryClass? (normalName value)
  | "sc" | "script" => scriptClass? (normalName value)
  | _ => none

/-- The classes of ASCII characters by name. -/
def asciiClass? (name : String) : Option Class :=
  let of (runs : List (Nat × Nat)) : Option Class := some (.codes ⟨runs⟩)
  match name with
  | "alnum" => of [(48, 57), (65, 90), (97, 122)]
  | "alpha" => of [(65, 90), (97, 122)]
  | "ascii" => of [(0, 127)]
  | "blank" => of [(9, 9), (32, 32)]
  | "cntrl" => of [(0, 31), (127, 127)]
  | "digit" => of [(48, 57)]
  | "graph" => of [(33, 126)]
  | "lower" => of [(97, 122)]
  | "print" => of [(32, 126)]
  | "punct" => of [(33, 47), (58, 64), (91, 96), (123, 126)]
  | "space" => of [(9, 13), (32, 32)]
  | "upper" => of [(65, 90)]
  | "word" => of [(48, 57), (65, 90), (95, 95), (97, 122)]
  | "xdigit" => of [(48, 57), (65, 70), (97, 102)]
  | _ => none

/-- The decimal digits of every script. -/
def digits : CodeSet := Text.category "Nd"

/-- White space. -/
def spaces : CodeSet := Text.property "WhiteSpace"

/-- Digits, white space or word characters, of all of Unicode or of ASCII. -/
def shorthand (unicode : Bool) (letter : Char) : Class :=
  let ascii (name : String) := (asciiClass? name).getD .none
  if letter = 'd' then if unicode then .codes digits else ascii "digit"
  else if letter = 's' then if unicode then .codes spaces else ascii "space"
  else if unicode then .codes Text.wordCharacters else ascii "word"

end RecordDesk.Pattern
