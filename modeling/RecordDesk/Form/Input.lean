import RecordDesk.Lookups
import RecordDesk.Text.Case

/-
  Input: the value that typed text stands for in a field. Numbers are read from text, and a choice
  takes the value of the offer whose text was given.
-/

namespace RecordDesk.FormField

/-- The words that turn a checkbox on. -/
def isOn (raw : String) : Bool :=
  ["true", "1", "on", "yes"].contains (Text.lower (Text.trim raw))

/-- The number that a text stands for: an integer if it is one of 64 bits, else a finite double. -/
def typedNumber? (text : String) : Option Value :=
  match Decimal.readInt64? text with
  | some n => some (.int n)
  | none => ((Decimal.readFloat? text).filter Decimal.isFinite).map .float

/-- The value of typed text. Blank text in a number field and the empty choice of a selection are
null; text that a selection does not offer is kept as it is. -/
def readInput (f : FormField) (raw : String) (lookups : Lookups) (language default : String) :
    Except Error Value :=
  match f.kind with
  | .number =>
    let text := Text.trim raw
    if text.isEmpty then .ok .null
    else match typedNumber? text with
      | some v => .ok v
      | none => .error (.validation (some f.name) ("'" ++ raw ++ "' is not a number"))
  | .checkbox => .ok (.bool (isOn raw))
  | .select =>
    if raw.isEmpty then .ok .null
    else
      let values := (lookups.offers f language default).map Offer.value
      .ok ((values.find? (·.display == raw)).getD (.str raw))
  | _ => .ok (.str raw)

end RecordDesk.FormField
