import RecordDesk.Formula.Token

/-
  Formulas read from text.

    expr    := term (('+' | '-') term)*
    term    := unary (('*' | '/' | '%') unary)*
    unary   := ('-' | '+') unary | primary
    primary := NUMBER | FIELD | FUNC '(' expr (',' expr)* ')' | '(' expr ')'

  A name directly before an opening parenthesis is a function, any other name a field. Each reader
  takes the tokens it needs from the front and gives back the rest, with the bound that makes the
  recursion end: what begins a formula takes at least one token, and what goes on with one may take
  none.
-/

namespace RecordDesk

namespace Formula

/-- What a reader has read, and the tokens after it, of which there are fewer than a bound. -/
structure Parsed (α : Type) (bound : Nat) where
  value : α
  rest : List Token
  shorter : rest.length < bound

/-- What a reader gives. -/
abbrev Reading (α : Type) (bound : Nat) := Except Fault (Parsed α bound)

/-- A closing parenthesis, which must come next. -/
def readClosing (ts : List Token) : Reading Unit ts.length :=
  match ts with
  | .closing :: rest => .ok ⟨(), rest, Nat.lt_add_one _⟩
  | t :: _ => .error (.unclosed (some t))
  | [] => .error (.unclosed none)

mutual

/-- A sum of terms. -/
def readSum (ts : List Token) : Reading Expr ts.length := do
  let ⟨left, rest, _⟩ ← readProduct ts
  let ⟨e, rest, _⟩ ← readTerms left rest
  return ⟨e, rest, by omega⟩
termination_by 5 * ts.length + 3

/-- The terms that go on a sum. -/
def readTerms (left : Expr) (ts : List Token) : Reading Expr (ts.length + 1) :=
  match ts with
  | .operator op :: more =>
    if op.isSum then do
      let ⟨right, rest, _⟩ ← readProduct more
      let ⟨e, rest, _⟩ ← readTerms (.binary op left right) rest
      return ⟨e, rest, by rw [List.length_cons]; omega⟩
    else .ok ⟨left, .operator op :: more, Nat.lt_add_one _⟩
  | ts => .ok ⟨left, ts, Nat.lt_add_one _⟩
termination_by 5 * ts.length

/-- A product of factors. -/
def readProduct (ts : List Token) : Reading Expr ts.length := do
  let ⟨left, rest, _⟩ ← readSigned ts
  let ⟨e, rest, _⟩ ← readFactors left rest
  return ⟨e, rest, by omega⟩
termination_by 5 * ts.length + 2

/-- The factors that go on a product. -/
def readFactors (left : Expr) (ts : List Token) : Reading Expr (ts.length + 1) :=
  match ts with
  | .operator op :: more =>
    if op.isSum then .ok ⟨left, .operator op :: more, Nat.lt_add_one _⟩
    else do
      let ⟨right, rest, _⟩ ← readSigned more
      let ⟨e, rest, _⟩ ← readFactors (.binary op left right) rest
      return ⟨e, rest, by rw [List.length_cons]; omega⟩
  | ts => .ok ⟨left, ts, Nat.lt_add_one _⟩
termination_by 5 * ts.length

/-- A factor with its signs. -/
def readSigned (ts : List Token) : Reading Expr ts.length :=
  match ts with
  | .operator .sub :: more => do
    let ⟨e, rest, _⟩ ← readSigned more
    return ⟨.neg e, rest, by rw [List.length_cons]; omega⟩
  | .operator .add :: more => do
    let ⟨e, rest, _⟩ ← readSigned more
    return ⟨e, rest, by rw [List.length_cons]; omega⟩
  | ts => readPrimary ts
termination_by 5 * ts.length + 1

/-- A number, a field, a call or an expression in parentheses. -/
def readPrimary (ts : List Token) : Reading Expr ts.length :=
  match ts with
  | [] => .error .unexpectedEnd
  | .number x :: more => .ok ⟨.number x, more, Nat.lt_add_one _⟩
  | .name text :: .opening :: more =>
    match Function.ofName? text with
    | none => .error (.unknownFunction text)
    | some f => do
      let ⟨args, rest, _⟩ ← readArguments more
      let ⟨_, rest, _⟩ ← readClosing rest
      if f.admits args.length then
        return ⟨.call f args, rest, by rw [List.length_cons, List.length_cons]; omega⟩
      else .error (.wrongArity text args.length)
  | .name text :: more => .ok ⟨.field text, more, Nat.lt_add_one _⟩
  | .opening :: more => do
    let ⟨e, rest, _⟩ ← readSum more
    let ⟨_, rest, _⟩ ← readClosing rest
    return ⟨e, rest, by rw [List.length_cons]; omega⟩
  | t :: _ => .error (.unexpectedToken t)
termination_by 5 * ts.length

/-- The arguments of a call; there is at least one. -/
def readArguments (ts : List Token) : Reading (List Expr) ts.length := do
  let ⟨e, rest, _⟩ ← readSum ts
  let ⟨es, rest, _⟩ ← readMoreArguments rest
  return ⟨e :: es, rest, by omega⟩
termination_by 5 * ts.length + 4

/-- The arguments that go on a list of them, each after a comma. -/
def readMoreArguments (ts : List Token) : Reading (List Expr) (ts.length + 1) :=
  match ts with
  | .comma :: more => do
    let ⟨e, rest, _⟩ ← readSum more
    let ⟨es, rest, _⟩ ← readMoreArguments rest
    return ⟨e :: es, rest, by rw [List.length_cons]; omega⟩
  | ts => .ok ⟨[], ts, Nat.lt_add_one _⟩
termination_by 5 * ts.length

end

/-- The expression that all of the tokens are. -/
def ofTokens (ts : List Token) : Except Fault Expr :=
  if ts.isEmpty then .error .emptyFormula
  else do
    let ⟨e, rest, _⟩ ← readSum ts
    match rest with
    | [] => return e
    | t :: _ => .error (.trailing t)

end Formula

/-- A formula: its text and the expression that the text is. -/
structure Formula where
  source : String
  expr : Formula.Expr

namespace Formula

/-- The formula of a text. -/
def parse (source : String) : Except Fault Formula := do
  return ⟨source, ← ofTokens (← tokens source)⟩

/-- The fields that a formula refers to, in the order of their first reference. -/
def fields (f : Formula) : List String := f.expr.fields

end Formula

end RecordDesk
