import RecordDesk.Formula.Parse
import RecordDesk.Proofs.Steps

/-
  The grammar of formulas, and that the readers accept it and nothing else. `IsSum` says which
  tokens are which expression without a mention of the readers. What a reader takes from the front
  is derived by the grammar (`IsSum.of_gives`), and what the grammar derives is taken whole, before
  anything that cannot go on with it (`IsSum.gives`). So tokens are read as an expression exactly if
  the grammar derives it from them (`ofTokens_eq_ok`), and they are one expression at most
  (`IsSum.unique`). The readers end on every list of tokens because they are defined by recursion on
  its length, so nothing is said of that here.
-/

namespace RecordDesk.Formula

/-! ## The grammar -/

mutual

/-- The tokens are terms joined by `+` and `-`, the first two joined first. -/
inductive IsSum : List Token → Expr → Prop
  | term {ts : List Token} {e : Expr} (h : IsProduct ts e) : IsSum ts e
  | joined {ts us : List Token} {left right : Expr} {op : Operator} (hop : op ∈ [.add, .sub])
      (hleft : IsSum ts left) (hright : IsProduct us right) :
      IsSum (ts ++ .operator op :: us) (.binary op left right)

/-- The tokens are factors joined by `*`, `/` and `%`, the first two joined first. -/
inductive IsProduct : List Token → Expr → Prop
  | factor {ts : List Token} {e : Expr} (h : IsSigned ts e) : IsProduct ts e
  | joined {ts us : List Token} {left right : Expr} {op : Operator} (hop : op ∈ [.mul, .div, .rem])
      (hleft : IsProduct ts left) (hright : IsSigned us right) :
      IsProduct (ts ++ .operator op :: us) (.binary op left right)

/-- The tokens are a factor after any number of signs. A `+` leaves no trace. -/
inductive IsSigned : List Token → Expr → Prop
  | minus {ts : List Token} {e : Expr} (h : IsSigned ts e) :
      IsSigned (.operator .sub :: ts) (.neg e)
  | plus {ts : List Token} {e : Expr} (h : IsSigned ts e) : IsSigned (.operator .add :: ts) e
  | primary {ts : List Token} {e : Expr} (h : IsPrimary ts e) : IsSigned ts e

/-- The tokens are a number, a field, a call or an expression in parentheses. Parentheses leave no
trace. -/
inductive IsPrimary : List Token → Expr → Prop
  | number (x : Float) : IsPrimary [.number x] (.number x)
  | field (text : String) : IsPrimary [.name text] (.field text)
  | call {ts : List Token} {args : List Expr} {f : Function} (hargs : IsArguments ts args)
      (hcount : f.admits args.length = true) :
      IsPrimary (.name f.name :: .opening :: (ts ++ [.closing])) (.call f args)
  | group {ts : List Token} {e : Expr} (h : IsSum ts e) :
      IsPrimary (.opening :: (ts ++ [.closing])) e

/-- The tokens are expressions with commas between them, at least one. -/
inductive IsArguments : List Token → List Expr → Prop
  | last {ts : List Token} {e : Expr} (h : IsSum ts e) : IsArguments ts [e]
  | more {ts us : List Token} {e : Expr} {es : List Expr} (h : IsSum ts e)
      (hmore : IsArguments us es) : IsArguments (ts ++ .comma :: us) (e :: es)

end

/-! ## Operators and functions -/

theorem Operator.isSum_iff {op : Operator} : op.isSum = true ↔ op ∈ [.add, .sub] := by
  cases op <;> decide

theorem Operator.not_isSum_iff {op : Operator} : ¬ op.isSum = true ↔ op ∈ [.mul, .div, .rem] := by
  cases op <;> decide

theorem Function.ofName?_eq_some {text : String} {f : Function} :
    Function.ofName? text = some f ↔ text = f.name := by
  constructor
  · intro h
    unfold Function.ofName? at h
    split at h <;> cases h <;> rfl
  · rintro rfl
    cases f <;> rfl

/-! ## What each reader does -/

section Readers

variable {α β : Type} {bound bound' : Nat} {v w : α} {ts rest last more : List Token}
  {e left : Expr} {es : List Expr} {op : Operator}

/-- The reader gives the value and leaves the rest. -/
def Gives (x : Reading α bound) (v : α) (rest : List Token) : Prop :=
  ∃ h, x = .ok ⟨v, rest, h⟩

theorem Gives.length_lt {x : Reading α bound} (h : Gives x v rest) : rest.length < bound :=
  h.elim fun hlt _ => hlt

theorem Gives.unique {x : Reading α bound} (h : Gives x v rest) (h' : Gives x w last) :
    v = w ∧ rest = last := by
  obtain ⟨_, rfl⟩ := h
  obtain ⟨_, h'⟩ := h'
  cases h'
  exact ⟨rfl, rfl⟩

@[simp] theorem gives_ok {h : rest.length < bound} :
    Gives (.ok ⟨v, rest, h⟩ : Reading α bound) w last ↔ v = w ∧ rest = last := by
  constructor
  · exact fun h' => Gives.unique ⟨h, rfl⟩ h'
  · rintro ⟨rfl, rfl⟩
    exact ⟨h, rfl⟩

@[simp] theorem not_gives_error {fault : Fault} :
    ¬ Gives (.error fault : Reading α bound) v rest := by
  rintro ⟨_, h⟩
  cases h

theorem gives_bind {x : Reading α bound} {f : Parsed α bound → Reading β bound'} {v : β} :
    Gives (x >>= f) v last ↔
      ∃ w rest, ∃ h : Gives x w rest, Gives (f ⟨w, rest, h.length_lt⟩) v last := by
  constructor
  · rintro ⟨h, hx⟩
    obtain ⟨⟨w, rest, hlt⟩, hw, hx⟩ := bind_eq_ok.1 hx
    exact ⟨w, rest, ⟨hlt, hw⟩, h, hx⟩
  · rintro ⟨w, rest, ⟨hlt, hw⟩, h, hx⟩
    exact ⟨h, bind_eq_ok.2 ⟨_, hw, hx⟩⟩

theorem gives_readClosing {u : Unit} :
    Gives (readClosing ts) u rest ↔ ts = .closing :: rest := by
  unfold readClosing
  split <;> simp_all

theorem gives_readSum : Gives (readSum ts) e last ↔
    ∃ left rest, Gives (readProduct ts) left rest ∧ Gives (readTerms left rest) e last := by
  rw [readSum]
  simp [gives_bind, pure, Except.pure]

theorem gives_readTerms : Gives (readTerms left ts) e last ↔
    (∃ op more right rest, ts = .operator op :: more ∧ op.isSum = true ∧
      Gives (readProduct more) right rest ∧ Gives (readTerms (.binary op left right) rest) e last) ∨
    ((∀ op more, ts = .operator op :: more → ¬ op.isSum = true) ∧ left = e ∧ ts = last) := by
  rw [readTerms.eq_def]
  split
  · split <;> simp_all [gives_bind, pure, Except.pure, and_assoc]
  · simp_all

theorem gives_readProduct : Gives (readProduct ts) e last ↔
    ∃ left rest, Gives (readSigned ts) left rest ∧ Gives (readFactors left rest) e last := by
  rw [readProduct]
  simp [gives_bind, pure, Except.pure]

theorem gives_readFactors : Gives (readFactors left ts) e last ↔
    (∃ op more right rest, ts = .operator op :: more ∧ ¬ op.isSum = true ∧
      Gives (readSigned more) right rest ∧
      Gives (readFactors (.binary op left right) rest) e last) ∨
    ((∀ op more, ts = .operator op :: more → op.isSum = true) ∧ left = e ∧ ts = last) := by
  rw [readFactors.eq_def]
  split
  · split <;> simp_all [gives_bind, pure, Except.pure, and_assoc]
  · simp_all

theorem gives_readSigned_minus : Gives (readSigned (.operator .sub :: ts)) e last ↔
    ∃ e', e = .neg e' ∧ Gives (readSigned ts) e' last := by
  rw [readSigned]
  simp [gives_bind, pure, Except.pure, eq_comm]

theorem gives_readSigned_plus :
    Gives (readSigned (.operator .add :: ts)) e last ↔ Gives (readSigned ts) e last := by
  rw [readSigned]
  simp [gives_bind, pure, Except.pure]

theorem readSigned_eq_readPrimary (hminus : ∀ more, ts ≠ .operator .sub :: more)
    (hplus : ∀ more, ts ≠ .operator .add :: more) : readSigned ts = readPrimary ts := by
  rw [readSigned.eq_def]
  split
  · exact absurd rfl (hminus _)
  · exact absurd rfl (hplus _)
  · rfl

theorem gives_readPrimary_number {x : Float} :
    Gives (readPrimary (.number x :: ts)) e last ↔ .number x = e ∧ ts = last := by
  rw [readPrimary, gives_ok]

theorem gives_readPrimary_field {text : String} (h : ∀ more, ts ≠ .opening :: more) :
    Gives (readPrimary (.name text :: ts)) e last ↔ .field text = e ∧ ts = last := by
  rw [readPrimary, gives_ok]
  exact h

theorem gives_readPrimary_call {text : String} :
    Gives (readPrimary (.name text :: .opening :: ts)) e last ↔
      ∃ f args, text = f.name ∧ f.admits args.length = true ∧ e = .call f args ∧
        Gives (readArguments ts) args (.closing :: last) := by
  rw [readPrimary]
  split
  · rename_i hnone
    constructor
    · exact fun h => absurd h not_gives_error
    · rintro ⟨f, args, hf, -⟩
      rw [Function.ofName?_eq_some.2 hf] at hnone
      cases hnone
  · rename_i f hf
    simp only [gives_bind, gives_readClosing, pure, Except.pure]
    constructor
    · rintro ⟨args, _, hargs, _, rest, rfl, h⟩
      split at h
      · rename_i hcount
        rw [gives_ok] at h
        obtain ⟨rfl, rfl⟩ := h
        exact ⟨f, args, Function.ofName?_eq_some.1 hf, hcount, rfl, hargs⟩
      · exact absurd h not_gives_error
    · rintro ⟨f', args, hf', hcount, rfl, hargs⟩
      obtain rfl : f = f' := Option.some.inj (hf.symm.trans (Function.ofName?_eq_some.2 hf'))
      refine ⟨args, _, hargs, (), last, rfl, ?_⟩
      simp [hcount]

theorem gives_readPrimary_group :
    Gives (readPrimary (.opening :: ts)) e last ↔ Gives (readSum ts) e (.closing :: last) := by
  rw [readPrimary]
  simp [gives_bind, pure, Except.pure, gives_readClosing]

theorem gives_readArguments : Gives (readArguments ts) es last ↔
    ∃ e rest es', Gives (readSum ts) e rest ∧ es = e :: es' ∧
      Gives (readMoreArguments rest) es' last := by
  rw [readArguments]
  simp [gives_bind, pure, Except.pure, eq_comm]

theorem gives_readMoreArguments : Gives (readMoreArguments ts) es last ↔
    (∃ more, ts = .comma :: more ∧ Gives (readArguments more) es last) ∨
    ((∀ more, ts ≠ .comma :: more) ∧ es = [] ∧ ts = last) := by
  rw [readMoreArguments.eq_def]
  split
  · simp [gives_bind, pure, Except.pure, gives_readArguments, eq_comm]
  · simp_all [eq_comm]

end Readers

/-! ## What is read is derived -/

/-- The tokens begin with some that are the value, and the rest follows them. -/
def Begins {α : Type} (Is : List Token → α → Prop) (ts : List Token) (v : α) (rest : List Token) :
    Prop :=
  ∃ us, ts = us ++ rest ∧ Is us v

mutual

/-- What is read as a sum is one. -/
theorem IsSum.of_gives {ts rest : List Token} {e : Expr} (h : Gives (readSum ts) e rest) :
    Begins IsSum ts e rest := by
  obtain ⟨left, more, hleft, hmore⟩ := gives_readSum.1 h
  have := hleft.length_lt
  obtain ⟨us, rfl, hus⟩ := IsProduct.of_gives hleft
  exact IsSum.of_gives_terms (.term hus) hmore
termination_by 5 * ts.length + 3

/-- What goes on a sum makes a sum with it. -/
theorem IsSum.of_gives_terms {ts us rest : List Token} {e left : Expr} (hus : IsSum us left)
    (h : Gives (readTerms left ts) e rest) :
    Begins IsSum (us ++ ts) e rest := by
  obtain ⟨op, more, right, more', rfl, hop, hright, hmore⟩ | ⟨-, rfl, rfl⟩ := gives_readTerms.1 h
  · have := hright.length_lt
    obtain ⟨vs, rfl, hvs⟩ := IsProduct.of_gives hright
    simpa using IsSum.of_gives_terms (.joined (Operator.isSum_iff.1 hop) hus hvs) hmore
  · exact ⟨us, rfl, hus⟩
termination_by 5 * ts.length

/-- What is read as a product is one. -/
theorem IsProduct.of_gives {ts rest : List Token} {e : Expr} (h : Gives (readProduct ts) e rest) :
    Begins IsProduct ts e rest := by
  obtain ⟨left, more, hleft, hmore⟩ := gives_readProduct.1 h
  have := hleft.length_lt
  obtain ⟨us, rfl, hus⟩ := IsSigned.of_gives hleft
  exact IsProduct.of_gives_factors (.factor hus) hmore
termination_by 5 * ts.length + 2

/-- What goes on a product makes a product with it. -/
theorem IsProduct.of_gives_factors {ts us rest : List Token} {e left : Expr}
    (hus : IsProduct us left) (h : Gives (readFactors left ts) e rest) :
    Begins IsProduct (us ++ ts) e rest := by
  obtain ⟨op, more, right, more', rfl, hop, hright, hmore⟩ | ⟨-, rfl, rfl⟩ := gives_readFactors.1 h
  · have := hright.length_lt
    obtain ⟨vs, rfl, hvs⟩ := IsSigned.of_gives hright
    simpa using IsProduct.of_gives_factors (.joined (Operator.not_isSum_iff.1 hop) hus hvs) hmore
  · exact ⟨us, rfl, hus⟩
termination_by 5 * ts.length

/-- What is read as a factor with its signs is one. -/
theorem IsSigned.of_gives {ts rest : List Token} {e : Expr} (h : Gives (readSigned ts) e rest) :
    Begins IsSigned ts e rest := by
  by_cases hminus : ∃ more, ts = .operator .sub :: more
  · obtain ⟨more, rfl⟩ := hminus
    obtain ⟨e', rfl, hmore⟩ := gives_readSigned_minus.1 h
    obtain ⟨us, rfl, hus⟩ := IsSigned.of_gives hmore
    exact ⟨.operator .sub :: us, rfl, .minus hus⟩
  by_cases hplus : ∃ more, ts = .operator .add :: more
  · obtain ⟨more, rfl⟩ := hplus
    obtain ⟨us, rfl, hus⟩ := IsSigned.of_gives (gives_readSigned_plus.1 h)
    exact ⟨.operator .add :: us, rfl, .plus hus⟩
  rw [readSigned_eq_readPrimary (not_exists.1 hminus) (not_exists.1 hplus)] at h
  obtain ⟨us, rfl, hus⟩ := IsPrimary.of_gives h
  exact ⟨us, rfl, .primary hus⟩
termination_by 5 * ts.length + 1

/-- What is read as a primary is one. -/
theorem IsPrimary.of_gives {ts rest : List Token} {e : Expr} (h : Gives (readPrimary ts) e rest) :
    Begins IsPrimary ts e rest := by
  match ts with
  | .number x :: more =>
    obtain ⟨rfl, rfl⟩ := gives_readPrimary_number.1 h
    exact ⟨[.number x], rfl, .number x⟩
  | .name text :: .opening :: more =>
    obtain ⟨f, args, rfl, hcount, rfl, hargs⟩ := gives_readPrimary_call.1 h
    obtain ⟨us, rfl, hus⟩ := IsArguments.of_gives hargs
    exact ⟨.name f.name :: .opening :: (us ++ [.closing]), by simp, .call hus hcount⟩
  | .name text :: [] | .name text :: .number _ :: _ | .name text :: .name _ :: _
  | .name text :: .operator _ :: _ | .name text :: .closing :: _ | .name text :: .comma :: _ =>
    obtain ⟨rfl, rfl⟩ := (gives_readPrimary_field (by simp)).1 h
    exact ⟨[.name text], rfl, .field text⟩
  | .opening :: more =>
    obtain ⟨us, rfl, hus⟩ := IsSum.of_gives (gives_readPrimary_group.1 h)
    exact ⟨.opening :: (us ++ [.closing]), by simp, .group hus⟩
  | [] | .operator _ :: _ | .closing :: _ | .comma :: _ =>
    rw [readPrimary] at h <;> simp_all
termination_by 5 * ts.length

/-- What is read as arguments are some. -/
theorem IsArguments.of_gives {ts rest : List Token} {args : List Expr}
    (h : Gives (readArguments ts) args rest) :
    Begins IsArguments ts args rest := by
  obtain ⟨e, more, es, hfirst, rfl, hmore⟩ := gives_readArguments.1 h
  have := hfirst.length_lt
  obtain ⟨us, rfl, hus⟩ := IsSum.of_gives hfirst
  obtain ⟨more', rfl, hnext⟩ | ⟨-, rfl, rfl⟩ := gives_readMoreArguments.1 hmore
  · obtain ⟨vs, rfl, hvs⟩ := IsArguments.of_gives hnext
    exact ⟨us ++ .comma :: vs, by simp, .more hus hvs⟩
  · exact ⟨us, rfl, .last hus⟩
termination_by 5 * ts.length + 4

end

/-! ## What is derived is read -/

/-- A name before these tokens is a field: they do not begin with the arguments of a call. -/
def EndsFactor (rest : List Token) : Prop := ∀ more, rest ≠ .opening :: more

/-- These tokens cannot go on with a term. -/
structure EndsTerm (rest : List Token) : Prop where
  factor : EndsFactor rest
  noFactor : ∀ op more, rest = .operator op :: more → op.isSum = true

/-- These tokens cannot go on with a sum. -/
structure EndsSum (rest : List Token) : Prop where
  factor : EndsFactor rest
  noOperator : ∀ op more, rest ≠ .operator op :: more

theorem endsFactor_operator (op : Operator) (rest : List Token) :
    EndsFactor (.operator op :: rest) := by
  rintro more ⟨⟩

theorem endsTerm_operator {op : Operator} (hop : op.isSum = true) (rest : List Token) :
    EndsTerm (.operator op :: rest) := by
  refine ⟨endsFactor_operator op rest, ?_⟩
  rintro _ _ ⟨⟩
  exact hop

theorem endsSum_nil : EndsSum [] := ⟨by rintro _ ⟨⟩, by rintro _ _ ⟨⟩⟩

theorem endsSum_closing (rest : List Token) : EndsSum (.closing :: rest) :=
  ⟨by rintro _ ⟨⟩, by rintro _ _ ⟨⟩⟩

theorem endsSum_comma (rest : List Token) : EndsSum (.comma :: rest) :=
  ⟨by rintro _ ⟨⟩, by rintro _ _ ⟨⟩⟩

theorem EndsSum.term {rest : List Token} (h : EndsSum rest) : EndsTerm rest :=
  ⟨h.factor, fun op more hrest => absurd hrest (h.noOperator op more)⟩

theorem EndsTerm.gives {rest : List Token} (h : EndsTerm rest) (e : Expr) :
    Gives (readFactors e rest) e rest :=
  gives_readFactors.2 (.inr ⟨h.noFactor, rfl, rfl⟩)

theorem EndsSum.gives {rest : List Token} (h : EndsSum rest) (e : Expr) :
    Gives (readTerms e rest) e rest :=
  gives_readTerms.2 (.inr ⟨fun op more hrest => absurd hrest (h.noOperator op more), rfl, rfl⟩)

theorem IsPrimary.not_sign {us : List Token} {e : Expr} (h : IsPrimary us e) (rest : List Token)
    (op : Operator) (more : List Token) : us ++ rest ≠ .operator op :: more := by
  cases h <;> simp

mutual

/-- The readers take a sum from the front and go on from it. -/
theorem IsSum.gives_terms {us rest last : List Token} {e left : Expr} (h : IsSum us left)
    (hends : EndsTerm rest) (hmore : Gives (readTerms left rest) e last) :
    Gives (readSum (us ++ rest)) e last := by
  cases h with
  | term h =>
    exact gives_readSum.2 ⟨left, rest, h.gives_factors hends.factor (hends.gives left), hmore⟩
  | joined hop hleft hright =>
    have hop := Operator.isSum_iff.2 hop
    rw [List.append_assoc]
    refine hleft.gives_terms (endsTerm_operator hop _) (gives_readTerms.2 (.inl ?_))
    exact ⟨_, _, _, rest, rfl, hop, hright.gives_factors hends.factor (hends.gives _), hmore⟩
termination_by 5 * us.length + 3

/-- The readers take a product from the front and go on from it. -/
theorem IsProduct.gives_factors {us rest last : List Token} {e left : Expr} (h : IsProduct us left)
    (hends : EndsFactor rest) (hmore : Gives (readFactors left rest) e last) :
    Gives (readProduct (us ++ rest)) e last := by
  cases h with
  | factor h => exact gives_readProduct.2 ⟨left, rest, h.gives hends, hmore⟩
  | joined hop hleft hright =>
    rw [List.append_assoc]
    refine hleft.gives_factors (endsFactor_operator _ _) (gives_readFactors.2 (.inl ?_))
    exact ⟨_, _, _, rest, rfl, Operator.not_isSum_iff.2 hop, hright.gives hends, hmore⟩
termination_by 5 * us.length + 2

/-- The readers take a factor with its signs from the front. -/
theorem IsSigned.gives {us rest : List Token} {e : Expr} (h : IsSigned us e)
    (hends : EndsFactor rest) : Gives (readSigned (us ++ rest)) e rest := by
  cases h with
  | minus h => exact gives_readSigned_minus.2 ⟨_, rfl, h.gives hends⟩
  | plus h => exact gives_readSigned_plus.2 (h.gives hends)
  | primary h =>
    rw [readSigned_eq_readPrimary (h.not_sign rest .sub) (h.not_sign rest .add)]
    exact h.gives hends
termination_by 5 * us.length + 1

/-- The readers take a primary from the front. -/
theorem IsPrimary.gives {us rest : List Token} {e : Expr} (h : IsPrimary us e)
    (hends : EndsFactor rest) : Gives (readPrimary (us ++ rest)) e rest := by
  cases h with
  | number x => exact gives_readPrimary_number.2 ⟨rfl, rfl⟩
  | field text => exact (gives_readPrimary_field hends).2 ⟨rfl, rfl⟩
  | @call ts args f hargs hcount =>
    rw [List.cons_append, List.cons_append, List.append_assoc]
    exact gives_readPrimary_call.2 ⟨f, args, rfl, hcount, rfl, hargs.gives⟩
  | group h =>
    rw [List.cons_append, List.append_assoc]
    refine gives_readPrimary_group.2 ?_
    exact h.gives_terms (endsSum_closing rest).term ((endsSum_closing rest).gives e)
termination_by 5 * us.length

/-- The readers take the arguments of a call from the front. -/
theorem IsArguments.gives {us rest : List Token} {args : List Expr} (h : IsArguments us args) :
    Gives (readArguments (us ++ .closing :: rest)) args (.closing :: rest) := by
  cases h with
  | last h =>
    refine gives_readArguments.2 ⟨_, .closing :: rest, [], ?_, rfl, ?_⟩
    · exact h.gives_terms (endsSum_closing rest).term ((endsSum_closing rest).gives _)
    · exact gives_readMoreArguments.2 (.inr (by simp))
  | @more _ us _ _ h hmore =>
    rw [List.append_assoc]
    have hends := endsSum_comma (us ++ .closing :: rest)
    have hfirst := h.gives_terms hends.term (hends.gives _)
    exact gives_readArguments.2
      ⟨_, _, _, hfirst, rfl, gives_readMoreArguments.2 (.inl ⟨_, rfl, hmore.gives⟩)⟩
termination_by 5 * us.length + 4

end

/-- A sum is read whole before anything that cannot go on with it. -/
theorem IsSum.gives {us rest : List Token} {e : Expr} (h : IsSum us e) (hends : EndsSum rest) :
    Gives (readSum (us ++ rest)) e rest :=
  h.gives_terms hends.term (hends.gives e)

/-! ## Whole formulas -/

theorem gives_ofTokens {ts : List Token} {e : Expr} :
    ofTokens ts = .ok e ↔ Gives (readSum ts) e [] := by
  unfold ofTokens
  split
  · rename_i hempty
    rw [List.isEmpty_iff] at hempty
    subst hempty
    exact ⟨nofun, fun h => absurd h.length_lt (Nat.not_lt_zero _)⟩
  · rw [bind_eq_ok]
    constructor
    · rintro ⟨⟨e', rest, hlt⟩, hread, h⟩
      cases rest with
      | nil =>
        cases h
        exact ⟨hlt, hread⟩
      | cons t more => cases h
    · rintro ⟨hlt, hread⟩
      exact ⟨⟨e, [], hlt⟩, hread, rfl⟩

/-- Tokens are read as an expression exactly if the grammar derives it from all of them. -/
theorem ofTokens_eq_ok {ts : List Token} {e : Expr} : ofTokens ts = .ok e ↔ IsSum ts e := by
  rw [gives_ofTokens]
  constructor
  · intro h
    obtain ⟨us, rfl, hus⟩ := IsSum.of_gives h
    rwa [List.append_nil]
  · intro h
    have hread := h.gives endsSum_nil
    rwa [List.append_nil] at hread

/-- Tokens are one expression at most. -/
theorem IsSum.unique {ts : List Token} {e e' : Expr} (h : IsSum ts e) (h' : IsSum ts e') :
    e = e' :=
  Except.ok.inj ((ofTokens_eq_ok.2 h).symm.trans (ofTokens_eq_ok.2 h'))

/-- A text is read as a formula exactly if it falls into tokens and the grammar derives the
expression of the formula from all of them. -/
theorem parse_eq_ok_iff {source : String} {f : Formula} :
    parse source = .ok f ↔
      f.source = source ∧ ∃ ts, tokens source = .ok ts ∧ IsSum ts f.expr := by
  unfold parse
  rw [bind_eq_ok]
  constructor
  · rintro ⟨ts, hts, h⟩
    obtain ⟨e, he, h⟩ := bind_eq_ok.1 h
    cases h
    exact ⟨rfl, ts, hts, ofTokens_eq_ok.1 he⟩
  · rintro ⟨rfl, ts, hts, he⟩
    exact ⟨ts, hts, bind_eq_ok.2 ⟨f.expr, ofTokens_eq_ok.2 he, rfl⟩⟩

end RecordDesk.Formula
