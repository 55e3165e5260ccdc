import RecordDesk.Form.Session
import RecordDesk.Proofs.Config.Loaded
import RecordDesk.Proofs.Derive.Collect
import RecordDesk.Proofs.Formula.Defined

/-
  New forms. They start with the defaults of their checkboxes, and no formula is evaluated on these.
  A field whose formula has a value on the defaults is therefore out of date from the start, unless
  its own default is that value by chance (`create_consistent_iff`). Only formulas over checkboxes
  with a number as default have one, and those over nothing at all.
-/

namespace RecordDesk.Session

/-- Wherever the formula of a calculated field has a value, the field shows it. -/
def Consistent (t : Table) (s : Session) : Prop :=
  ∀ k ∈ t.calculations, ∀ x, k.formula.evaluate s.values = .ok (some x) →
    s.values.lookup k.target = some (.ofNumber x)

variable {config : Configuration} {name : String} {t : Table} {lookups : Lookups} {s : Session}

theorem values_of_create (htable : config.table name = .ok t)
    (hcreate : create config name lookups = .ok s) : s.values = seeded t := by
  obtain ⟨t', ht', h⟩ := bind_eq_ok.1 hcreate
  obtain rfl : t = t' := Except.ok.inj (htable.symm.trans ht')
  obtain ⟨p, -, h⟩ := bind_eq_ok.1 h
  obtain rfl := Except.ok.inj h
  rfl

theorem read_of_mem_calculations {k : Calculated} (hk : k ∈ t.calculations) :
    ∃ source, Formula.read source = .ok k.formula := by
  obtain ⟨f, -, hfk⟩ := List.mem_filterMap.1 hk
  simp only [FormField.calculated?, Option.bind_eq_bind, Option.bind_eq_some_iff,
    Option.pure_def, Option.some.injEq] at hfk
  obtain ⟨c, -, formula, hread, rfl⟩ := hfk
  refine ⟨c.formula, ?_⟩
  cases h : Formula.read c.formula with
  | ok f =>
    rw [h] at hread
    exact congrArg Except.ok (Option.some.inj hread)
  | error e =>
    rw [h] at hread
    cases hread

/-- A new form is consistent exactly if each formula over nothing but numbers among the defaults of
the checkboxes fails on these, or its target has the value that it gives as a default. -/
theorem create_consistent_iff (htable : config.table name = .ok t)
    (hcreate : create config name lookups = .ok s) :
    s.Consistent t ↔ ∀ k ∈ t.calculations,
      (∀ field ∈ k.formula.fields, Formula.Numeric (seeded t) field) →
        (∃ fault, k.formula.evaluate (seeded t) = .error fault) ∨
        ∃ x, k.formula.evaluate (seeded t) = .ok (some x) ∧
          (seeded t).lookup k.target = some (.ofNumber x) := by
  unfold Consistent
  rw [values_of_create htable hcreate]
  constructor
  · intro h k hk hnum
    obtain ⟨source, hread⟩ := read_of_mem_calculations hk
    rcases Formula.evaluate_of_numeric hread hnum with hfault | ⟨x, hx⟩
    · exact .inl hfault
    · exact .inr ⟨x, hx, h k hk x hx⟩
  · intro h k hk x hx
    rcases h k hk (Formula.numeric_of_evaluate hx) with ⟨fault, hfault⟩ | ⟨y, hy, htarget⟩
    · rw [hfault] at hx
      cases hx
    · rw [hx] at hy
      cases hy
      exact htarget

/-! ## Parcels -/

/-- Parcels, paid on delivery as a rule, with what is then due. -/
def parcelTable (due : String) : Table :=
  { Table.default with
    name := "parcels"
    formFields := [
      { FormField.default with
        name := "onDelivery", kind := .checkbox, defaultValue := some (.int 1) },
      { FormField.default with name := "price", kind := .number },
      { FormField.default with name := "due", calculation := some ⟨true, due, none, []⟩ }] }

theorem exists_create {t : Table} (hok : (Configuration.make (.only t) .default .empty "en" >>=
      fun config => create config t.name .empty).isOk = true) :
    ∃ config s, Configuration.make (.only t) .default .empty "en" = .ok config ∧
      config.table t.name = .ok t ∧ create config t.name .empty = .ok s := by
  obtain ⟨s, hs⟩ := exists_of_isOk hok
  obtain ⟨config, hmake, hcreate⟩ := bind_eq_ok.1 hs
  exact ⟨config, s, hmake, Configuration.table_of_only hmake, hcreate⟩

/-- Without a price nothing is due yet. -/
theorem create_consistent_iff_price :
    ∃ config s, config.table "parcels" = .ok (parcelTable "price * onDelivery") ∧
      create config "parcels" .empty = .ok s ∧ s.Consistent (parcelTable "price * onDelivery") := by
  obtain ⟨config, s, -, htable, hcreate⟩ :=
    exists_create (t := parcelTable "price * onDelivery") (by decide +kernel)
  refine ⟨config, s, htable, hcreate, (create_consistent_iff htable hcreate).2 ?_⟩
  intro k hk hnum
  have hprice : ∀ k ∈ (parcelTable "price * onDelivery").calculations,
      "price" ∈ k.formula.fields := by
    decide +kernel
  have hmissing : ((seeded (parcelTable "price * onDelivery")).lookup "price").isSome = false := by
    decide +kernel
  obtain ⟨v, x, hv, -⟩ := hnum "price" (hprice k hk)
  rw [hv] at hmissing
  cases hmissing

/-- A fee that only depends on the checkbox is due at once, and a new form does not show it. -/
theorem not_consistent_fee :
    ∃ config s, Configuration.make (.only (parcelTable "onDelivery * 5")) .default .empty "en" =
        .ok config ∧
      config.table "parcels" = .ok (parcelTable "onDelivery * 5") ∧
      create config "parcels" .empty = .ok s ∧ ¬ s.Consistent (parcelTable "onDelivery * 5") := by
  obtain ⟨config, s, hmake, htable, hcreate⟩ :=
    exists_create (t := parcelTable "onDelivery * 5") (by decide +kernel)
  refine ⟨config, s, hmake, htable, hcreate, fun h => ?_⟩
  have hdue : ∃ k ∈ (parcelTable "onDelivery * 5").calculations,
      (k.formula.evaluate (seeded (parcelTable "onDelivery * 5"))).toOption.join.isSome = true ∧
      ((seeded (parcelTable "onDelivery * 5")).lookup k.target).isSome = false := by
    decide +kernel
  obtain ⟨k, hk, hvalue, hmissing⟩ := hdue
  have hvalues := values_of_create htable hcreate
  cases heval : k.formula.evaluate (seeded (parcelTable "onDelivery * 5")) with
  | error fault =>
    rw [heval] at hvalue
    cases hvalue
  | ok value =>
    cases value with
    | none =>
      rw [heval] at hvalue
      cases hvalue
    | some x =>
      have hshown := h k hk x (by rw [hvalues, heval])
      rw [hvalues] at hshown
      rw [hshown] at hmissing
      cases hmissing

end RecordDesk.Session
