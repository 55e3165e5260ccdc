import RecordDesk.Proofs.Steps
import RecordDesk.Proofs.Graph.Order
import RecordDesk.Derive.Plan

/-
  The derivations of a table, read off its fields one by one, and what collecting them gives: a
  draft that holds just these, all of them over fields of the form (`collect_ok`).
-/

namespace RecordDesk

namespace FormField

/-- What the field calculates, if it carries a calculation that is enabled and can be read. -/
def calculated? (f : FormField) : Option Calculated := do
  let c ← f.calculation.filter (·.enabled)
  let formula ← (Formula.read c.formula).toOption
  return ⟨c.target.getD f.name, formula,
    if c.triggers.isEmpty then formula.fields else c.triggers⟩

theorem calculated?_eq_some {f : FormField} {c : Calculation} {formula : Formula}
    (hc : f.calculation.filter (·.enabled) = some c)
    (hread : Formula.read c.formula = .ok formula) :
    f.calculated? = some ⟨c.target.getD f.name, formula,
      if c.triggers.isEmpty then formula.fields else c.triggers⟩ := by
  rw [calculated?, hc, Option.bind_eq_bind, Option.bind_some, hread]
  rfl

theorem calculated?_eq_none {f : FormField} (hc : f.calculation.filter (·.enabled) = none) :
    f.calculated? = none := by
  simp only [calculated?, hc]
  rfl

/-- What the field fills in, if it carries an autofill that is enabled. -/
def selector? (f : FormField) : Option Selector :=
  (f.autofill.filter (·.enabled)).map (⟨f.name, ·⟩)

end FormField

namespace Table

/-- The calculations of a table. -/
def calculations (t : Table) : List Calculated := t.formFields.filterMap FormField.calculated?

/-- The selectors of a table. -/
def selectors (t : Table) : List Selector := t.formFields.filterMap FormField.selector?

/-- The name is that of a form field. -/
def HasField (t : Table) (name : String) : Prop := name ∈ t.formFields.map (·.name)

end Table

namespace Plan

/-! ## The checks -/

theorem requireField_eq_ok {t : Table} {name role : String} :
    requireField t name role = .ok () ↔ t.HasField name := by
  unfold requireField Table.HasField
  split
  · next h => simpa using h
  · next h => simpa using h

theorem requireFields_eq_ok {t : Table} {names : List String} {role : String} :
    requireFields t names role = .ok () ↔ ∀ name ∈ names, t.HasField name := by
  simp only [requireFields, forM_eq_ok, requireField_eq_ok]

/-- The calculation is over fields of the form. -/
structure Known (t : Table) (c : Calculated) : Prop where
  target : t.HasField c.target
  fields : ∀ name ∈ c.formula.fields, t.HasField name
  triggers : ∀ name ∈ c.triggers, t.HasField name

/-! ## The draft -/

/-- A calculation that is added can be read, is over fields of the form, and is the first one of its
target. -/
theorem addCalculation_ok {t : Table} {draft draft' : Draft} {f : FormField} {c : Calculation}
    (hc : f.calculation.filter (·.enabled) = some c)
    (h : addCalculation t draft f c = .ok draft') :
    ∃ k, f.calculated? = some k ∧ Known t k ∧ draft.calculations.get? k.target = none ∧
      draft' = { draft with calculations := draft.calculations.insert k.target k } := by
  unfold addCalculation at h
  obtain ⟨⟨⟩, htarget, h⟩ := bind_eq_ok.1 h
  obtain ⟨formula, hread, h⟩ := bind_eq_ok.1 h
  obtain ⟨⟨⟩, hfields, h⟩ := bind_eq_ok.1 h
  obtain ⟨⟨⟩, htriggers, h⟩ := bind_eq_ok.1 h
  rw [requireField_eq_ok] at htarget
  rw [requireFields_eq_ok] at hfields htriggers
  dsimp only at h
  split at h
  · cases h
  · next hnew =>
    obtain rfl := Except.ok.inj h
    refine ⟨_, FormField.calculated?_eq_some hc hread, ⟨htarget, hfields, ?_⟩,
      by simpa [Dict.contains] using hnew, rfl⟩
    dsimp only
    split
    · exact hfields
    · exact htriggers

/-- A selector that is added fills fields of the form. -/
theorem addSelector_ok {t : Table} {draft draft' : Draft} {f : FormField} {a : Autofill}
    (h : addSelector t draft f a = .ok draft') :
    (∀ copy ∈ a.copies, t.HasField copy.target) ∧
      draft' = { draft with selectors := draft.selectors ++ [⟨f.name, a⟩] } := by
  unfold addSelector at h
  obtain ⟨⟨⟩, htargets, h⟩ := bind_eq_ok.1 h
  rw [requireFields_eq_ok] at htargets
  exact ⟨by simpa using htargets, (Except.ok.inj h).symm⟩

/-- The calculations of a draft are those of the fields so far, one for each target. -/
structure Draft.Calculates (t : Table) (done : List FormField) (calculations : Dict Calculated) :
    Prop where
  get?_iff : ∀ target k, calculations.get? target = some k ↔
    k ∈ done.filterMap FormField.calculated? ∧ k.target = target
  known : ∀ k ∈ done.filterMap FormField.calculated?, Known t k
  readable : ∀ f ∈ done, ∀ c, f.calculation.filter (·.enabled) = some c → f.calculated?.isSome

/-- The selectors of a draft are those of the fields so far. -/
structure Draft.Selects (t : Table) (done : List FormField) (selectors : List Selector) :
    Prop where
  eq : selectors = done.filterMap FormField.selector?
  targets : ∀ s ∈ selectors, ∀ copy ∈ s.autofill.copies, t.HasField copy.target

theorem Draft.Calculates.skip {t : Table} {done : List FormField} {calculations : Dict Calculated}
    {f : FormField} (h : Draft.Calculates t done calculations)
    (hc : f.calculation.filter (·.enabled) = none) :
    Draft.Calculates t (done ++ [f]) calculations := by
  have hnone := FormField.calculated?_eq_none hc
  refine ⟨by simpa [hnone] using h.get?_iff, by simpa [hnone] using h.known, ?_⟩
  intro g hg c hgc
  rcases List.mem_append.1 hg with hg | hg
  · exact h.readable g hg c hgc
  · obtain rfl := List.mem_singleton.1 hg
    rw [hc] at hgc
    cases hgc

theorem Draft.Calculates.add {t : Table} {done : List FormField} {calculations : Dict Calculated}
    {f : FormField} {k : Calculated} (h : Draft.Calculates t done calculations)
    (hf : f.calculated? = some k) (hk : Known t k) (hnew : calculations.get? k.target = none) :
    Draft.Calculates t (done ++ [f]) (calculations.insert k.target k) := by
  have hmem : ∀ j, j ∈ (done ++ [f]).filterMap FormField.calculated? ↔
      j ∈ done.filterMap FormField.calculated? ∨ j = k := by
    intro j; simp [hf, eq_comm]
  refine ⟨fun target j => ?_, fun j hj => ?_, fun g hg c hgc => ?_⟩
  · rw [Dict.get?_insert, hmem]
    split
    · next htarget =>
      subst htarget
      constructor
      · intro hj; obtain rfl := Option.some.inj hj; exact ⟨.inr rfl, rfl⟩
      · rintro ⟨hj | rfl, htarget⟩
        · rw [(h.get?_iff k.target j).2 ⟨hj, htarget⟩] at hnew
          cases hnew
        · rfl
    · next htarget =>
      rw [h.get?_iff]
      constructor
      · rintro ⟨hj, hjt⟩; exact ⟨.inl hj, hjt⟩
      · rintro ⟨hj | rfl, hjt⟩
        · exact ⟨hj, hjt⟩
        · exact absurd hjt.symm htarget
  · rcases (hmem j).1 hj with hj | rfl
    · exact h.known j hj
    · exact hk
  · rcases List.mem_append.1 hg with hg | hg
    · exact h.readable g hg c hgc
    · obtain rfl := List.mem_singleton.1 hg
      simp [hf]

theorem addField_ok {t : Table} {draft draft' : Draft} {f : FormField}
    (h : addField t draft f = .ok draft') :
    ∃ mid, (match f.calculation.filter (·.enabled) with
        | some c => addCalculation t draft f c
        | none => .ok draft) = .ok mid ∧
      (match f.autofill.filter (·.enabled) with
        | some a => addSelector t mid f a
        | none => .ok mid) = .ok draft' := by
  rw [← bind_eq_ok, ← h, addField]
  cases f.calculation.filter (·.enabled) <;> rfl

/-- One field adds what it calculates and what it fills in. -/
theorem addField_holds {t : Table} {done : List FormField} {draft draft' : Draft}
    {f : FormField} (hc : Draft.Calculates t done draft.calculations)
    (hs : Draft.Selects t done draft.selectors) (h : addField t draft f = .ok draft') :
    Draft.Calculates t (done ++ [f]) draft'.calculations ∧
      Draft.Selects t (done ++ [f]) draft'.selectors := by
  obtain ⟨mid, hcalc, hsel⟩ := addField_ok h
  have hmid : Draft.Calculates t (done ++ [f]) mid.calculations ∧
      mid.selectors = draft.selectors := by
    split at hcalc
    · next c hfc =>
      obtain ⟨k, hf, hk, hnew, rfl⟩ := addCalculation_ok hfc hcalc
      exact ⟨hc.add hf hk hnew, rfl⟩
    · next hfc =>
      obtain rfl := Except.ok.inj hcalc
      exact ⟨hc.skip hfc, rfl⟩
  split at hsel
  · next a hfa =>
    obtain ⟨htargets, rfl⟩ := addSelector_ok hsel
    refine ⟨hmid.1, ?_, ?_⟩
    · simp [hmid.2, hs.eq, FormField.selector?, hfa]
    · intro s hmem
      rcases List.mem_append.1 hmem with hmem | hmem
      · exact hs.targets s (hmid.2 ▸ hmem)
      · obtain rfl := List.mem_singleton.1 hmem
        exact htargets
  · next hfa =>
    obtain rfl := Except.ok.inj hsel
    refine ⟨hmid.1, ?_, ?_⟩
    · simp [hmid.2, hs.eq, FormField.selector?, hfa]
    · rw [hmid.2]; exact hs.targets

/-- A collected draft holds the calculations and the selectors of the table. -/
theorem collect_ok {t : Table} {draft : Draft} (h : collect t = .ok draft) :
    Draft.Calculates t t.formFields draft.calculations ∧
      Draft.Selects t t.formFields draft.selectors := by
  refine foldlM_ok (motive := fun done (d : Draft) => Draft.Calculates t done d.calculations ∧
      Draft.Selects t done d.selectors) ?_ ?_ h
  · intro done d f d' hd hstep
    exact addField_holds hd.1 hd.2 hstep
  · exact ⟨⟨by simp, by simp, by simp⟩, ⟨rfl, by simp⟩⟩

end Plan

end RecordDesk
