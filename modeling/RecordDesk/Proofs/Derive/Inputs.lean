import RecordDesk.Proofs.Derive.Current
import RecordDesk.Proofs.Derive.Triggers

/-
  Inputs: the columns that are not derived. A pass leaves them as they are
  (`sameInputs_applyChange`). In a table without autofill they determine every calculated field that
  is up to date, one field after another along the order (`lookup_eq_of_current`).
-/

namespace RecordDesk

namespace Table

/-- The records hold the same in every column that is not derived. -/
def SameInputs (t : Table) (r s : Record) : Prop :=
  ∀ column, ¬ t.Derived column → r.get? column = s.get? column

variable {t : Table} {r s : Record}

theorem SameInputs.insert (h : t.SameInputs r s) (column : String) (v : Value) :
    t.SameInputs (r.insert column v) (s.insert column v) := by
  intro other hother
  rw [Record.get?_insert, Record.get?_insert, h other hother]

/-- A form field that is not derived is looked up among the inputs: no derived field has its name in
another case. -/
theorem SameInputs.lookup (h : t.SameInputs r s) (ht : t.Distinct)
    (hknown : ∀ name, t.Derived name → t.HasField name) {name : String} (hname : t.HasField name)
    (hinput : ¬ t.Derived name) : r.lookup name = s.lookup name := by
  have hupper : ¬ t.Derived (Text.upper name) := by
    intro hderived
    have hne : name ≠ Text.upper name := fun e => hinput (e ▸ hderived)
    exact (ht name _ hname (hknown _ hderived) hne).1 rfl
  have hlower : ¬ t.Derived (Text.lower name) := by
    intro hderived
    have hne : name ≠ Text.lower name := fun e => hinput (e ▸ hderived)
    exact (ht name _ hname (hknown _ hderived) hne).2 rfl
  simp only [Record.lookup, h name hinput, h _ hupper, h _ hlower]

end Table

namespace Plan

variable {t : Table} {p : Plan} {values : Record}

theorem Follows.hasField_of_derived (hp : Follows p t) {name : String} (h : t.Derived name) :
    t.HasField name := by
  rcases h with ⟨k, hk, rfl⟩ | ⟨s, hs, copy, hcopy, rfl⟩
  · exact (hp.known k hk).target
  · exact hp.targets s hs copy hcopy

/-! ## What a pass writes -/

section Kept

variable {motive : Pass → Prop} {changed : String} {lookups : Lookups}
  (hassign : ∀ pass field v, t.Derived field → motive pass → motive (assign pass field v))
  (hfail : ∀ pass field e, motive pass → motive (fail pass field e))

include hassign in
theorem kept_fillFrom {spread : Spread} (h : motive spread.pass) {s : Selector}
    (hs : s ∈ t.selectors) : motive (fillFrom lookups spread s).pass := by
  refine List.foldlRecOn _ _ (motive := fun spread : Spread => motive spread.pass) h ?_
  intro spread hspread entry hentry
  obtain ⟨copy, hcopy, htarget⟩ := mem_filledValues hentry
  exact hassign _ _ _ (.inr ⟨s, hs, copy, hcopy, htarget⟩) hspread

include hassign hfail

theorem kept_calculate {pass : Pass} (h : motive pass) {k : Calculated}
    (hk : k ∈ t.calculations) : motive (calculate pass k) := by
  unfold calculate
  obtain ⟨value, failure⟩ := calculatedValue k.formula pass.working
  cases failure with
  | none => exact hassign _ _ _ (.inl ⟨k, hk, rfl⟩) h
  | some e => exact hassign _ _ _ (.inl ⟨k, hk, rfl⟩) (hfail _ _ e h)

theorem kept_turn (hp : Follows p t) {spread : Spread} (h : motive spread.pass) (field : String) :
    motive (turn p changed lookups spread field).pass := by
  have hrecalculated : motive (recalculate p changed spread field).pass := by
    rcases recalculate_cases spread field with heq | ⟨k, hk, heq⟩
    · rwa [heq]
    · rw [heq]
      exact kept_calculate hassign hfail h ((hp.calculation_iff field k).1 hk).1
  unfold turn
  dsimp only
  split
  · refine List.foldlRecOn _ _ (motive := fun spread : Spread => motive spread.pass)
      hrecalculated ?_
    intro spread hspread s hmem
    exact kept_fillFrom hassign hspread (hp.selectors ▸ (List.mem_filter.1 hmem).1)
  · exact hrecalculated

/-- What holds at first, and is kept where a derived field is written and where a failure is noted,
holds at the end of the pass that follows a change. -/
theorem kept_pass (hp : Follows p t) (h : motive ⟨values, .empty⟩) :
    motive (p.order.foldl (turn p changed lookups) ⟨⟨values, .empty⟩, [changed]⟩).pass :=
  List.foldlRecOn _ _ (motive := fun spread : Spread => motive spread.pass) h
    fun _ hspread name _ => kept_turn hassign hfail hp hspread name

end Kept

theorem sameInputs_assign {pass : Pass} (h : t.SameInputs values pass.working) {field : String}
    (hfield : t.Derived field) (v : Value) : t.SameInputs values (assign pass field v).working := by
  rcases working_assign pass field v with ⟨hw, -⟩ | hw
  · rwa [hw]
  · intro column hcolumn
    have hne : column ≠ field := fun e => hcolumn (e ▸ hfield)
    rw [hw, Record.get?_insert, if_neg hne, h column hcolumn]

/-- The pass that follows a change leaves the columns that are not derived as they are. -/
theorem sameInputs_applyChange (hp : Follows p t) (values : Record) (field : String)
    (lookups : Lookups) :
    t.SameInputs values ((p.applyChange values field lookups).applyTo values) := by
  rw [applyTo_applyChange]
  exact kept_pass (motive := fun pass => t.SameInputs values pass.working)
    (fun _ _ v hfield h => sameInputs_assign h hfield v) (fun _ _ _ h => h) hp fun _ _ => rfl

theorem derived_assign {pass : Pass} (h : ∀ entry ∈ pass.result.changes, t.Derived entry.1)
    {field : String} (hfield : t.Derived field) (v : Value) :
    ∀ entry ∈ (assign pass field v).result.changes, t.Derived entry.1 := by
  unfold assign
  split
  · exact h
  · intro entry hentry
    rcases List.mem_append.1 hentry with hentry | hentry
    · exact h entry hentry
    · rw [List.mem_singleton.1 hentry]
      exact hfield

/-- The changes that it reports are changes of derived fields. -/
theorem derived_of_mem_changes (hp : Follows p t) {field : String} {lookups : Lookups}
    {entry : String × Value} (h : entry ∈ (p.applyChange values field lookups).changes) :
    t.Derived entry.1 :=
  kept_pass (motive := fun pass => ∀ entry ∈ pass.result.changes, t.Derived entry.1)
    (fun _ _ v hfield hpass => derived_assign hpass hfield v) (fun _ _ _ hpass => hpass) hp nofun
    entry h

/-! ## What the inputs determine -/

/-- Where the calculations are up to date, the fields that are not calculated determine those that
are. -/
theorem lookup_eq_of_current (hp : Follows p t) {r s : Record}
    (hr : ∀ k ∈ t.calculations, Current r k) (hs : ∀ k ∈ t.calculations, Current s k)
    (hinputs : ∀ name, t.HasField name → (∀ k ∈ t.calculations, k.target ≠ name) →
      r.lookup name = s.lookup name) {name : String} (hname : t.HasField name) :
    r.lookup name = s.lookup name := by
  -- a formula reads what stands before its target, so the order is gone along from the front
  have hupto : ∀ done rest, p.order = done ++ rest → ∀ k ∈ t.calculations, k.target ∈ done →
      r.lookup k.target = s.lookup k.target := by
    intro done
    induction done using List.reverseRecOn with
    | nil => intro _ _ k _ hmem; exact absurd hmem List.not_mem_nil
    | append_singleton done field ih =>
      intro rest hsplit k hk hmem
      have hsplit' : p.order = done ++ field :: rest := by simpa using hsplit
      rcases List.mem_append.1 hmem with hmem | hmem
      · exact ih (field :: rest) hsplit' k hk hmem
      obtain rfl := List.mem_singleton.1 hmem
      rw [hr k hk, hs k hk]
      refine congrArg (fun result => some (Prod.fst result)) (calculatedValue_congr fun a ha => ?_)
      by_cases hcalculated : ∃ c ∈ t.calculations, c.target = a
      · obtain ⟨c, hc, rfl⟩ := hcalculated
        have hbefore := hp.forward done k.target rest hsplit' c.target
          (Table.depends_of_mem_fields hk ha)
        exact ih (k.target :: rest) hsplit' c hc hbefore
      · exact hinputs a ((hp.known k hk).fields a ha) fun c hc e => hcalculated ⟨c, hc, e⟩
  by_cases hcalculated : ∃ k ∈ t.calculations, k.target = name
  · obtain ⟨k, hk, rfl⟩ := hcalculated
    exact hupto p.order [] (List.append_nil _).symm k hk (hp.target_mem hk)
  · exact hinputs name hname fun k hk e => hcalculated ⟨k, hk, e⟩

end Plan

end RecordDesk
