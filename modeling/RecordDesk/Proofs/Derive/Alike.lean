import RecordDesk.Proofs.Lookups
import RecordDesk.Proofs.Derive.Order
import RecordDesk.Proofs.Derive.Pass

/-
  Passes on records that read alike. A plan whose names are all in small letters reads and writes
  under them only, so from records that read alike the same changes follow, and they lead to records
  that read alike (`applyChange_alike`, `recomputeAll_alike`).
-/

namespace RecordDesk.Plan

open Text (InSmall)

/-- What a plan reads and writes stands under names in small letters. -/
structure SmallNames (p : Plan) : Prop where
  calculations : ∀ field k, p.calculations.get? field = some k →
    InSmall k.target ∧ ∀ name ∈ k.formula.fields, InSmall name
  selectors : ∀ s ∈ p.selectors, InSmall s.field ∧ InSmall s.autofill.sourceColumn ∧
    ∀ copy ∈ s.autofill.copies, InSmall copy.source ∧ InSmall copy.target

/-- Two passes have come to the same, on working copies that read alike. -/
structure Pass.Alike (pass other : Pass) : Prop where
  working : Record.ReadsAlike pass.working other.working
  result : other.result = pass.result

/-- So have two passes with their dirty fields. -/
structure Spread.Alike (spread other : Spread) : Prop where
  pass : spread.pass.Alike other.pass
  dirty : other.dirty = spread.dirty

variable {p : Plan} {pass other : Pass} {lookups others : Lookups}

/-- The plan of a table keeps to the names of its form, and to those that its autofills read. -/
theorem smallNames_of_follows {t : Table} (hp : Follows p t)
    (hfields : ∀ f ∈ t.formFields, InSmall f.name)
    (hselectors : ∀ s ∈ t.selectors, InSmall s.autofill.sourceColumn ∧
      ∀ copy ∈ s.autofill.copies, InSmall copy.source) : p.SmallNames := by
  have hname : ∀ name, t.HasField name → InSmall name := by
    intro name hname
    obtain ⟨f, hf, rfl⟩ := List.mem_map.1 hname
    exact hfields f hf
  constructor
  · intro field k hk
    have hknown := hp.known k ((hp.calculation_iff field k).1 hk).1
    exact ⟨hname _ hknown.target, fun name h => hname _ (hknown.fields name h)⟩
  · intro s hs
    rw [hp.selectors] at hs
    obtain ⟨f, hf, hfs⟩ := List.mem_filterMap.1 hs
    obtain ⟨a, -, rfl⟩ := Option.map_eq_some_iff.1 hfs
    obtain ⟨hcolumn, hsources⟩ := hselectors _ hs
    exact ⟨hfields f hf, hcolumn,
      fun copy hcopy => ⟨hsources copy hcopy, hname _ (hp.targets _ hs copy hcopy)⟩⟩

/-! ## Writing -/

theorem Pass.Alike.assign (h : pass.Alike other) {field : String} (hfield : InSmall field)
    (v : Value) : (assign pass field v).Alike (Plan.assign other field v) := by
  unfold Plan.assign
  rw [h.working field hfield, h.result]
  split
  · exact h
  · exact ⟨h.working.insert hfield v, rfl⟩

theorem Pass.Alike.fail (h : pass.Alike other) (field : String) (e : Error) :
    (fail pass field e).Alike (Plan.fail other field e) where
  working := h.working
  result := by rw [Plan.fail, Plan.fail, h.result]

theorem Pass.Alike.calculate (h : pass.Alike other) {k : Calculated} (htarget : InSmall k.target)
    (hfields : ∀ name ∈ k.formula.fields, InSmall name) :
    (calculate pass k).Alike (Plan.calculate other k) := by
  have hvalue : calculatedValue k.formula other.working = calculatedValue k.formula pass.working :=
    calculatedValue_congr fun name hname => h.working name (hfields name hname)
  unfold Plan.calculate
  rw [hvalue]
  obtain ⟨value, failure⟩ := calculatedValue k.formula pass.working
  cases failure with
  | none => exact h.assign htarget value
  | some e => exact (h.fail k.target e).assign htarget value

/-! ## Filling in -/

/-- A selector gives the same values on records that read alike, from rows that do. -/
theorem filledValues_alike {s : Selector} (hfield : InSmall s.field)
    (hcolumn : InSmall s.autofill.sourceColumn)
    (hsources : ∀ copy ∈ s.autofill.copies, InSmall copy.source) (hl : lookups.ReadsAlike others)
    {values working : Record} (h : Record.ReadsAlike values working) :
    filledValues s working others = filledValues s values lookups := by
  unfold filledValues
  rw [h s.field hfield]
  split
  · rfl
  next v _ =>
  split
  · rfl
  have hrow := Lookups.rowFor?_alike hl hcolumn s.autofill.sourceTable v
  generalize lookups.rowFor? s.autofill.sourceTable s.autofill.sourceColumn v = row at hrow
  generalize others.rowFor? s.autofill.sourceTable s.autofill.sourceColumn v = row' at hrow
  cases hrow with
  | none => rfl
  | some hrow =>
    exact List.map_congr_left fun copy hcopy => by rw [hrow copy.source (hsources copy hcopy)]

theorem Spread.Alike.fillFrom (hp : p.SmallNames) {s : Selector} (hs : s ∈ p.selectors)
    (hl : lookups.ReadsAlike others) {spread other : Spread} (h : spread.Alike other) :
    (fillFrom lookups spread s).Alike (Plan.fillFrom others other s) := by
  obtain ⟨hfield, hcolumn, hcopies⟩ := hp.selectors s hs
  unfold Plan.fillFrom
  rw [filledValues_alike hfield hcolumn (fun copy hcopy => (hcopies copy hcopy).1) hl
    h.pass.working]
  refine foldl_related (motive := Spread.Alike) ?_ h
  intro entry hentry spread other h
  obtain ⟨copy, hcopy, htarget⟩ := mem_filledValues hentry
  exact ⟨h.pass.assign (htarget ▸ (hcopies copy hcopy).2) entry.2, congrArg (entry.1 :: ·) h.dirty⟩

/-! ## Passes -/

theorem Spread.Alike.recalculate (hp : p.SmallNames) {spread other : Spread}
    (h : spread.Alike other) (changed field : String) :
    (recalculate p changed spread field).Alike (Plan.recalculate p changed other field) := by
  unfold Plan.recalculate
  rw [h.dirty]
  split
  · exact h
  · split
    · exact h
    · next k hk =>
      obtain ⟨htarget, hfields⟩ := hp.calculations field k hk
      split
      · exact ⟨h.pass.calculate htarget hfields, rfl⟩
      · exact h

theorem Spread.Alike.turn (hp : p.SmallNames) (hl : lookups.ReadsAlike others)
    {spread other : Spread} (h : spread.Alike other) (changed field : String) :
    (turn p changed lookups spread field).Alike (Plan.turn p changed others other field) := by
  have hrecalculated := h.recalculate hp changed field
  unfold Plan.turn
  dsimp only
  rw [hrecalculated.dirty]
  split
  · refine foldl_related (motive := Spread.Alike) ?_ hrecalculated
    intro s hs spread other h
    exact h.fillFrom hp (List.mem_filter.1 hs).1 hl
  · exact hrecalculated

/-- From records that read alike the same changes follow, and they lead to records that read
alike. -/
theorem applyChange_alike (hp : p.SmallNames) (hl : lookups.ReadsAlike others)
    {values working : Record} (h : Record.ReadsAlike values working) (field : String) :
    p.applyChange working field others = p.applyChange values field lookups ∧
      Record.ReadsAlike ((p.applyChange values field lookups).applyTo values)
        ((p.applyChange working field others).applyTo working) := by
  have hstart : Spread.Alike ⟨⟨values, .empty⟩, [field]⟩ ⟨⟨working, .empty⟩, [field]⟩ :=
    ⟨⟨h, rfl⟩, rfl⟩
  have hall := foldl_related (motive := Spread.Alike)
    (fun name (_ : name ∈ p.order) _ _ h => h.turn hp hl field name) hstart
  rw [applyTo_applyChange, applyTo_applyChange]
  exact ⟨hall.pass.result, hall.pass.working⟩

/-- A full calculation leads from records that read alike to records that read alike. -/
theorem recomputeAll_alike (hp : p.SmallNames) {values working : Record}
    (h : Record.ReadsAlike values working) :
    Record.ReadsAlike ((p.recomputeAll values).applyTo values)
      ((p.recomputeAll working).applyTo working) := by
  have hstart : Pass.Alike ⟨values, .empty⟩ ⟨working, .empty⟩ := ⟨h, rfl⟩
  have hall : Pass.Alike (p.order.foldl (recalculateAlways p) ⟨values, .empty⟩)
      (p.order.foldl (recalculateAlways p) ⟨working, .empty⟩) := by
    refine foldl_related ?_ hstart
    intro name _ pass other h
    unfold recalculateAlways
    split
    · next k hk =>
      obtain ⟨htarget, hfields⟩ := hp.calculations name k hk
      exact h.calculate htarget hfields
    · exact h
  rw [applyTo_recomputeAll, applyTo_recomputeAll]
  exact hall.working

end RecordDesk.Plan
