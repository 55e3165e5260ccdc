import RecordDesk.Proofs.Value.Equality
import RecordDesk.Proofs.Record.Lookup
import RecordDesk.Proofs.Formula.Fields
import RecordDesk.Derive.Changes

/-
  A pass over a plan, step by step: what a step writes to the working copy and what it leaves as it
  was. The changes that a pass reports are those that it has made to its working copy
  (`applyTo_applyChange`, `applyTo_recomputeAll`).
-/

namespace RecordDesk.Plan

/-! ## Calculated values -/

/-- What a formula gives depends on its fields. -/
theorem calculatedValue_congr {f : Formula} {r s : Record}
    (h : ∀ name ∈ f.fields, r.lookup name = s.lookup name) :
    calculatedValue f r = calculatedValue f s := by
  simp only [calculatedValue, Formula.evaluate_congr h]

/-- Nothing but itself equals a calculated value. -/
theorem eq_of_same_calculatedValue {f : Formula} {r : Record} {v : Value}
    (h : v.same (calculatedValue f r).1 = true) : v = (calculatedValue f r).1 := by
  unfold calculatedValue at h ⊢
  split at h
  · exact Value.eq_of_same_ofNumber h
  · exact Value.eq_of_same_null h
  · exact Value.eq_of_same_null h

/-- A calculated value equals itself. -/
theorem same_calculatedValue_self (f : Formula) (r : Record) :
    (calculatedValue f r).1.same (calculatedValue f r).1 = true := by
  unfold calculatedValue
  split
  · exact Value.same_ofNumber_self _
  · rfl
  · rfl

/-! ## Writing -/

theorem working_assign (pass : Pass) (field : String) (v : Value) :
    ((assign pass field v).working = pass.working ∧
        ∃ old, pass.working.lookup field = some old ∧ old.same v = true) ∨
      (assign pass field v).working = pass.working.insert field v := by
  unfold assign
  split
  · next h => exact .inl ⟨rfl, by simpa [Option.any_eq_true] using h⟩
  · exact .inr rfl

theorem alikeBeside_assign (pass : Pass) (field : String) (v : Value) :
    Record.AlikeBeside field pass.working (assign pass field v).working := by
  rcases working_assign pass field v with ⟨hw, -⟩ | hw
  · rw [hw]
    exact fun _ _ => rfl
  · rw [hw]
    exact Record.alikeBeside_insert pass.working field v

/-- A calculation is an assignment, apart from the failure that it notes. -/
theorem calculate_eq (pass : Pass) (c : Calculated) :
    ∃ noted : Pass, noted.working = pass.working ∧ noted.result.changes = pass.result.changes ∧
      calculate pass c = assign noted c.target (calculatedValue c.formula pass.working).1 := by
  unfold calculate
  obtain ⟨value, failure⟩ := calculatedValue c.formula pass.working
  cases failure with
  | none => exact ⟨pass, rfl, rfl, rfl⟩
  | some e => exact ⟨fail pass c.target e, rfl, rfl, rfl⟩

theorem alikeBeside_calculate (pass : Pass) (c : Calculated) :
    Record.AlikeBeside c.target pass.working (calculate pass c).working := by
  obtain ⟨noted, hworking, -, heq⟩ := calculate_eq pass c
  rw [heq, ← hworking]
  exact alikeBeside_assign noted c.target _

/-- The target of a calculation then reads as what was calculated, also where nothing had to be
written. -/
theorem lookup_calculate_self (pass : Pass) (c : Calculated) :
    (calculate pass c).working.lookup c.target =
      some (calculatedValue c.formula pass.working).1 := by
  obtain ⟨noted, hworking, -, heq⟩ := calculate_eq pass c
  rw [heq]
  rcases working_assign noted c.target (calculatedValue c.formula pass.working).1 with
    ⟨hw, old, hold, hsame⟩ | hw
  · rw [hw, hold, eq_of_same_calculatedValue hsame]
  · rw [hw, Record.lookup_insert_self]

/-- A selector gives values to fields that it copies to. -/
theorem mem_filledValues {s : Selector} {working : Record} {lookups : Lookups}
    {entry : String × Value} (h : entry ∈ filledValues s working lookups) :
    ∃ copy ∈ s.autofill.copies, copy.target = entry.1 := by
  unfold filledValues at h
  split at h
  · obtain ⟨copy, hcopy, rfl⟩ := List.mem_map.1 h
    exact ⟨copy, hcopy, rfl⟩
  · split at h
    · obtain ⟨copy, hcopy, rfl⟩ := List.mem_map.1 h
      exact ⟨copy, hcopy, rfl⟩
    · split at h
      · exact absurd h List.not_mem_nil
      · obtain ⟨copy, hcopy, rfl⟩ := List.mem_map.1 h
        exact ⟨copy, hcopy, rfl⟩

/-! ## The changes of a pass -/

/-- The changes made so far lead from the record to the working copy. -/
def Pass.Tracks (values : Record) (pass : Pass) : Prop := pass.result.applyTo values = pass.working

theorem Pass.Tracks.assign {values : Record} {pass : Pass} (h : pass.Tracks values)
    (field : String) (v : Value) : (assign pass field v).Tracks values := by
  unfold Plan.assign
  split
  · exact h
  · simp only [Pass.Tracks, ChangeSet.applyTo, List.foldl_append, List.foldl_cons, List.foldl_nil]
    exact congrArg (·.insert field v) h

theorem Pass.Tracks.calculate {values : Record} {pass : Pass} (h : pass.Tracks values)
    (c : Calculated) : (calculate pass c).Tracks values := by
  obtain ⟨noted, hworking, hchanges, heq⟩ := calculate_eq pass c
  have hnoted : noted.Tracks values := by
    rw [Pass.Tracks, ChangeSet.applyTo, hchanges, hworking]
    exact h
  rw [heq]
  exact hnoted.assign _ _

theorem tracks_recalculate {p : Plan} {values : Record} {changed : String} {spread : Spread}
    (h : spread.pass.Tracks values) (field : String) :
    (recalculate p changed spread field).pass.Tracks values := by
  unfold recalculate
  split
  · exact h
  · split
    · exact h
    · split
      · exact h.calculate _
      · exact h

theorem tracks_fillFrom {values : Record} {lookups : Lookups} {spread : Spread}
    (h : spread.pass.Tracks values) (s : Selector) :
    (fillFrom lookups spread s).pass.Tracks values :=
  List.foldlRecOn _ _ (motive := fun spread : Spread => spread.pass.Tracks values) h
    fun _ hspread entry _ => hspread.assign entry.1 entry.2

theorem tracks_turn {p : Plan} {values : Record} {changed : String} {lookups : Lookups}
    {spread : Spread} (h : spread.pass.Tracks values) (field : String) :
    (turn p changed lookups spread field).pass.Tracks values := by
  have hrecalculated : (recalculate p changed spread field).pass.Tracks values :=
    tracks_recalculate h field
  unfold turn
  dsimp only
  split
  · exact List.foldlRecOn _ _ (motive := fun spread : Spread => spread.pass.Tracks values)
      hrecalculated fun _ hspread s _ => tracks_fillFrom hspread s
  · exact hrecalculated

/-- The changes that follow from a change, made on the record, give the working copy. -/
theorem applyTo_applyChange (p : Plan) (values : Record) (field : String) (lookups : Lookups) :
    (p.applyChange values field lookups).applyTo values =
      (p.order.foldl (turn p field lookups) ⟨⟨values, .empty⟩, [field]⟩).pass.working :=
  List.foldlRecOn _ _ (motive := fun spread : Spread => spread.pass.Tracks values) rfl
    fun _ hspread name _ => tracks_turn hspread name

/-- The changes of a full calculation, made on the record, give the working copy. -/
theorem applyTo_recomputeAll (p : Plan) (values : Record) :
    (p.recomputeAll values).applyTo values =
      (p.order.foldl (recalculateAlways p) ⟨values, .empty⟩).working := by
  refine List.foldlRecOn _ _ (motive := fun pass : Pass => pass.Tracks values) rfl ?_
  intro pass hpass name _
  unfold recalculateAlways
  split
  · exact hpass.calculate _
  · exact hpass

end RecordDesk.Plan
