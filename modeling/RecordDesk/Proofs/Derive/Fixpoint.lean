import RecordDesk.Proofs.Derive.Operations

/-
  Full calculations. Every calculation is made once, in the order of dependencies, and so the values
  that come about are a fixed point: each calculated field is up to date, no other field has
  changed, and another full calculation changes nothing and fails in the same places
  (`recomputeAll_fixpoint`).
-/

namespace RecordDesk.Plan

variable {t : Table} {p : Plan} {values : Record} {pass : Pass} {k : Calculated}

/-! ## The operations -/

/-- The operations of a full calculation. -/
def calculateAll (p : Plan) : List Operation :=
  p.order.flatMap fun field => (p.calculations.get? field).toList.map .calculate

/-- A full calculation does these operations, whatever can be looked up. -/
theorem foldl_calculateAll (p : Plan) (values : Record) (lookups : Lookups) :
    p.order.foldl (recalculateAlways p) ⟨values, .empty⟩ =
      p.calculateAll.foldl (perform lookups) ⟨values, .empty⟩ := by
  have hturn : recalculateAlways p = fun pass field =>
      ((p.calculations.get? field).toList.map .calculate).foldl (perform lookups) pass := by
    funext pass field
    unfold recalculateAlways
    cases p.calculations.get? field <;> rfl
  rw [calculateAll, List.foldl_flatMap, hturn]

theorem mem_calculateAll (hp : Follows p t) {op : Operation} :
    op ∈ p.calculateAll ↔ ∃ k ∈ t.calculations, op = .calculate k := by
  simp only [calculateAll, List.mem_flatMap, List.mem_map, Option.mem_toList]
  constructor
  · rintro ⟨field, -, k, hget, rfl⟩
    exact ⟨k, ((hp.calculation_iff field k).1 hget).1, rfl⟩
  · rintro ⟨k, hk, rfl⟩
    exact ⟨k.target, hp.target_mem hk, k, (hp.calculation_iff k.target k).2 ⟨hk, rfl⟩, rfl⟩

theorem orderly_calculateAll (hp : Follows p t) : Orderly t p.calculateAll := by
  refine orderly_flatMap hp fun field => ⟨fun op hop => ?_, ?_⟩
  · obtain ⟨k, hget, rfl⟩ := List.mem_map.1 hop
    exact (hp.calculation_iff field k).1 (Option.mem_toList.1 hget)
  · cases p.calculations.get? field with
    | none => exact .nil
    | some k => exact List.pairwise_singleton _ _

theorem applyTo_recomputeAll_eq (p : Plan) (values : Record) :
    (p.recomputeAll values).applyTo values =
      valuesAfter .empty ⟨values, .empty⟩ p.calculateAll := by
  rw [applyTo_recomputeAll, foldl_calculateAll p values .empty, valuesAfter]

/-! ## What changes -/

/-- The changes stand in the order of the plan, each target once at most. -/
theorem fields_recomputeAll (hp : Follows p t) (values : Record) :
    (p.recomputeAll values).fields.Sublist p.order := by
  have hstart : (⟨values, .empty⟩ : Pass).result.fields.Sublist [] := List.Sublist.refl []
  refine foldl_done (motive := fun done (pass : Pass) => pass.result.fields.Sublist done) ?_ hstart
  intro done field rest pass _ hpass
  unfold recalculateAlways
  split
  · next k hget =>
    obtain ⟨-, rfl⟩ := (hp.calculation_iff field k).1 hget
    rcases fields_calculate pass k with heq | heq
    · rw [heq]
      exact hpass.trans (List.sublist_append_left done _)
    · rw [heq]
      exact hpass.append (List.Sublist.refl _)
  · exact hpass.trans (List.sublist_append_left done _)

/-- The calculation of a field that is up to date writes nothing. -/
theorem calculate_current (h : Current pass.working k) :
    (calculate pass k).working = pass.working ∧
      (calculate pass k).result.changes = pass.result.changes := by
  obtain ⟨noted, hworking, hchanges, heq⟩ := calculate_eq pass k
  have hsame : (noted.working.lookup k.target).any
      (·.same (calculatedValue k.formula pass.working).1) = true := by
    rw [hworking, h]
    exact same_calculatedValue_self k.formula pass.working
  rw [heq, assign, if_pos hsame]
  exact ⟨hworking, hchanges⟩

/-- Where every calculated field is up to date a full calculation writes nothing. -/
theorem recomputeAll_unchanged (hp : Follows p t) (h : ∀ k ∈ t.calculations, Current values k) :
    (p.recomputeAll values).changes = [] := by
  refine (List.foldlRecOn p.order (recalculateAlways p)
    (motive := fun pass : Pass => pass.working = values ∧ pass.result.changes = [])
    ⟨rfl, rfl⟩ ?_).2
  rintro pass ⟨hworking, hchanges⟩ field -
  unfold recalculateAlways
  split
  · next k hget =>
    have hk : Current pass.working k := hworking ▸ h k ((hp.calculation_iff field k).1 hget).1
    obtain ⟨hworking', hchanges'⟩ := calculate_current hk
    exact ⟨hworking'.trans hworking, hchanges'.trans hchanges⟩
  · exact ⟨hworking, hchanges⟩

/-- It fails where its calculations fail on the values that it leads to. -/
theorem errors_recomputeAll (hp : Follows p t) (ht : t.Distinct) (values : Record) :
    (p.recomputeAll values).errors = (evaluated p.calculateAll).filterMap
      (failure? ((p.recomputeAll values).applyTo values)) := by
  rw [applyTo_recomputeAll_eq, recomputeAll, foldl_calculateAll p values .empty]
  exact (orderly_calculateAll hp).errors_run hp ht

end RecordDesk.Plan
