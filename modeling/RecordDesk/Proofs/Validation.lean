import RecordDesk.Proofs.Steps
import RecordDesk.Validation

/-
  What a validator is made of and what it reads. Nothing but a bad pattern keeps one from being made
  (`make_error`, `exists_make_iff`), and a report depends on the fields that have rules and on
  nothing else (`check_congr`).
-/

namespace RecordDesk.Validator

/-! ## Making one -/

/-- What keeps a validator from being made is a pattern. -/
theorem make_error {table : Table} {rules : Option TableRules} {messages : Catalog} {e : Error}
    (h : make table rules messages = .error e) : ∃ message, e = .config message := by
  rcases bind_eq_error.1 h with h | ⟨_, -, h⟩
  · refine foldlM_error (motive := fun e => ∃ message, e = .config message) ?_ h
    intro patterns entry e h
    refine foldlM_error (motive := fun e => ∃ message, e = .config message) ?_ h
    intro patterns r e h
    unfold addPattern at h
    split at h
    · split at h
      · cases h
      · split at h
        · cases h
        · exact ⟨_, (Except.error.inj h).symm⟩
    · cases h
  · cases h

/-- The pattern of the rule, if it has one, can be read. -/
def HasPattern (r : Rule) : Prop :=
  r.kind = .pattern → ∀ text ∈ r.patternText?, (Pattern.parse? (Pattern.expand text)).isSome = true

theorem exists_addPattern_iff {table : Table} {field : String} {patterns : Dict Pattern.Node}
    {r : Rule} : (∃ after, addPattern table field patterns r = .ok after) ↔ HasPattern r := by
  unfold addPattern HasPattern
  by_cases hkind : r.kind = .pattern
  · rw [if_pos hkind]
    cases htext : r.patternText? with
    | none => simp
    | some text =>
      simp only [hkind, Option.mem_def, Option.some.injEq, forall_const, forall_eq']
      cases hnode : Pattern.parse? (Pattern.expand text) <;> simp
  · simp [hkind]

/-- A validator can be made exactly if every pattern can be read. -/
theorem exists_make_iff {table : Table} {rules : Option TableRules} {messages : Catalog} :
    (∃ v, make table rules messages = .ok v) ↔
      ∀ entry ∈ ruledFields rules, ∀ r ∈ entry.2.rules, HasPattern r := by
  have hfields :
      (∃ patterns, (ruledFields rules).foldlM (addPatterns table) .empty = .ok patterns) ↔
      ∀ entry ∈ ruledFields rules, ∀ r ∈ entry.2.rules, HasPattern r := by
    refine exists_foldlM_iff (fun patterns entry _ => ?_) _
    have hstep : ∀ patterns, ∀ r ∈ entry.2.rules,
        (∃ after, addPattern table entry.1 patterns r = .ok after) ↔ HasPattern r :=
      fun _ _ _ => exists_addPattern_iff
    exact exists_foldlM_iff hstep patterns
  rw [← hfields]
  constructor
  · rintro ⟨v, h⟩
    obtain ⟨patterns, hpatterns, -⟩ := bind_eq_ok.1 h
    exact ⟨patterns, hpatterns⟩
  · rintro ⟨patterns, hpatterns⟩
    exact ⟨_, bind_eq_ok.2 ⟨patterns, hpatterns, rfl⟩⟩

theorem rules_of_make {table : Table} {rules : Option TableRules} {messages : Catalog}
    {v : Validator} (h : make table rules messages = .ok v) : v.rules = rules := by
  obtain ⟨patterns, -, h⟩ := bind_eq_ok.1 h
  obtain rfl := Except.ok.inj h
  rfl

/-! ## Reading a record -/

variable {v : Validator} {r s : Record}

theorem checkField_congr {field : String} (h : r.lookup field = s.lookup field) (mode : FormMode) :
    v.checkField field r mode = v.checkField field s mode := by
  simp only [checkField, h]

/-- Only fields that have rules are checked. -/
theorem mem_ruledFields {field : String} (h : field ∈ v.fieldOrder) :
    field ∈ (ruledFields v.rules).map Prod.fst := by
  rcases List.mem_append.1 h with h | h
  · simpa using (List.mem_filter.1 h).2
  · exact (List.mem_filter.1 h).1

/-- Records that read alike on the fields that have rules have the same violations. -/
theorem check_congr (h : ∀ field ∈ (ruledFields v.rules).map Prod.fst,
    r.lookup field = s.lookup field) (mode : FormMode) : v.check r mode = v.check s mode := by
  have hfields : v.fieldOrder.map (v.checkField · r mode) =
      v.fieldOrder.map (v.checkField · s mode) :=
    List.map_congr_left fun field hfield => checkField_congr (h field (mem_ruledFields hfield)) mode
  simp only [check, List.flatMap, hfields]

end RecordDesk.Validator
