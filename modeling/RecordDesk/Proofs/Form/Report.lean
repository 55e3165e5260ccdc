import RecordDesk.Form.Widget
import RecordDesk.Proofs.Dict
import RecordDesk.Proofs.Validation

/-
  A report on a record against the checks of its fields. The fields with rules are checked once
  each, those of the form in its order and the others by name (`pairwise_fieldOrder`,
  `mem_fieldOrder`), so a report says of a field what its own check says (`ofField_check`). What is
  checked can be filled in (`shown_of_not_skips`). Together: `check_agrees`.
-/

namespace RecordDesk

/-- The names of the form fields, in the order of the form. -/
def Table.fieldNames (t : Table) : List String := t.formFields.map (·.name)

/-- A report on records of the table comes to the first field before the second. -/
inductive Table.Precedes (t : Table) : String → String → Prop
  | inForm {a b : String} (h : [a, b].Sublist t.fieldNames) : Precedes t a b
  | formFirst {a b : String} (ha : a ∈ t.fieldNames) (hb : b ∉ t.fieldNames) : Precedes t a b
  | byName {a b : String} (ha : a ∉ t.fieldNames) (hb : b ∉ t.fieldNames) (h : a < b) :
      Precedes t a b

/-- No field comes before itself. -/
theorem Table.Precedes.ne {t : Table} (hnodup : t.fieldNames.Nodup) {a b : String}
    (h : t.Precedes a b) : a ≠ b := by
  rintro rfl
  cases h with
  | inForm h => simpa using h.nodup hnodup
  | formFirst ha hb => exact hb ha
  | byName _ _ h => exact String.lt_irrefl a h

namespace Validator

variable {v : Validator} {values : Record} {mode : FormMode} {field : String}

/-! ## The order of the fields -/

theorem mem_ruled_iff :
    field ∈ (ruledFields v.rules).map Prod.fst ↔ ∃ rules, v.rulesOf? field = some rules := by
  unfold ruledFields rulesOf?
  cases v.rules with
  | none => simp
  | some r => exact Dict.exists_get?.symm

/-- Every field with rules is checked, and no other one. -/
theorem mem_fieldOrder : field ∈ v.fieldOrder ↔ ∃ rules, v.rulesOf? field = some rules := by
  rw [← mem_ruled_iff]
  refine ⟨mem_ruledFields, fun h => ?_⟩
  simp only [fieldOrder, List.mem_append, List.mem_filter, decide_eq_true_eq]
  by_cases hform : field ∈ v.table.formFields.map (·.name)
  · exact .inl ⟨hform, h⟩
  · exact .inr ⟨h, fun hin => hform hin.1⟩

theorem sorted_ruledFields (rules : Option TableRules) :
    ((ruledFields rules).map Prod.fst).Pairwise (· < ·) := by
  cases rules with
  | none => exact .nil
  | some r => exact List.pairwise_map.2 r.fields.sorted

theorem pairwise_fieldOrder (v : Validator) : v.fieldOrder.Pairwise v.table.Precedes := by
  have hother : ∀ {name}, name ∈ (ruledFields v.rules).map Prod.fst →
      name ∉ (v.table.formFields.map (·.name)).filter
        (· ∈ (ruledFields v.rules).map Prod.fst) → name ∉ v.table.fieldNames := by
    intro name hruled hnot hform
    exact hnot (List.mem_filter.2 ⟨hform, by simpa using hruled⟩)
  refine List.pairwise_append.2 ⟨?_, ?_, ?_⟩
  · refine List.pairwise_iff_forall_sublist.2 fun h => ?_
    exact .inForm (h.trans List.filter_sublist)
  · refine List.Pairwise.imp_of_mem ?_ ((sorted_ruledFields v.rules).filter _)
    intro a b ha hb hlt
    obtain ⟨ha, hanot⟩ := List.mem_filter.1 ha
    obtain ⟨hb, hbnot⟩ := List.mem_filter.1 hb
    exact .byName (hother ha (by simpa using hanot)) (hother hb (by simpa using hbnot)) hlt
  · intro a ha b hb
    obtain ⟨hb, hbnot⟩ := List.mem_filter.1 hb
    exact .formFirst (List.mem_filter.1 ha).1 (hother hb (by simpa using hbnot))

theorem nodup_fieldOrder (hnodup : v.table.fieldNames.Nodup) : v.fieldOrder.Nodup :=
  (pairwise_fieldOrder v).imp fun h => h.ne hnodup

/-! ## One field of a report -/

theorem checkField_of_none (h : v.rulesOf? field = none) : v.checkField field values mode = [] := by
  simp only [checkField, h]

theorem field_of_mem_checkField {w : Violation} (h : w ∈ v.checkField field values mode) :
    w.field = field := by
  unfold checkField at h
  split at h
  · cases h
  · split at h
    · cases h
    · obtain ⟨r, -, rfl⟩ := List.mem_map.1 h
      rfl

theorem skips_of_mem_checkField {w : Violation} (h : w ∈ v.checkField field values mode) :
    v.skips field mode = false := by
  unfold checkField at h
  split at h
  · cases h
  · split at h
    · cases h
    · next hskips => exact Bool.eq_false_iff.2 hskips

/-- A part that only one item gives is given once if the item stands there once. -/
theorem flatMap_only {items : List String} (hnodup : items.Nodup) (a : String)
    (part : List Violation) :
    (items.flatMap fun item => if item = a then part else []) = if a ∈ items then part else [] := by
  induction items with
  | nil => rfl
  | cons item rest ih =>
    obtain ⟨hitem, hrest⟩ := List.nodup_cons.1 hnodup
    rw [List.flatMap_cons, ih hrest]
    by_cases h : item = a
    · subst h
      simp [hitem]
    · simp [h, Ne.symm h]

/-- The violations of a field are those that its own check finds. -/
theorem ofField_check (hnodup : v.table.fieldNames.Nodup) (field : String) :
    (v.check values mode).ofField field = v.checkField field values mode := by
  have hfilter : ∀ name, (v.checkField name values mode).filter (·.field == field) =
      if name = field then v.checkField field values mode else [] := by
    intro name
    split
    · next heq =>
      rw [heq]
      exact List.filter_eq_self.2 fun w hw => beq_iff_eq.2 (field_of_mem_checkField hw)
    · next hne =>
      refine List.filter_eq_nil_iff.2 fun w hw heq => hne ?_
      exact (field_of_mem_checkField hw).symm.trans (beq_iff_eq.1 heq)
  rw [Report.ofField, check, List.filter_flatMap]
  simp only [hfilter]
  rw [flatMap_only (nodup_fieldOrder hnodup)]
  split
  · rfl
  · next hnot =>
    refine (checkField_of_none ?_).symm
    rw [Option.eq_none_iff_forall_ne_some]
    exact fun rules hrules => hnot (mem_fieldOrder.2 ⟨rules, hrules⟩)

theorem isValid_check_iff : (v.check values mode).isValid = true ↔
    ∀ field rules, v.rulesOf? field = some rules → v.checkField field values mode = [] := by
  rw [Report.isValid, check, List.isEmpty_iff, List.flatMap_eq_nil_iff]
  constructor
  · exact fun h field rules hrules => h field (mem_fieldOrder.2 ⟨rules, hrules⟩)
  · intro h field hfield
    obtain ⟨rules, hrules⟩ := mem_fieldOrder.1 hfield
    exact h field rules hrules

/-! ## What is checked can be seen -/

theorem formField?_of_mem {t : Table} (hnodup : t.fieldNames.Nodup) {f : FormField}
    (hf : f ∈ t.formFields) : t.formField? f.name = some f :=
  Dict.find?_of_nodup hnodup hf

/-- A form field that is checked is shown, and can be filled in where it is a new record's. -/
theorem shown_of_not_skips (hnodup : v.table.fieldNames.Nodup) {f : FormField}
    (hf : f ∈ v.table.formFields) (h : v.skips f.name mode = false) :
    f.isShown mode = true ∧ (mode = .create → f.readonly = false ∧ f.isUiReadonly = false) := by
  simp only [skips, formField?_of_mem hnodup hf, Bool.or_eq_false_iff] at h
  obtain ⟨hid, hhidden, hreadonly⟩ := h
  constructor
  · rw [FormField.isShown, FormField.isId, hid, hhidden]
    rfl
  · rintro rfl
    simpa using hreadonly

/-- In a table whose form fields have distinct names, a report on a record is made of the checks of
the fields with rules, each once, those of the form in its order and then the others by name. What
it says of a field is what the check of the field says, and it is valid exactly if no check of a
field with rules finds anything. A form field that it blames is shown, whatever the lookups and the
language, and in a new record it is not read-only. -/
theorem check_agrees (v : Validator) (values : Record) (mode : FormMode)
    (hnodup : v.table.fieldNames.Nodup) :
    (∃ order : List String, order.Nodup ∧ order.Pairwise v.table.Precedes ∧
      (∀ field, field ∈ order ↔ ∃ rules, v.rulesOf? field = some rules) ∧
      (v.check values mode).violations = order.flatMap fun field =>
        v.checkField field values mode) ∧
    (∀ field, (v.check values mode).ofField field = v.checkField field values mode) ∧
    ((v.check values mode).isValid = true ↔
      ∀ field rules, v.rulesOf? field = some rules → v.checkField field values mode = []) ∧
    ∀ w ∈ (v.check values mode).violations, ∀ f ∈ v.table.formFields, f.name = w.field →
      (∀ lookups language default,
        ∃ widget, f.widget? values mode lookups language default = some widget) ∧
      (mode = .create → f.readonly = false ∧ f.isUiReadonly = false) := by
  refine ⟨⟨v.fieldOrder, nodup_fieldOrder hnodup, pairwise_fieldOrder v, fun _ => mem_fieldOrder,
    rfl⟩, ofField_check hnodup, isValid_check_iff, fun w hw f hf hname => ?_⟩
  obtain ⟨field, -, hw⟩ := List.mem_flatMap.1 hw
  obtain rfl : f.name = field := hname.trans (field_of_mem_checkField hw)
  obtain ⟨hshown, hfilled⟩ := shown_of_not_skips hnodup hf (skips_of_mem_checkField hw)
  refine ⟨fun lookups language default => ?_, hfilled⟩
  rw [FormField.widget?, if_pos hshown]
  exact ⟨_, rfl⟩

/-- Orders of which everything must be given, also what is no field of the form. -/
def orderValidator : Validator :=
  let field (name : String) : FormField := { FormField.default with name }
  let required (name : String) : String × FieldRules :=
    (name, ⟨name, [⟨.required, none, ""⟩], false⟩)
  { table := { Table.default with
      name := "orders"
      formFields := [field "id", field "customer", { field "stamp" with hidden := true },
        { field "total" with readonly := true }, field "count"] }
    rules := some ⟨"orders", .ofList (["approval", "count", "customer", "id", "stamp", "total",
      "zone"].map required), []⟩
    messages := .empty
    patterns := .empty }

theorem check_agrees_orders :
    orderValidator.table.fieldNames.Nodup ∧
      (orderValidator.check .empty .create).violations.map (·.field) =
        ["customer", "count", "approval", "zone"] ∧
      ∀ field, (orderValidator.check .empty .create).ofField field =
        orderValidator.checkField field .empty .create := by
  have hnodup : orderValidator.table.fieldNames.Nodup := by decide
  exact ⟨hnodup, by decide +kernel, (check_agrees orderValidator .empty .create hnodup).2.1⟩

end Validator

end RecordDesk
