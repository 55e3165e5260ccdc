import RecordDesk.Document.FormField
import RecordDesk.Document.ListColumn
import RecordDesk.Proofs.Document.Reading

/-
  Form fields and list columns are read as they were of what is written for them.
-/

namespace RecordDesk

theorem InputKind.eq_of_ofName {name other : String} (h : ofName name = .other other) :
    name = other := by
  unfold ofName at h
  split at h <;> first | exact InputKind.other.inj h | cases h

namespace Document

theorem stable_inputKind : Stable inputKind fun kind => .str kind.name := by
  rintro kind ⟨w, h⟩
  obtain ⟨name, -, rfl⟩ := Option.map_eq_some_iff.1 h
  change some (InputKind.ofName (InputKind.ofName name).name) = some (InputKind.ofName name)
  cases hkind : InputKind.ofName name with
  | other other =>
    obtain rfl := InputKind.eq_of_ofName hkind
    exact congrArg some hkind
  | _ => rfl

/-! ## Form fields -/

theorem stable_choice : Stable choice ofChoice := by
  refine settles_object (fun c => [("value", some c.value), ("label", some (ofLocalized c.label))])
    (by decide) (fun _ => rfl) (fun _ => rfl) (fun _ => rfl) ?_
  intro given c h
  split at h
  · simp only [bind_eq_some] at h
    obtain ⟨value, hvalue, label, hlabel, heq⟩ := h
    obtain rfl := Option.some.inj heq
    exact bind_some (required_always stable_any hvalue) <|
      bind_some (orElse_always stable_localized readable_localized hlabel) rfl
  · cases h

theorem stable_choiceSource : Stable choiceSource ofChoiceSource := by
  refine settles_object (fun s => [("type", s.kind.map .str), ("table", s.table.map .str),
      ("valueColumn", some (.str s.valueColumn)), ("displayColumn", some (.str s.displayColumn)),
      ("allowNull", some (.bool s.allowNull)), ("nullLabel", some (ofLocalized s.nullLabel)),
      ("items", filled (s.items.map ofChoice))])
    (by decide) (fun _ => rfl) (fun s => ?_) (fun _ => rfl) ?_
  · simp only [ofChoiceSource, always_eq, nonEmpty_eq, written_cons, written_nil, List.append_assoc,
      List.append_nil]
  intro given c h
  split at h
  · simp only [bind_eq_some] at h
    obtain ⟨kind, hkind, table, htable, valueColumn, hvalueColumn, displayColumn, hdisplayColumn,
      allowNull, hallowNull, nullLabel, hnullLabel, items, hitems, heq⟩ := h
    obtain rfl := Option.some.inj heq
    exact bind_some (optional_given stable_text rfl hkind) <|
      bind_some (optional_given stable_text rfl htable) <|
      bind_some (orElse_always stable_text ⟨.str _, rfl⟩ hvalueColumn) <|
      bind_some (orElse_always stable_text ⟨.str _, rfl⟩ hdisplayColumn) <|
      bind_some (orElse_always stable_flag ⟨.bool _, rfl⟩ hallowNull) <|
      bind_some (orElse_always stable_localized readable_localized hnullLabel) <|
      bind_some (orElse_nonEmpty stable_choice hitems) (by simp)
  · cases h

theorem stable_columnCopy : Stable columnCopy ofColumnCopy := by
  refine settles_object
    (fun c => [("source", some (.str c.source)), ("target", some (.str c.target))])
    (by decide) (fun _ => rfl) (fun _ => rfl) (fun _ => rfl) ?_
  intro given c h
  split at h
  · simp only [bind_eq_some] at h
    obtain ⟨source, hsource, target, htarget, heq⟩ := h
    obtain rfl := Option.some.inj heq
    exact bind_some (required_always stable_text hsource) <|
      bind_some (required_always stable_text htarget) rfl
  · cases h

theorem stable_autofill : Stable autofill ofAutofill := by
  refine settles_object (fun a => [("enabled", some (.bool a.enabled)),
      ("sourceTable", some (.str a.sourceTable)), ("sourceColumn", some (.str a.sourceColumn)),
      ("mappings", some (.arr (a.copies.map ofColumnCopy)))])
    (by decide) (fun _ => rfl) (fun _ => rfl) (fun _ => rfl) ?_
  intro given a h
  split at h
  · simp only [bind_eq_some] at h
    obtain ⟨enabled, henabled, sourceTable, hsourceTable, sourceColumn, hsourceColumn, copies,
      hcopies, heq⟩ := h
    obtain rfl := Option.some.inj heq
    exact bind_some (orElse_always stable_flag ⟨.bool _, rfl⟩ henabled) <|
      bind_some (required_always stable_text hsourceTable) <|
      bind_some (orElse_always stable_text ⟨.str _, rfl⟩ hsourceColumn) <|
      bind_some (orElse_always (stable_list stable_columnCopy) readable_nil hcopies) rfl
  · cases h

theorem stable_calculation : Stable calculation ofCalculation := by
  refine settles_object (fun c => [("enabled", some (.bool c.enabled)),
      ("formula", some (.str c.formula)), ("targetField", c.target.map .str),
      ("triggerFields", filled (texts c.triggers))])
    (by decide) (fun _ => rfl) (fun c => ?_) (fun _ => rfl) ?_
  · simp only [ofCalculation, always_eq, nonEmpty_eq, written_cons, written_nil, List.append_assoc,
      List.append_nil]
  intro given c h
  split at h
  · simp only [bind_eq_some] at h
    obtain ⟨enabled, henabled, formula, hformula, target, htarget, triggers, htriggers, heq⟩ := h
    obtain rfl := Option.some.inj heq
    exact bind_some (orElse_always stable_flag ⟨.bool _, rfl⟩ henabled) <|
      bind_some (required_always stable_text hformula) <|
      bind_some (optional_given stable_text rfl htarget) <|
      bind_some (orElse_nonEmpty stable_text htriggers) (by simp)
  · cases h

theorem stable_uiHints : Stable uiHints ofUiHints := by
  refine settles_object (fun u => [("hidden", some (.bool u.hidden)),
      ("readonly", some (.bool u.readonly)), ("inputType", u.inputType.map .str)])
    (by decide) (fun _ => rfl) (fun u => ?_) (fun _ => rfl) ?_
  · simp only [ofUiHints, always_eq, written_cons, written_nil, List.append_assoc,
      List.append_nil]
  intro given u h
  split at h
  · simp only [bind_eq_some] at h
    obtain ⟨hidden, hhidden, readonly, hreadonly, inputType, hinputType, heq⟩ := h
    obtain rfl := Option.some.inj heq
    exact bind_some (orElse_always stable_flag ⟨.bool _, rfl⟩ hhidden) <|
      bind_some (orElse_always stable_flag ⟨.bool _, rfl⟩ hreadonly) <|
      bind_some (optional_given stable_text rfl hinputType) (by simp)
  · cases h

theorem stable_formField : Stable formField ofFormField := by
  refine settles_object (fun f => [("name", some (.str f.name)), ("type", some (.str f.kind.name)),
      ("label", some (ofLocalized f.label)), ("placeholder", some (ofLocalized f.placeholder)),
      ("required", some (.bool f.required)), ("readonly", some (.bool f.readonly)),
      ("disabled", some (.bool f.disabled)),
      ("hidden", if f.hidden then some (.bool true) else none), ("min", f.min.map .float),
      ("max", f.max.map .float), ("step", f.step.map .float),
      ("minLength", f.minLength.map ofNat), ("maxLength", f.maxLength.map ofNat),
      ("rows", f.rows.map ofNat), ("defaultValue", f.defaultValue),
      ("options", f.options.map ofChoiceSource), ("validation", f.validation),
      ("ui", f.ui.map ofUiHints), ("autofill", f.autofill.map ofAutofill),
      ("autoCalculate", f.calculation.map ofCalculation)])
    (by decide) (fun _ => rfl) (fun f => ?_) (fun _ => rfl) ?_
  · simp only [ofFormField, always_eq, written_cons, written_nil, List.append_assoc,
      List.append_nil]
  intro given f h
  split at h
  · simp only [bind_eq_some] at h
    obtain ⟨name, hname, kind, hkind, label, hlabel, placeholder, hplaceholder, required, hrequired,
      readonly, hreadonly, disabled, hdisabled, hidden, hhidden, min, hmin, max, hmax, step, hstep,
      minLength, hminLength, maxLength, hmaxLength, rows, hrows, defaultValue, hdefaultValue,
      options, hoptions, validation, hvalidation, ui, hui, autofill, hautofill, calculation,
      hcalculation, heq⟩ := h
    obtain rfl := Option.some.inj heq
    exact bind_some (orElse_always stable_text ⟨.str _, rfl⟩ hname) <|
      bind_some (orElse_always stable_inputKind ⟨.str "text", rfl⟩ hkind) <|
      bind_some (orElse_always stable_localized readable_localized hlabel) <|
      bind_some (orElse_always stable_localized readable_localized hplaceholder) <|
      bind_some (orElse_always stable_flag ⟨.bool _, rfl⟩ hrequired) <|
      bind_some (orElse_always stable_flag ⟨.bool _, rfl⟩ hreadonly) <|
      bind_some (orElse_always stable_flag ⟨.bool _, rfl⟩ hdisabled) <|
      bind_some (orElse_set hidden) <|
      bind_some (optional_given stable_double rfl hmin) <|
      bind_some (optional_given stable_double rfl hmax) <|
      bind_some (optional_given stable_double rfl hstep) <|
      bind_some (optional_given (stable_natBelow _) rfl hminLength) <|
      bind_some (optional_given (stable_natBelow _) rfl hmaxLength) <|
      bind_some (optional_given (stable_natBelow _) rfl hrows) <|
      bind_some (optional_any hdefaultValue) <|
      bind_some (optional_given stable_choiceSource rfl hoptions) <|
      bind_some (optional_any hvalidation) <|
      bind_some (optional_given stable_uiHints rfl hui) <|
      bind_some (optional_given stable_autofill rfl hautofill) <|
      bind_some (optional_given stable_calculation rfl hcalculation) (by simp)
  · cases h

/-! ## List columns -/

theorem stable_cellFormat : Stable cellFormat fun format => .str format.name := by
  rintro format -
  cases format <;> rfl

theorem stable_foreignDisplay : Stable foreignDisplay ofForeignDisplay := by
  refine settles_object (fun d => [("table", some (.str d.table)),
      ("displayColumn", some (.str d.displayColumn)), ("valueColumn", some (.str d.valueColumn))])
    (by decide) (fun _ => rfl) (fun _ => rfl) (fun _ => rfl) ?_
  intro given d h
  split at h
  · simp only [bind_eq_some] at h
    obtain ⟨table, htable, displayColumn, hdisplayColumn, valueColumn, hvalueColumn, heq⟩ := h
    obtain rfl := Option.some.inj heq
    exact bind_some (required_always stable_text htable) <|
      bind_some (orElse_always stable_text ⟨.str _, rfl⟩ hdisplayColumn) <|
      bind_some (orElse_always stable_text ⟨.str _, rfl⟩ hvalueColumn) rfl
  · cases h

theorem stable_listColumn : Stable listColumn ofListColumn := by
  refine settles_object (fun c => [("name", some (.str c.name)),
      ("label", some (ofLocalized c.label)), ("type", some (.str c.sqlType)),
      ("sortable", some (.bool c.sortable)), ("searchable", some (.bool c.searchable)),
      ("width", some (.str c.width)), ("align", some (.str c.align)),
      ("format", c.format.map fun f => .str f.name),
      ("decimalPlaces", c.decimalPlaces.map fun n : Nat => .int n),
      ("foreignKey", c.foreignKey.map ofForeignDisplay)])
    (by decide) (fun _ => rfl) (fun c => ?_) (fun _ => rfl) ?_
  · simp only [ofListColumn, always_eq, written_cons, written_nil, List.append_assoc,
      List.append_nil]
  intro given c h
  split at h
  · simp only [bind_eq_some] at h
    obtain ⟨name, hname, label, hlabel, sqlType, hsqlType, sortable, hsortable, searchable,
      hsearchable, width, hwidth, align, halign, format, hformat, places, hplaces, foreign,
      hforeign, heq⟩ := h
    obtain rfl := Option.some.inj heq
    exact bind_some (orElse_always stable_text ⟨.str _, rfl⟩ hname) <|
      bind_some (orElse_always stable_localized readable_localized hlabel) <|
      bind_some (orElse_always stable_text ⟨.str _, rfl⟩ hsqlType) <|
      bind_some (orElse_always stable_flag ⟨.bool _, rfl⟩ hsortable) <|
      bind_some (orElse_always stable_flag ⟨.bool _, rfl⟩ hsearchable) <|
      bind_some (orElse_always stable_text ⟨.str _, rfl⟩ hwidth) <|
      bind_some (orElse_always stable_text ⟨.str _, rfl⟩ halign) <|
      bind_some (optional_given stable_cellFormat rfl hformat) <|
      bind_some (optional_given (stable_natBelow _) rfl hplaces) <|
      bind_some (optional_given stable_foreignDisplay rfl hforeign) (by simp)
  · cases h

end Document

end RecordDesk
