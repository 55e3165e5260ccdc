import RecordDesk.Proofs.Record.Key
import RecordDesk.Proofs.Value.Equality
import RecordDesk.Derive.Changes

/-
  Choices that are rows, and the rows behind them. A row is offered by its value column, or by its
  `id` where that is missing or null; it is found by the same value unless the column is there and
  null. So every choice leads back to a row exactly if no row is offered by a null, and what stands
  in for a null is found in some row (`offers_resolve_iff`).
-/

namespace RecordDesk.Lookups

open Record (Finite)

/-! ## Finding rows -/

/-- Some row is found by a value. -/
def Found (rows : List Record) (column : String) (v : Value) : Prop :=
  ∃ row ∈ rows, ∃ w, keyValue? row column = some w ∧ w.agrees v = true

theorem exists_rowFor?_iff {l : Lookups} {table column : String} {v : Value} :
    (∃ row, l.rowFor? table column v = some row) ↔ Found (l.rows table) column v := by
  rw [← Option.isSome_iff_exists, rowFor?, List.find?_isSome]
  simp only [Option.any_eq_true, Found]

theorem key_of_rowFor? {l : Lookups} {table column : String} {v : Value} {row : Record}
    (h : l.rowFor? table column v = some row) :
    ∃ w, keyValue? row column = some w ∧ w.agrees v = true := by
  simpa only [Option.any_eq_true] using List.find?_some h

variable {row : Record} {column display : String}

/-- A row is found by its own value. -/
theorem found_of_key {rows : List Record} (hrow : row ∈ rows) (hfinite : row.Finite) {v : Value}
    (h : keyValue? row column = some v) : Found rows column v := by
  have hlookup : ∃ name, row.lookup name = some v := by
    unfold keyValue? at h
    split at h
    · next hcolumn => exact ⟨column, hcolumn.trans h⟩
    · split at h
      · cases h
      · exact ⟨"id", h⟩
  obtain ⟨name, hname⟩ := hlookup
  refine ⟨row, hrow, v, h, Value.agrees_self fun x hx => hfinite name x ?_⟩
  rw [hname, hx]

/-! ## Rows as choices -/

/-- A row offers its value column. -/
theorem offeredValue?_of_some {v : Value} (h : row.lookup column = some v) (hv : v ≠ .null) :
    offeredValue? row column = some v := by
  unfold offeredValue?
  split
  · next hnull => rw [h] at hnull; exact absurd (Option.some.inj hnull) hv
  · next hnone => rw [h] at hnone; cases hnone
  · next hsome => rw [← hsome, h]

/-- Where there is nothing in the value column, a row offers its `id`. -/
theorem offeredValue?_of_blank (h : row.lookup column = none ∨ row.lookup column = some .null)
    (hid : isIdName column = false) : offeredValue? row column = row.lookup "id" := by
  unfold offeredValue?
  rcases h with h | h <;> rw [h] <;> simp [hid]

/-- A value that a row is found by is one that it is offered by, unless it is null. -/
theorem offeredValue?_of_key {w : Value} (h : keyValue? row column = some w) (hw : w ≠ .null) :
    offeredValue? row column = some w := by
  unfold keyValue? at h
  split at h
  · next hcolumn => exact offeredValue?_of_some (hcolumn.trans h) hw
  · next hcolumn =>
    split at h
    · cases h
    · next hid => rw [offeredValue?_of_blank (.inl hcolumn) (by simpa using hid), h]

/-- What a row is offered by: a value in the column, or the `id` in its place. -/
theorem offeredValue?_cases {v : Value} (h : offeredValue? row column = some v) :
    (row.lookup column = some v ∧ v ≠ .null) ∨
      ((row.lookup column = none ∨ row.lookup column = some .null) ∧
        isIdName column = false ∧ row.lookup "id" = some v) := by
  unfold offeredValue? at h
  split at h
  · next hnull =>
    split at h
    · cases h
    · next hid => exact .inr ⟨.inr hnull, by simpa using hid, h⟩
  · next hnone =>
    split at h
    · cases h
    · next hid => exact .inr ⟨.inl hnone, by simpa using hid, h⟩
  · next w hw hsome =>
    obtain rfl := Option.some.inj h
    exact .inl ⟨hsome, hw⟩

theorem value_of_offerOfRow? {o : Offer} (h : offerOfRow? row column display = some o) :
    offeredValue? row column = some o.value := by
  obtain ⟨v, hv, rfl⟩ := Option.map_eq_some_iff.1 h
  rw [hv]
  split
  · split <;> rfl
  · rfl

theorem exists_offerOfRow? {v : Value} (h : offeredValue? row column = some v) (display : String) :
    ∃ o, offerOfRow? row column display = some o ∧ o.value = v := by
  refine ⟨_, by rw [offerOfRow?, h, Option.map_some], ?_⟩
  split
  · split <;> rfl
  · rfl

/-! ## Resolving choices -/

/-- A choice leads back to a row: its value is not null, and the row that is found for it is itself
a choice, with a value that agrees. Once it is chosen, every autofill over this table and column
copies from the row; an empty text counts as nothing chosen. -/
def Resolves (l : Lookups) (source : ChoiceSource) (table : String) (o : Offer) : Prop :=
  o.value ≠ .null ∧ ∃ row other, l.rowFor? table source.valueColumn o.value = some row ∧
    offerOfRow? row source.valueColumn source.displayColumn = some other ∧
    other.value.agrees o.value = true ∧
    ∀ (s : Selector) (working : Record), s.autofill.sourceTable = table →
      s.autofill.sourceColumn = source.valueColumn → working.lookup s.field = some o.value →
      Value.isBlank (some o.value) = false →
      Plan.filledValues s working l =
        s.autofill.copies.map fun copy => (copy.target, (row.lookup copy.source).getD .null)

theorem ne_null_of_agrees {v w : Value} (h : w.agrees v = true) (hv : v ≠ .null) : w ≠ .null := by
  rintro rfl
  cases v <;> simp [Value.agrees, Value.same, Value.isNull] at h hv

/-- A value leads back to a row as soon as some row is found by it. -/
theorem resolves_iff {l : Lookups} {source : ChoiceSource} {table : String} {o : Offer} :
    l.Resolves source table o ↔
      o.value ≠ .null ∧ Found (l.rows table) source.valueColumn o.value := by
  rw [← exists_rowFor?_iff]
  constructor
  · rintro ⟨hvalue, row, other, hrow, -⟩
    exact ⟨hvalue, row, hrow⟩
  · rintro ⟨hvalue, row, hrow⟩
    obtain ⟨w, hkey, hagrees⟩ := key_of_rowFor? hrow
    have hoffered := offeredValue?_of_key hkey (ne_null_of_agrees hagrees hvalue)
    obtain ⟨other, hother, rfl⟩ := exists_offerOfRow? hoffered source.displayColumn
    refine ⟨hvalue, row, other, hrow, hother, hagrees, fun s working htable hcolumn hs hblank => ?_⟩
    rw [Plan.filledValues, hs]
    simp only [hblank, htable, hcolumn, hrow, Bool.false_eq_true, if_false]

/-- In rows that are offered by a column, the `id` stands in where the column has no value. It is
not null then, and where it stands in for a null it is found in some row. -/
structure Findable (rows : List Record) (column : String) : Prop where
  value : ∀ row ∈ rows, row.lookup column = none ∨ row.lookup column = some .null →
    row.lookup "id" ≠ some .null
  found : ∀ row ∈ rows, row.lookup column = some .null → ∀ v, row.lookup "id" = some v →
    Found rows column v

/-- What a row is offered by is not null and found, for every row, exactly if the rows are offered
by an `id` or what stands in for their column is findable. -/
theorem offered_found_iff {rows : List Record} (hrows : ∀ row ∈ rows, row.Finite)
    (column : String) :
    (∀ row ∈ rows, ∀ v, offeredValue? row column = some v → v ≠ .null ∧ Found rows column v) ↔
      isIdName column = true ∨ Findable rows column := by
  constructor
  · intro h
    by_cases hid : isIdName column = true
    · exact .inl hid
    rw [Bool.not_eq_true] at hid
    refine .inr ⟨fun row hrow hblank hnull => ?_, fun row hrow hnull v hv => ?_⟩
    · exact (h row hrow .null (by rw [offeredValue?_of_blank hblank hid, hnull])).1 rfl
    · exact (h row hrow v (by rw [offeredValue?_of_blank (.inr hnull) hid, hv])).2
  · intro h row hrow v hv
    have hself : keyValue? row column = some v → Found rows column v :=
      found_of_key hrow (hrows row hrow)
    rcases offeredValue?_cases hv with ⟨hcolumn, hvalue⟩ | ⟨hblank, hid, hstands⟩
    · exact ⟨hvalue, hself (by rw [keyValue?, hcolumn])⟩
    · have hfind := h.resolve_left (by rw [hid]; exact Bool.false_ne_true)
      constructor
      · rintro rfl
        exact hfind.value row hrow hblank hstands
      · rcases hblank with hmissing | hnull
        · exact hself (by rw [keyValue?, hmissing, if_neg (by simp [hid]), hstands])
        · exact hfind.found row hrow hnull v hstands

/-- Every choice of a field that offers rows leads back to a row exactly if they are offered by an
`id`, or the `id` that stands in for other columns is not null and is found. -/
theorem offers_resolve_iff {l : Lookups} {f : FormField} {source : ChoiceSource}
    (hsource : f.options = some source) {table : String}
    (htable : source.foreignTable? = some table) (hrows : ∀ row ∈ l.rows table, row.Finite)
    (language default : String) :
    (∀ o ∈ l.offers f language default, l.Resolves source table o) ↔
      isIdName source.valueColumn = true ∨ Findable (l.rows table) source.valueColumn := by
  rw [← offered_found_iff hrows]
  have hoffers : l.offers f language default = (l.rows table).filterMap fun row =>
      offerOfRow? row source.valueColumn source.displayColumn := by
    simp only [offers, hsource, htable]
  -- a choice is a row with a value that it is offered by
  simp only [hoffers, List.mem_filterMap, resolves_iff]
  constructor
  · intro h row hrow v hv
    obtain ⟨o, ho, rfl⟩ := exists_offerOfRow? hv source.displayColumn
    exact h o ⟨row, hrow, ho⟩
  · rintro h o ⟨row, hrow, ho⟩
    exact h row hrow o.value (value_of_offerOfRow? ho)

/-! ## Currencies -/

/-- A field that offers currencies by their codes. -/
def currencyField : FormField :=
  { FormField.default with
    name := "currency", kind := .select
    options := some (.foreignKey "currencies" "code" "name") }

/-- Lookups with these currencies. -/
def ofCurrencies (rows : List Record) : Lookups := empty.insert "currencies" rows

theorem rows_ofCurrencies (rows : List Record) :
    (ofCurrencies rows).rows "currencies" = rows := by
  rw [Lookups.rows, ofCurrencies, insert, Dict.get?_insert, if_pos rfl, Option.getD_some]

/-- A currency with a code, one that has no column of codes, and one whose code is left open and
whose `id` is the code of the first. -/
def currencies : List Record :=
  [.ofList [("id", .int 1), ("CODE", .str "EUR")], .ofList [("ID", .int 2), ("name", .str "Yen")],
    .ofList [("code", .null), ("id", .str "EUR")]]

theorem findable_currencies : Findable currencies "code" := by
  have hid : ∀ row ∈ currencies, (row.lookup "id").all (!·.isNull) = true := by decide +kernel
  have hcode : ∀ row ∈ currencies, (row.lookup "code").all (!·.isNull) = true ∨
      (row.lookup "id").all (fun v => currencies.any fun other =>
        (keyValue? other "code").any (·.agrees v)) = true := by
    decide +kernel
  constructor
  · intro row hrow _ hnull
    have h := hid row hrow
    rw [hnull] at h
    cases h
  · intro row hrow hnull v hv
    have h := (hcode row hrow).resolve_left (by rw [hnull]; decide)
    rw [hv, Option.all_some, List.any_eq_true] at h
    simpa only [Option.any_eq_true, Found] using h

/-- Each of these currencies can be chosen, and leads back to a row. -/
theorem offers_resolve_currencies :
    (∀ row ∈ (ofCurrencies currencies).rows "currencies", row.Finite) ∧
      ((ofCurrencies currencies).offers currencyField "en" "en").length = 3 ∧
      ∀ o ∈ (ofCurrencies currencies).offers currencyField "en" "en",
        (ofCurrencies currencies).Resolves (.foreignKey "currencies" "code" "name")
          "currencies" o := by
  have hrows := rows_ofCurrencies currencies
  have hnumbers : ∀ row ∈ currencies, ∀ entry ∈ row.entries,
      entry.2.number?.all Decimal.isFinite = true := by
    decide +kernel
  have hfinite : ∀ row ∈ (ofCurrencies currencies).rows "currencies", row.Finite :=
    fun row hrow => Record.finite_of_numbers (hnumbers row (hrows ▸ hrow))
  exact ⟨hfinite, by decide +kernel, (offers_resolve_iff rfl rfl hfinite "en" "en").2
    (.inr (hrows.symm ▸ findable_currencies))⟩

/-- A currency whose code is left open. -/
def openCurrency : Record := .ofList [("code", .null), ("id", .int 7)]

/-- It is offered by its `id`, and no row is found for it. -/
theorem not_resolves_openCurrency :
    ∃ o ∈ (ofCurrencies [openCurrency]).offers currencyField "en" "en",
      ¬ (ofCurrencies [openCurrency]).Resolves (.foreignKey "currencies" "code" "name")
        "currencies" o := by
  have hoffer : ∃ o ∈ (ofCurrencies [openCurrency]).offers currencyField "en" "en",
      ((ofCurrencies [openCurrency]).rowFor? "currencies" "code" o.value).isNone = true := by
    decide +kernel
  obtain ⟨o, ho, hnone⟩ := hoffer
  refine ⟨o, ho, ?_⟩
  rintro ⟨-, row, other, hrow, -⟩
  rw [ChoiceSource.foreignKey] at hrow
  rw [Option.isNone_iff_eq_none.1 hnone] at hrow
  cases hrow

end RecordDesk.Lookups
