import RecordDesk.Proofs.Schema.Columns

/-
  Labels in generated catalogs and on generated screens. The message of a label goes by the place
  that it is for: the name of a table, or that of a column below it. Names with dots can make one
  place of two, and then the last table in the order of names has the label. So a catalog always
  has the label of a table, and it has the label that the screens show for a column exactly if the
  place is left to the column and its label does not fall back to its name, or the name is its own
  title (`alike_iff`).
-/

namespace RecordDesk.Schema

/-! ## Places -/

/-- The key of the label of a place. -/
def labelKey (place : String) : String := "table." ++ place ++ ".label"

/-- The place of a column. -/
def columnPlace (table column : String) : String := table ++ ".column." ++ column

theorem labelKey_inj {place other : String} : labelKey place = labelKey other ↔ place = other := by
  rw [labelKey, labelKey, String.append_left_inj, String.append_right_inj]

theorem labelKey_ne_description (place name : String) :
    labelKey place ≠ "table." ++ name ++ ".description" := by
  intro h
  have hlast := congrArg (·.toList.getLast?) h
  simp [labelKey, List.getLast?_cons, List.getLast?_append] at hlast

theorem columnPlace_inj {table column other : String} :
    columnPlace table column = columnPlace table other ↔ column = other :=
  String.append_right_inj _

/-- The place of a column comes after that of its table. -/
theorem lt_columnPlace (table column : String) : table < columnPlace table column := by
  rw [String.lt_iff]
  have hlt : table.toList ++ [] < table.toList ++ '.' :: ("column.".toList ++ column.toList) :=
    List.append_left_lt (List.nil_lt_cons _ _)
  simpa [columnPlace] using hlt

/-! ## Labels -/

variable {language default place text : String} {entry : String × Table}

/-- A table has a label for a place: its own for its name, those of its columns for the places
below. -/
def Labels (language default : String) (entry : String × Table) (place text : String) : Prop :=
  place = entry.1 ∧ text = entry.2.label language default ∨
    ∃ c ∈ entry.2.columns, place = columnPlace entry.1 c.name ∧
      text = (c.labels.resolve? language default).getD (Text.titleCase c.name)

theorem mem_tableMessages_iff :
    (labelKey place, text) ∈ tableMessages language default entry ↔
      Labels language default entry place text := by
  have hown : "table." ++ entry.1 ++ ".label" = labelKey entry.1 := rfl
  have hcolumn : ∀ c : SchemaColumn,
      "table." ++ entry.1 ++ ".column." ++ c.name ++ ".label" =
        labelKey (columnPlace entry.1 c.name) := fun c => by
    simp only [labelKey, columnPlace, String.append_assoc]
  simp only [tableMessages, hown, hcolumn, List.mem_append, List.mem_cons, Option.mem_toList,
    Option.map_eq_some_iff, List.mem_map, Prod.mk.injEq, labelKey_inj, Labels]
  constructor
  · rintro ((hself | ⟨_, -, hkey, -⟩) | ⟨c, hc, hplace, htext⟩)
    · exact .inl hself
    · exact absurd hkey.symm (labelKey_ne_description _ _)
    · exact .inr ⟨c, hc, hplace.symm, htext.symm⟩
  · rintro (hself | ⟨c, hc, hplace, htext⟩)
    · exact .inl (.inl hself)
    · exact .inr ⟨c, hc, hplace.symm, htext.symm⟩

/-- A table whose columns have distinct names has one label for a place. -/
theorem Labels.unique (h : Labels language default entry place text)
    (hnodup : (entry.2.columns.map (·.name)).Nodup) {other : String}
    (h' : Labels language default entry place other) : other = text := by
  rcases h with ⟨hplace, htext⟩ | ⟨c, hc, hplace, htext⟩ <;>
    rcases h' with ⟨hplace', hother⟩ | ⟨c', hc', hplace', hother⟩
  · rw [htext, hother]
  · have hlt := lt_columnPlace entry.1 c'.name
    rw [← hplace', hplace] at hlt
    exact absurd hlt (String.lt_irrefl _)
  · have hlt := lt_columnPlace entry.1 c.name
    rw [← hplace, hplace'] at hlt
    exact absurd hlt (String.lt_irrefl _)
  · have hname : c'.name = c.name := columnPlace_inj.1 (hplace'.symm.trans hplace)
    rw [htext, hother, List.inj_on_of_nodup_map hnodup hc' hc hname]

/-- What a table has labels for does not come before its name. -/
theorem Labels.not_lt (h : Labels language default entry place text) : ¬place < entry.1 := by
  rcases h with ⟨rfl, -⟩ | ⟨c, -, rfl, -⟩
  · exact String.lt_irrefl _
  · exact String.lt_asymm (lt_columnPlace entry.1 c.name)

/-! ## Generated labels -/

variable {s : Schema} {time : String} {g : Generated}

/-- Of the tables with a label for a place it is the last in the order of names. -/
structure Settles (g : Generated) (language place : String) (owner : String × Table)
    (text : String) : Prop where
  mem : owner ∈ g.tables.tables.entries
  labels : Labels language g.tables.project.defaultLanguage owner place text
  last : ∀ later ∈ g.tables.tables.entries, owner.1 < later.1 → ∀ other,
    ¬Labels language g.tables.project.defaultLanguage later place other

theorem exists_settles (hentry : entry ∈ g.tables.tables.entries)
    (h : Labels language g.tables.project.defaultLanguage entry place text) :
    ∃ owner text, Settles g language place owner text := by
  obtain ⟨owner, hmem, ⟨text, htext⟩, hlast⟩ := Dict.exists_last (p := fun entry =>
    ∃ text, Labels language g.tables.project.defaultLanguage entry place text)
    ⟨entry, hentry, text, h⟩
  exact ⟨owner, text, hmem, htext, fun later hlater hlt other hother =>
    hlast later hlater hlt ⟨other, hother⟩⟩

/-- A table has the last word on its own name: those after it have labels for later places only. -/
theorem settles_name (hentry : entry ∈ g.tables.tables.entries) (language : String) :
    Settles g language entry.1 entry
      (entry.2.label language g.tables.project.defaultLanguage) where
  mem := hentry
  labels := .inl ⟨rfl, rfl⟩
  last _ _ hlt _ hlabels := hlabels.not_lt hlt

/-- The columns of a generated table have distinct names. -/
theorem nodup_columns (h : s.generate time = .ok g) (hentry : entry ∈ g.tables.tables.entries) :
    (entry.2.columns.map (·.name)).Nodup := by
  obtain ⟨t, columns, hdefinition, hnodup⟩ := definition_of_generate h hentry
  rw [hdefinition, definition, List.map_map]
  exact hnodup

/-- A catalog has the label that the last table gives a place. -/
theorem get?_label (h : s.generate time = .ok g) {c : Catalog}
    (hc : g.messages.get? language = some c) {owner : String × Table}
    (hs : Settles g language place owner text) : c.get? (labelKey place) = some text := by
  obtain ⟨-, rfl⟩ := catalog_of_generate h hc
  have hproject := project_of_generate h
  obtain ⟨mem, labels, last⟩ := hs
  rw [hproject] at labels last
  obtain ⟨before, after, hsplit, hafter⟩ := Dict.split_of_mem mem
  rw [catalog, hsplit, List.flatMap_append, List.flatMap_cons, ← List.append_assoc]
  refine Dict.get?_ofList_of_last (mem_tableMessages_iff.2 labels) (fun other hother => ?_) ?_
  · exact labels.unique (nodup_columns h mem) (mem_tableMessages_iff.1 hother)
  · intro hkey
    obtain ⟨⟨_, other⟩, hmem, rfl⟩ := List.mem_map.1 hkey
    obtain ⟨later, hlater, hmem⟩ := List.mem_flatMap.1 hmem
    have hin : later ∈ g.tables.tables.entries := by
      rw [hsplit]
      exact List.mem_append_right _ (List.mem_cons_of_mem _ hlater)
    exact last later hin (hafter later hlater) other (mem_tableMessages_iff.1 hmem)

/-! ## Screens -/

/-- The label of a column, in so far as there is one. -/
def ColumnSpec.label? (spec : ColumnSpec) (name language default : String) : Option String :=
  (withLabel spec.labels name default).resolve? language default

/-- The catalog of a language has the label of a table. -/
def TableAlike (g : Generated) (language table : String) : Prop :=
  ∃ c t, g.messages.get? language = some c ∧ g.tables.tables.get? table = some t ∧
    c.get? (labelKey table) = some (t.label language g.tables.project.defaultLanguage)

/-- The catalog of a language has the label that the form and the list show for a column. -/
def ColumnAlike (g : Generated) (language table column : String) : Prop :=
  ∃ c t f v, g.messages.get? language = some c ∧ g.tables.tables.get? table = some t ∧
    t.formField? column = some f ∧ t.listColumn? column = some v ∧
    c.get? (labelKey (columnPlace table column)) =
      some (f.labelText language g.tables.project.defaultLanguage) ∧
    v.labelText language g.tables.project.defaultLanguage =
      f.labelText language g.tables.project.defaultLanguage

theorem labelText_formField (spec : ColumnSpec) (name language default : String) :
    (formField ⟨name, spec.completed name default⟩).labelText language default =
      (spec.label? name language default).getD name := by
  rw [FormField.labelText, label_formField, name_formField]
  rfl

/-- The title of a name and the name itself stand in for a missing label alike exactly if none is
missing, or the name is its own title. -/
theorem getD_titleCase_iff {label : Option String} {name : String} :
    label.getD (Text.titleCase name) = label.getD name ↔
      label.isSome = true ∨ Text.titleCase name = name := by
  cases label <;> simp

section

variable {w : Written} (hw : Document.schema w = some s) (h : s.generate time = .ok g)
  {table column : String} {spec : ColumnSpec} (hd : s.Describes table column spec)
  (hshown : spec.ui.hidden = false)

include hw h hd hshown

/-- Some table has the last word on the place of a column; the table of the column says there what
its label is, or the title of its name. -/
theorem exists_settles_column (language : String) : ∃ owner text,
    Settles g language (columnPlace table column) owner text ∧
      (owner.1 = table → text = (spec.label? column language s.project.defaultLanguage).getD
        (Text.titleCase column)) := by
  obtain ⟨t, ht, hmem, -⟩ := table_of_describes hw h hd hshown
  have hown : (table, t) ∈ g.tables.tables.entries := Dict.mem_entries_iff.2 ht
  have hlabels : Labels language g.tables.project.defaultLanguage (table, t)
      (columnPlace table column)
      ((spec.label? column language s.project.defaultLanguage).getD (Text.titleCase column)) := by
    rw [project_of_generate h]
    exact .inr ⟨_, hmem, rfl, rfl⟩
  obtain ⟨owner, text, hs⟩ := exists_settles hown hlabels
  refine ⟨owner, text, hs, fun howner => ?_⟩
  obtain rfl : owner = (table, t) := by
    have hget := Dict.mem_entries_iff.1 hs.mem
    rw [howner, ht] at hget
    exact Prod.ext howner (Option.some.inj hget).symm
  exact hlabels.unique (nodup_columns h hown) hs.labels

/-- A column is labelled alike exactly if what the last table says is what the screens show. -/
theorem columnAlike_iff_of_settles {c : Catalog} (hc : g.messages.get? language = some c)
    {owner : String × Table} (hs : Settles g language (columnPlace table column) owner text) :
    ColumnAlike g language table column ↔
      text = (spec.label? column language s.project.defaultLanguage).getD column := by
  have hproject := project_of_generate h
  obtain ⟨t, ht, -, hf, hv⟩ := table_of_describes hw h hd hshown
  rw [← labelText_formField]
  constructor
  · rintro ⟨c', t', f', v', hc', ht', hf', -, hget, -⟩
    obtain rfl := Option.some.inj (hc.symm.trans hc')
    obtain rfl := Option.some.inj (ht.symm.trans ht')
    obtain rfl := Option.some.inj (hf.symm.trans hf')
    rw [get?_label h hc hs, hproject] at hget
    exact Option.some.inj hget
  · intro htext
    refine ⟨c, t, _, _, hc, ht, hf, hv, ?_, ?_⟩
    · rw [get?_label h hc hs, htext, hproject]
    · rw [hproject, labelText_formField]
      rfl

end

/-- In the catalog of a supported language every table has its label. A column that is shown has the
label that its form field and its list column show exactly if the last table with a label for its
place is its own, and the column has a label that is not empty in the language or the default
language, or a name that is its own title; or if it is another table that has the same label
there. -/
theorem alike_iff {w : Written} (hw : Document.schema w = some s) (h : s.generate time = .ok g)
    (hl : language ∈ s.project.languages) :
    (∀ entry ∈ s.tables, TableAlike g language entry.1) ∧
    ∀ table column spec, s.Describes table column spec → spec.ui.hidden = false →
      ∃ owner text, Settles g language (columnPlace table column) owner text ∧
        (ColumnAlike g language table column ↔
          owner.1 = table ∧ ((spec.label? column language s.project.defaultLanguage).isSome = true ∨
            Text.titleCase column = column) ∨
          owner.1 ≠ table ∧
            text = (spec.label? column language s.project.defaultLanguage).getD column) := by
  obtain ⟨c, hc⟩ := (exists_catalog_iff h).2 hl
  refine ⟨?_, fun table column spec hd hshown => ?_⟩
  · rintro ⟨name, raw⟩ hmem
    obtain ⟨t, _, -, ht, -⟩ := table_of_generate h (nodup_of_schema hw) hmem
    have hown : (name, t) ∈ g.tables.tables.entries := Dict.mem_entries_iff.2 ht
    exact ⟨c, t, hc, ht, get?_label h hc (settles_name hown language)⟩
  · obtain ⟨owner, text, hs, htext⟩ := exists_settles_column hw h hd hshown language
    refine ⟨owner, text, hs, ?_⟩
    rw [columnAlike_iff_of_settles hw h hd hshown hc hs]
    by_cases howner : owner.1 = table
    · rw [htext howner, getD_titleCase_iff]
      simp [howner]
    · simp [howner]

/-! ## Items with a price -/

/-- Tables of a shop in English. -/
def shop (tables : List (String × Value)) : Schema := ⟨⟨"Shop", "en", ["en"]⟩, tables⟩

/-- The document of a shop. -/
def shopDocument (tables : List (String × Value)) : Value :=
  .obj [("project", .obj [("name", .str "Shop"), ("defaultLanguage", .str "en"),
    ("supportedLanguages", .arr [.str "en"])]), ("tables", .obj tables)]

/-- The place of a column that is the name of another table has the label of that table. -/
example : let item : Value := .obj [("columns", .obj [("price", .obj [])])]
    ((shop [("item", item), ("item.column.price", item)]).generate "now").toOption.any (fun g =>
      (g.messages.get? "en").any fun c =>
        c.get? (labelKey (columnPlace "item" "price")) == some "Item.column.price") = true := by
  decide +kernel

/-- The column of a price with a label in English. -/
def priceColumn (label : String) : ColumnSpec :=
  ⟨"INT", .relaxed, .ofList [("en", label)], .default, .empty, none, none, none, none⟩

/-- A table of items with a price. -/
def pricedItems (label : String) : List (String × Value) :=
  [("items", .obj [("columns", .obj [("unit_price", .obj [("type", .str "INT"),
    ("labels", .obj [("en", .str label)])])])])]

theorem schema_priced (label : String) :
    Document.schema (Written.ofValue (shopDocument (pricedItems label))) =
      some (shop (pricedItems label)) := rfl

theorem describes_priced (label : String) :
    (shop (pricedItems label)).Describes "items" "unit_price" (priceColumn label) :=
  ⟨_, _, _, List.mem_singleton_self _, rfl, List.mem_singleton_self _, rfl⟩

/-- A price that is called so is called so everywhere. -/
theorem alike_price : ∃ g, (shop (pricedItems "Price")).generate "now" = .ok g ∧
    "en" ∈ (shop (pricedItems "Price")).project.languages ∧
    (shop (pricedItems "Price")).Describes "items" "unit_price" (priceColumn "Price") ∧
    TableAlike g "en" "items" ∧ ColumnAlike g "en" "items" "unit_price" := by
  obtain ⟨g, hg, hkeys⟩ := exists_of_any (x := (shop (pricedItems "Price")).generate "now")
    (p := fun g => g.tables.tables.keys == ["items"]) (by decide +kernel)
  have hl : "en" ∈ (shop (pricedItems "Price")).project.languages := List.mem_singleton_self _
  have hd := describes_priced "Price"
  obtain ⟨htables, hcolumns⟩ := alike_iff (schema_priced "Price") hg hl
  obtain ⟨owner, text, hs, hiff⟩ := hcolumns _ _ _ hd rfl
  have howner : owner.1 ∈ g.tables.tables.keys := List.mem_map_of_mem hs.mem
  rw [eq_of_beq hkeys, List.mem_singleton] at howner
  exact ⟨g, hg, hl, hd, htables _ (List.mem_singleton_self _),
    hiff.2 (.inl ⟨howner, .inl (by decide +kernel)⟩)⟩

/-- A price whose label is empty has its title in the catalog and its name on the screens. -/
theorem not_alike_price : ∃ g,
    Document.schema (Written.ofValue (shopDocument (pricedItems ""))) =
      some (shop (pricedItems "")) ∧
    (shop (pricedItems "")).generate "now" = .ok g ∧
    "en" ∈ (shop (pricedItems "")).project.languages ∧
    (shop (pricedItems "")).Describes "items" "unit_price" (priceColumn "") ∧
    ¬ColumnAlike g "en" "items" "unit_price" := by
  obtain ⟨g, hg, hlabels⟩ := exists_of_any (x := (shop (pricedItems "")).generate "now")
    (p := fun g => (g.messages.get? "en").any (fun c =>
        c.get? (labelKey (columnPlace "items" "unit_price")) == some "Unit Price") &&
      (g.tables.tables.get? "items").any fun t => (t.formField? "unit_price").any fun f =>
        f.labelText "en" "en" == "unit_price") (by decide +kernel)
  refine ⟨g, schema_priced "", hg, List.mem_singleton_self _, describes_priced "", ?_⟩
  rintro ⟨c, t, f, v, hc, ht, hf, -, hget, -⟩
  have hproject : g.tables.project.defaultLanguage = "en" := by rw [project_of_generate hg]; rfl
  obtain ⟨hcatalog, hscreen⟩ := Bool.and_eq_true_iff.1 hlabels
  rw [hc, Option.any_some, hget, hproject] at hcatalog
  rw [ht, Option.any_some, hf, Option.any_some] at hscreen
  rw [eq_of_beq hscreen] at hcatalog
  revert hcatalog
  decide

end RecordDesk.Schema
