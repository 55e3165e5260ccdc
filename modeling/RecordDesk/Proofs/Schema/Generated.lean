import RecordDesk.Proofs.Dict
import RecordDesk.Proofs.Steps
import RecordDesk.Schema.Generate

/-
  What the documents of a schema are made of: every table and its rules come from the metadata that
  stands under its name (`generate_eq_ok`), and every catalog holds the messages of the rules and
  those of the tables (`catalog_of_generate`, `mem_catalog`).
-/

namespace RecordDesk.Schema

variable {s : Schema} {time : String} {g : Generated}

theorem generateTable_eq_ok {default name : String} {raw : Value} {t : Table} {r : TableRules} :
    generateTable default name raw = .ok (t, r) ↔
      ∃ spec columns plan, Document.ofValue? Document.tableSpec raw = some spec ∧
        readColumns name default spec = .ok columns ∧
        t = definition name default spec columns ∧ Plan.ofTable t = .ok plan ∧
        r = tableRules name columns := by
  unfold generateTable
  cases hspec : Document.ofValue? Document.tableSpec raw with
  | none => simp
  | some spec =>
    simp only [bind_eq_ok, Option.some.injEq]
    constructor
    · rintro ⟨columns, hcolumns, plan, hplan, heq⟩
      obtain ⟨rfl, rfl⟩ := Prod.mk.inj (Except.ok.inj heq)
      exact ⟨spec, columns, plan, rfl, hcolumns, rfl, hplan, rfl⟩
    · rintro ⟨_, columns, plan, rfl, hcolumns, rfl, hplan, rfl⟩
      exact ⟨columns, hcolumns, plan, hplan, rfl⟩

/-- A table and its rules under the name that the metadata stands under. -/
def Makes (default : String) (entry : String × Value) (made : String × Table × TableRules) :
    Prop :=
  made.1 = entry.1 ∧ generateTable default entry.1 entry.2 = .ok made.2

theorem generate_eq_ok (h : s.generate time = .ok g) :
    ∃ made, List.Forall₂ (Makes s.project.defaultLanguage) s.tables made ∧
      g.tables = ⟨version, some time, s.project, .ofList (made.map fun m => (m.1, m.2.1))⟩ ∧
      g.rules = ⟨version, some time, .ofList (made.map fun m => (m.1, m.2.2))⟩ ∧
      g.messages = .ofList (s.project.languages.map fun l =>
        (l, catalog l s.project.defaultLanguage g.tables.tables)) := by
  obtain ⟨made, hmade, heq⟩ := bind_eq_ok.1 h
  obtain rfl := Except.ok.inj heq
  refine ⟨made, ?_, rfl, rfl, rfl⟩
  refine (mapM_eq_ok.1 hmade).imp ?_
  rintro ⟨name, raw⟩ m hm
  obtain ⟨⟨t, r⟩, htable, heq⟩ := bind_eq_ok.1 hm
  obtain rfl := Except.ok.inj heq
  exact ⟨rfl, htable⟩

theorem project_of_generate (h : s.generate time = .ok g) : g.tables.project = s.project := by
  obtain ⟨made, -, htables, -⟩ := generate_eq_ok h
  rw [htables]

/-! ## Tables -/

/-- Every generated table is made from a part of the schema, and has a plan. -/
theorem plan_of_generate (h : s.generate time = .ok g) :
    ∀ entry ∈ g.tables.tables.entries, ∃ p, Plan.ofTable entry.2 = .ok p := by
  obtain ⟨made, hmade, htables, -⟩ := generate_eq_ok h
  intro entry hentry
  rw [htables] at hentry
  obtain ⟨⟨name, t, r⟩, hm, rfl⟩ := List.mem_map.1 (Dict.mem_of_mem_ofList hentry)
  obtain ⟨⟨_, raw⟩, -, -, htable⟩ := exists_of_forall₂ hmade hm
  obtain ⟨_, _, p, -, -, -, hp, -⟩ := generateTable_eq_ok.1 htable
  exact ⟨p, hp⟩

/-- The table and the rules that are generated of a part of the schema stand under its name. -/
theorem table_of_generate (h : s.generate time = .ok g) (hnodup : (s.tables.map Prod.fst).Nodup)
    {name : String} {raw : Value} (hmem : (name, raw) ∈ s.tables) :
    ∃ t r, generateTable s.project.defaultLanguage name raw = .ok (t, r) ∧
      g.tables.tables.get? name = some t ∧ g.rules.table? name = some r := by
  obtain ⟨made, hmade, htables, hrules, -⟩ := generate_eq_ok h
  obtain ⟨⟨_, t, r⟩, hm, rfl, htable⟩ := exists_of_forall₂ hmade.flip hmem
  have hnames : made.map Prod.fst = s.tables.map Prod.fst := by
    rw [← List.forall₂_eq_eq_eq, List.forall₂_map_left_iff, List.forall₂_map_right_iff]
    exact hmade.flip.imp fun _ _ hmakes => hmakes.1
  have hmade' : (made.map Prod.fst).Nodup := hnames ▸ hnodup
  refine ⟨t, r, htable, ?_, ?_⟩
  · rw [htables]
    refine Dict.get?_ofList_of_mem ?_ (List.mem_map_of_mem hm)
    rwa [List.map_map]
  · rw [hrules]
    refine Dict.get?_ofList_of_mem ?_ (List.mem_map_of_mem hm)
    rwa [List.map_map]

/-! ## Rules -/

/-- The kinds of the rules that are made but for patterns. -/
def plainKinds : List RuleKind := [.required, .minLength, .maxLength, .min, .max, .unique]

/-- A rule of a column is plain, or it is that of the column's pattern. -/
theorem mem_rules {spec : ColumnSpec} {r : Rule} (h : r ∈ rules spec) :
    (∃ kind ∈ plainKinds, ∃ value, r = plainRule kind value) ∨
      ∃ text ∈ spec.validation.pattern, r = patternRule text := by
  simp only [rules, List.mem_append, Option.mem_toList, Option.map_eq_some_iff] at h
  obtain (((((h | ⟨_, -, rfl⟩) | ⟨_, -, rfl⟩) | ⟨_, -, rfl⟩) | ⟨_, -, rfl⟩) |
    ⟨text, htext, rfl⟩) | h := h
  · split at h
    · exact .inl ⟨.required, by decide, none, List.mem_singleton.1 h⟩
    · cases h
  · exact .inl ⟨.minLength, by decide, _, rfl⟩
  · exact .inl ⟨.maxLength, by decide, _, rfl⟩
  · exact .inl ⟨.min, by decide, _, rfl⟩
  · exact .inl ⟨.max, by decide, _, rfl⟩
  · exact .inr ⟨text, htext, rfl⟩
  · split at h
    · exact .inl ⟨.unique, by decide, none, List.mem_singleton.1 h⟩
    · cases h

/-- The rules that are generated are those of columns. -/
theorem rules_of_generate (h : s.generate time = .ok g) :
    ∀ table ∈ g.rules.tables.entries, ∀ field ∈ table.2.fields.entries, ∀ r ∈ field.2.rules,
      ∃ spec, r ∈ rules spec := by
  obtain ⟨made, hmade, -, hrules, -⟩ := generate_eq_ok h
  intro table htable field hfield r hr
  rw [hrules] at htable
  obtain ⟨⟨name, t, tr⟩, hm, rfl⟩ := List.mem_map.1 (Dict.mem_of_mem_ofList htable)
  obtain ⟨entry, -, -, htr⟩ := exists_of_forall₂ hmade hm
  obtain ⟨_, columns, _, -, -, -, -, rfl⟩ := generateTable_eq_ok.1 htr
  obtain ⟨c, -, rfl⟩ := List.mem_map.1 (Dict.mem_of_mem_ofList hfield)
  exact ⟨c.spec, hr⟩

/-! ## Messages -/

theorem catalog_of_generate (h : s.generate time = .ok g) {language : String} {c : Catalog}
    (hc : g.messages.get? language = some c) :
    language ∈ s.project.languages ∧
      c = catalog language s.project.defaultLanguage g.tables.tables := by
  obtain ⟨made, -, -, -, hmessages⟩ := generate_eq_ok h
  rw [hmessages] at hc
  have hentry : (language, c) ∈ (Dict.ofList (s.project.languages.map fun l =>
      (l, catalog l s.project.defaultLanguage g.tables.tables))).entries :=
    Dict.mem_entries_iff.2 hc
  obtain ⟨l, hl, heq⟩ := List.mem_map.1 (Dict.mem_of_mem_ofList hentry)
  obtain ⟨rfl, rfl⟩ := Prod.mk.inj heq
  exact ⟨hl, rfl⟩

theorem exists_catalog_iff (h : s.generate time = .ok g) {language : String} :
    (∃ c, g.messages.get? language = some c) ↔ language ∈ s.project.languages := by
  obtain ⟨made, -, -, -, hmessages⟩ := generate_eq_ok h
  rw [hmessages, Dict.exists_get?_ofList, List.map_map, Function.comp_def, List.map_id']

/-- The messages of the rules in a language. -/
def ruleMessages (language : String) : List (String × String) :=
  if language = "ja" then japaneseMessages else englishMessages

/-- Every message is one of the rules or one of a table. -/
theorem mem_catalog {language default : String} {tables : Dict Table} {entry : String × String}
    (h : entry ∈ (catalog language default tables).messages.entries) :
    entry ∈ ruleMessages language ∨
      ∃ table ∈ tables.entries, entry ∈ tableMessages language default table := by
  exact (List.mem_append.1 (Dict.mem_of_mem_ofList h)).imp id List.mem_flatMap.1

/-- The keys of a table's messages. -/
theorem mem_tableMessages {language default : String} {table : String × Table}
    {entry : String × String} (h : entry ∈ tableMessages language default table) :
    ∃ middle, entry.1 = "table." ++ middle ++ ".label" ∨
      entry.1 = "table." ++ middle ++ ".description" := by
  obtain ⟨name, t⟩ := table
  simp only [tableMessages, List.mem_append, List.mem_cons, Option.mem_toList,
    Option.map_eq_some_iff, List.mem_map] at h
  rcases h with (rfl | ⟨text, -, rfl⟩) | ⟨c, -, rfl⟩
  · exact ⟨name, .inl rfl⟩
  · exact ⟨name, .inr rfl⟩
  · refine ⟨name ++ ".column." ++ c.name, .inl ?_⟩
    simp only [String.append_assoc]

end RecordDesk.Schema
