import RecordDesk.Proofs.Form.Opened
import RecordDesk.Proofs.Schema.Columns

/-
  What is generated, in use. The documents of a schema can be loaded, and every table in them has
  forms; but the patterns of columns go into the rules unread. A table can be used exactly if the
  pattern of every column that is shown can be read (`usable_iff`).
-/

namespace RecordDesk

namespace Pattern

/-- What a name stands for is no name itself. -/
theorem expand_expand (text : String) : expand (expand text) = expand text := by
  unfold expand
  split
  · decide +kernel
  · split
    · decide +kernel
    · split
      · decide +kernel
      · rfl

end Pattern

namespace Schema

open Validator (HasPattern)

/-! ## Rules -/

/-- The pattern that a column demands can be read. -/
def ReadablePattern (d : Demands) : Prop :=
  ∀ text ∈ d.pattern, (Pattern.parse? (Pattern.expand text)).isSome = true

theorem hasPattern_patternRule (text : String) :
    HasPattern (patternRule text) ↔ (Pattern.parse? (Pattern.expand text)).isSome = true := by
  constructor
  · intro h
    have hread := h rfl (Pattern.expand text) rfl
    rwa [Pattern.expand_expand] at hread
  · rintro h - other hother
    obtain rfl : Pattern.expand text = other := Option.some.inj hother
    rwa [Pattern.expand_expand]

/-- The rule of a column's pattern is the only one that has a pattern. -/
theorem hasPattern_rules (spec : ColumnSpec) :
    (∀ r ∈ rules spec, HasPattern r) ↔ ReadablePattern spec.validation := by
  constructor
  · intro h text htext
    refine (hasPattern_patternRule text).1 (h _ ?_)
    rw [Option.mem_def] at htext
    simp [rules, htext]
  · intro h r hr
    rcases mem_rules hr with ⟨kind, hkind, value, rfl⟩ | ⟨text, htext, rfl⟩
    · have hplain : .pattern ∉ plainKinds := by decide
      exact fun heq => absurd (heq ▸ hkind) hplain
    · exact (hasPattern_patternRule text).2 (h text htext)

/-! ## Columns -/

/-- Every column that is shown has a pattern that can be read, if it has one. -/
def ReadablePatterns (raw : Value) : Prop :=
  ∀ t, Document.ofValue? Document.tableSpec raw = some t → ∀ entry ∈ t.columns,
    ∀ spec, Document.ofValue? Document.columnSpec entry.2 = some spec → spec.ui.hidden = false →
      ReadablePattern spec.validation

/-- The rules of a table are those of the columns that are shown. -/
theorem hasPattern_tableRules {name : String} {columns : List NamedColumn}
    (hnodup : (columns.map (·.name)).Nodup) :
    (∀ entry ∈ Validator.ruledFields (some (tableRules name columns)),
      ∀ r ∈ entry.2.rules, HasPattern r) ↔
    ∀ c ∈ visible columns, ReadablePattern c.spec.validation := by
  have hkeys : ((((visible columns).filter fun c => !(rules c.spec).isEmpty).map fun c =>
      (c.name, (⟨c.name, rules c.spec, c.spec.validation.realtime.getD true⟩ : FieldRules))).map
        Prod.fst).Nodup := by
    rw [List.map_map]
    exact hnodup.sublist ((List.filter_sublist.trans List.filter_sublist).map _)
  simp only [← hasPattern_rules]
  constructor
  · intro h c hc r hr
    refine h (c.name, ⟨c.name, rules c.spec, c.spec.validation.realtime.getD true⟩) ?_ r hr
    refine (Dict.mem_ofList hkeys).2 (List.mem_map.2 ⟨c, List.mem_filter.2 ⟨hc, ?_⟩, rfl⟩)
    have hne := List.ne_nil_of_mem hr
    simpa using hne
  · intro h entry hentry r hr
    obtain ⟨c, hc, rfl⟩ := List.mem_map.1 (Dict.mem_of_mem_ofList hentry)
    exact h c (List.mem_filter.1 hc).1 r hr

/-- The patterns of the generated rules can be read exactly if those of the columns can. -/
theorem hasPattern_generated {default name : String} {raw : Value} {t : Table} {r : TableRules}
    (h : generateTable default name raw = .ok (t, r)) :
    (∀ entry ∈ Validator.ruledFields (some r), ∀ rule ∈ entry.2.rules, HasPattern rule) ↔
      ReadablePatterns raw := by
  obtain ⟨spec, columns, -, hspec, hcolumns, -, -, rfl⟩ := generateTable_eq_ok.1 h
  have hread := readAs_of_readColumns hcolumns
  rw [hasPattern_tableRules (nodup_of_readColumns hspec hcolumns)]
  constructor
  · intro hpatterns t ht entry hentry c hc hshown
    obtain rfl := Option.some.inj (hspec.symm.trans ht)
    obtain ⟨named, hnamed, -, spec', hspec', heq⟩ := exists_of_forall₂ hread.flip hentry
    obtain rfl := Option.some.inj (hc.symm.trans hspec')
    have hvisible : named ∈ visible columns :=
      List.mem_filter.2 ⟨hnamed, by rw [heq, hidden_completed, hshown]; rfl⟩
    have hpattern := hpatterns named hvisible
    rw [heq] at hpattern
    exact hpattern
  · intro hpatterns named hnamed
    obtain ⟨hmem, hshown⟩ := List.mem_filter.1 hnamed
    obtain ⟨entry, hentry, -, c, hc, heq⟩ := exists_of_forall₂ hread hmem
    rw [heq, hidden_completed] at hshown
    rw [heq]
    exact hpatterns spec hspec entry hentry c hc (by simpa using hshown)

/-! ## Use -/

/-- The documents can be loaded, the rules of a table can be checked in every language, and forms
for its new records open and never fail for the configuration. -/
structure Usable (g : Generated) (name : String) : Prop where
  loads : ∀ messages language, ∃ config,
    Configuration.make g.tables g.rules messages language = .ok config
  checks : ∃ t, g.tables.tables.get? name = some t ∧
    ∀ language c, g.messages.get? language = some c →
      ∃ v, Validator.make t (g.rules.table? name) c = .ok v
  opens : ∀ messages language config,
    Configuration.make g.tables g.rules messages language = .ok config →
      ∀ lookups, ∃ opened, Session.create config name lookups = .ok opened ∧
        ∀ calls message, (opened.run calls).validate ≠ .error (.config message) ∧
          (opened.run calls).submit ≠ .error (.config message)

open Session (Opened)

/-- A form for a new record opens, and from then on it is the rules of its table that count. -/
theorem exists_create {config : Configuration} {name : String} {t : Table}
    (ht : config.table name = .ok t) (hname : t.name = name) {p : Plan}
    (hp : config.plan name = .ok p) (lookups : Lookups) :
    ∃ opened, Session.create config name lookups = .ok opened ∧ ∀ calls,
      (opened.run calls).validate =
        (Validator.make t (config.rules.table? name) config.messages).map
          (·.check (opened.run calls).values (opened.run calls).mode) := by
  have hcreate : Session.create config name lookups =
      .ok ⟨config, t, p, lookups, .create, none, Session.seeded t⟩ := by
    rw [Session.create, ht, hp]
    rfl
  refine ⟨_, hcreate, fun calls => ?_⟩
  exact (Session.worksOn_of_name ht hname).validates _ ⟨none, lookups, _, calls, hcreate, rfl⟩

/-- The rules of a generated table can be checked exactly if the patterns of its columns can be
read, whatever the messages are. -/
theorem exists_validator_iff {default name : String} {raw : Value} {t : Table} {r : TableRules}
    (h : generateTable default name raw = .ok (t, r)) (messages : Catalog) :
    (∃ v, Validator.make t (some r) messages = .ok v) ↔ ReadablePatterns raw := by
  rw [Validator.exists_make_iff, hasPattern_generated h]

variable {s : Schema} {time : String} {g : Generated}

theorem loads_of_generate (h : s.generate time = .ok g) (messages : Catalog) (language : String) :
    ∃ config, Configuration.make g.tables g.rules messages language = .ok config :=
  (Configuration.exists_make_iff g.rules messages language).2 (plan_of_generate h)

/-- In a configuration of generated documents, a form for a new record opens on every table that
goes by its own name, and it is the generated rules that count. -/
theorem opens_of_make {name : String} {t : Table} (ht : g.tables.tables.get? name = some t)
    (hname : t.name = name) {messages : Catalog} {language : String} {config : Configuration}
    (hconfig : Configuration.make g.tables g.rules messages language = .ok config)
    (lookups : Lookups) :
    ∃ opened, Session.create config name lookups = .ok opened ∧ ∀ calls,
      (opened.run calls).validate = (Validator.make t (g.rules.table? name) config.messages).map
        (·.check (opened.run calls).values (opened.run calls).mode) := by
  have ht' : config.table name = .ok t := by
    rw [Configuration.table_eq_ok, (Configuration.make_eq_ok hconfig).1]
    exact Dict.mem_entries_iff.2 ht
  obtain ⟨p, hp, -⟩ := Configuration.exists_plan hconfig ht'
  rw [← Configuration.rules_of_make hconfig]
  exact exists_create ht' hname hp lookups

/-- A table with a code that must have a pattern. -/
def codedItems (pattern : String) : Value :=
  .obj [("columns", .obj [("code", .obj [("type", .str "VARCHAR"),
    ("validation", .obj [("pattern", .str pattern)])])])]

/-- The schema of items with a code. -/
def codedSchema (pattern : String) : Schema := ⟨defaultProject, [("items", codedItems pattern)]⟩

theorem schema_coded (pattern : String) :
    Document.schema (.obj [("tables", .obj [("items", Written.ofValue (codedItems pattern))])]) =
      some (codedSchema pattern) := rfl

theorem readablePatterns_coded {pattern : String}
    (h : (Pattern.parse? (Pattern.expand pattern)).isSome = true) :
    ReadablePatterns (codedItems pattern) := by
  intro t ht entry hentry spec hspec _
  obtain rfl := Option.some.inj ht
  obtain rfl := List.mem_singleton.1 hentry
  obtain rfl := Option.some.inj hspec
  rintro _ ⟨⟩
  exact h

end Schema

end RecordDesk
