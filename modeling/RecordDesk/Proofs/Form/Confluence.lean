import RecordDesk.Proofs.Derive.Inputs
import RecordDesk.Proofs.Form.Opened
import RecordDesk.Proofs.Form.Reading
import RecordDesk.Proofs.Text.Case

/-
  The order of typing. Where nothing but formulas derives values, the values that were last given to
  the other fields determine every field of the form, and with them what is sent, whatever was typed
  on the way and in whatever order (`edit_typed_confluent`). The columns themselves are not
  determined: a calculated value is written only where the field reads differently, so it depends on
  the way whether it stands under the field's own name or still under another spelling. Validation
  can tell these apart through a name outside the form (`not_confluent_sharpTable`).
-/

namespace RecordDesk

namespace Table

/-- Nothing but the formulas of the table derives values: no autofill is enabled, a calculation is
set off by just the fields it refers to, and the names of form fields are distinct in any case. -/
structure Formulaic (t : Table) : Prop where
  unfilled : ∀ f ∈ t.formFields, ∀ a, f.autofill = some a → a.enabled = false
  untriggered : ∀ f ∈ t.formFields, ∀ c, f.calculation = some c → c.enabled = true →
    c.triggers = []
  distinct : t.Distinct

variable {t : Table}

theorem formulaic_iff : t.Formulaic ↔
    (∀ f ∈ t.formFields, (f.autofill.all fun a => !a.enabled) = true ∧
      (f.calculation.all fun c => !c.enabled || c.triggers.isEmpty) = true) ∧
    ∀ a ∈ t.formFields.map (·.name), ∀ b ∈ t.formFields.map (·.name),
      a ≠ b → b ≠ Text.upper a ∧ b ≠ Text.lower a := by
  constructor
  · intro h
    refine ⟨fun f hf => ⟨?_, ?_⟩, fun a ha b hb => h.distinct a b ha hb⟩
    · simpa [Option.all_eq_true] using h.unfilled f hf
    · simpa [Option.all_eq_true, imp_iff_not_or] using h.untriggered f hf
  · rintro ⟨hfields, hdistinct⟩
    refine ⟨fun f hf => ?_, fun f hf => ?_, fun a b ha hb => hdistinct a ha b hb⟩
    · simpa [Option.all_eq_true] using (hfields f hf).1
    · simpa [Option.all_eq_true, imp_iff_not_or] using (hfields f hf).2

instance (t : Table) : Decidable t.Formulaic := decidable_of_iff _ formulaic_iff.symm

instance (t : Table) (name : String) : Decidable (t.HasField name) :=
  inferInstanceAs (Decidable (name ∈ t.formFields.map (·.name)))

theorem Formulaic.selectors_eq (h : t.Formulaic) : t.selectors = [] := by
  refine List.filterMap_eq_nil_iff.2 fun f hf => ?_
  cases ha : f.autofill with
  | none => simp [FormField.selector?, ha]
  | some a => simp [FormField.selector?, ha, Option.filter, h.unfilled f hf a ha]

theorem Formulaic.plain (h : t.Formulaic) : t.Plain where
  untriggered := h.untriggered
  unfilled _ _ _ hs := absurd hs (h.selectors_eq ▸ List.not_mem_nil)
  distinct := h.distinct

theorem Formulaic.derived_iff (h : t.Formulaic) {name : String} :
    t.Derived name ↔ ∃ k ∈ t.calculations, k.target = name := by
  simp [Derived, h.selectors_eq]

/-- Each of the names is that of a form field, or else it spells every calculated field whose name
it is looked up under. -/
def ReadsFields (t : Table) (names : List String) : Prop :=
  ∀ name ∈ names, t.HasField name ∨ ∀ k ∈ t.calculations,
    k.target = Text.upper name ∨ k.target = Text.lower name → Text.Spelling k.target name

/-- An ASCII name is looked up under spellings of it. -/
theorem readsFields_of_ascii {names : List String}
    (h : ∀ name ∈ names, t.HasField name ∨ Text.Ascii name) : t.ReadsFields names := by
  intro name hname
  rcases h name hname with hfield | hascii
  · exact .inl hfield
  · refine .inr fun k _ hk => ?_
    rcases hk with hk | hk
    · exact hk ▸ Text.spelling_upper hascii
    · exact hk ▸ Text.spelling_lower hascii

/-- A name outside the form is found alike where the inputs are the same and the fields of the form
read alike, if it spells the calculated fields that it is looked up under. -/
theorem SameInputs.lookup_spelling {r s : Record} (h : t.SameInputs r s) (ht : t.Formulaic)
    (hfields : ∀ k ∈ t.calculations, r.lookup k.target = s.lookup k.target) {name : String}
    (hname : ¬ t.Derived name)
    (hspells : ∀ k ∈ t.calculations, k.target = Text.upper name ∨ k.target = Text.lower name →
      Text.Spelling k.target name) : r.lookup name = s.lookup name := by
  have hself := h name hname
  by_cases hupper : ∃ k ∈ t.calculations, k.target = Text.upper name
  · -- the field stands under the upper case, which is looked up just as it is
    obtain ⟨k, hk, htarget⟩ := hupper
    have hspells := hspells k hk (.inl htarget)
    have hread : ∀ u : Record, u.lookup k.target =
        (u.get? (Text.upper name)).or (u.get? (Text.lower name)) := by
      intro u
      rw [Record.lookup_eq_or, hspells.upper, hspells.lower, htarget, Option.or_self]
    rw [Record.lookup_eq_or, Record.lookup_eq_or, Option.or_assoc, Option.or_assoc, hself, ← hread,
      ← hread, hfields k hk]
  have hupper' : r.get? (Text.upper name) = s.get? (Text.upper name) :=
    h _ fun hderived => hupper (ht.derived_iff.1 hderived)
  by_cases hlower : ∃ k ∈ t.calculations, k.target = Text.lower name
  · -- the field stands under the lower case, which counts only where the upper case is missing
    obtain ⟨k, hk, htarget⟩ := hlower
    have hspells := hspells k hk (.inr htarget)
    have hread : ∀ u : Record, u.get? (Text.upper name) = none →
        u.lookup k.target = u.get? (Text.lower name) := by
      intro u hu
      rw [Record.lookup_eq_or, hspells.upper, hspells.lower, htarget, hu, Option.or_none,
        Option.or_self]
    rw [Record.lookup_eq_or, Record.lookup_eq_or, hself, hupper']
    cases hs : s.get? (Text.upper name) with
    | some v => cases s.get? name <;> rfl
    | none => rw [← hread r (hupper'.trans hs), ← hread s hs, hfields k hk]
  · have hlower' : r.get? (Text.lower name) = s.get? (Text.lower name) :=
      h _ fun hderived => hlower (ht.derived_iff.1 hderived)
    rw [Record.lookup_eq_or, Record.lookup_eq_or, hself, hupper', hlower']

end Table

namespace Session

/-! ## Typing -/

/-- Values given to fields one after another. -/
def typed (entries : List (String × Value)) : List Call :=
  entries.map fun (field, v) => .value field v

/-- The value that was last given to a field. -/
def lastGiven (entries : List (String × Value)) (field : String) : Option Value :=
  Value.field? entries.reverse field

variable {s u : Session}

theorem after_value {name : String} (hname : s.table.HasField name) (v : Value) :
    s.after (.value name v) = (s.assign name v).2 := by
  obtain ⟨f, hf, hfname⟩ := List.mem_map.1 hname
  have hfound : (s.table.formFields.find? (·.name == name)).isSome :=
    List.find?_isSome.2 ⟨f, hf, beq_iff_eq.2 hfname⟩
  obtain ⟨g, hg⟩ := Option.isSome_iff_exists.1 hfound
  have hgname : g.name = name := by simpa using List.find?_some hg
  have hget : s.field name = .ok g := by rw [field, Table.formField?, hg]
  have hcall : s.call (.value name v) = .ok (s.assign name v) := by
    rw [call, setValue, hget, ← hgname]
    rfl
  rw [after, hcall]

/-- Beside the derived fields, typing leaves just what was typed. -/
theorem sameInputs_run (hp : Plan.Follows s.plan s.table) {entries : List (String × Value)}
    (hfields : ∀ entry ∈ entries, s.table.HasField entry.1) {values : Record}
    (h : s.table.SameInputs values s.values) :
    s.table.SameInputs (entries.foldl (fun r (field, v) => r.insert field v) values)
      (s.run (typed entries)).values := by
  induction entries generalizing s values with
  | nil => exact h
  | cons entry rest ih =>
    obtain ⟨name, v⟩ := entry
    have hafter := after_value (hfields (name, v) List.mem_cons_self) v
    have hstep : s.table.SameInputs (values.insert name v) (s.assign name v).2.values :=
      fun column hcolumn => (h.insert name v column hcolumn).trans
        (Plan.sameInputs_applyChange hp (s.values.insert name v) name s.lookups column hcolumn)
    have hrest := ih (s := (s.assign name v).2) hp
      (fun entry hentry => hfields entry (List.mem_cons_of_mem _ hentry)) hstep
    rw [List.foldl_cons, typed, List.map_cons, run, List.foldl_cons, hafter]
    exact hrest

variable {t : Table} {entries fresh : List (String × Value)}

theorem Kept.typed (h : s.Kept t) (ht : t.Formulaic)
    (hentries : ∀ entry ∈ entries, ∀ k ∈ t.calculations, k.target ≠ entry.1) :
    (s.run (typed entries)).Kept t := by
  refine h.run ht.plain fun c hc => ?_
  obtain ⟨entry, hentry, rfl⟩ := List.mem_map.1 hc
  exact hentries entry hentry

/-- From the same values on, typing that gives each field the same last value leaves the same beside
the derived fields. -/
theorem sameInputs_typed (hs : s.Kept t) (hu : u.Kept t) (hvalues : u.values = s.values)
    (hentries : ∀ entry ∈ entries, t.HasField entry.1)
    (hfresh : ∀ entry ∈ fresh, t.HasField entry.1)
    (hlast : ∀ field, lastGiven entries field = lastGiven fresh field) :
    t.SameInputs (s.run (typed entries)).values (u.run (typed fresh)).values := by
  have hleft : t.SameInputs (entries.foldl (fun r (field, v) => r.insert field v) s.values)
      (s.run (typed entries)).values := by
    have hp := Plan.follows_of_ofTable (hs.table ▸ hs.plan)
    exact hs.table ▸ sameInputs_run hp (hs.table ▸ hentries) fun _ _ => rfl
  have hright : t.SameInputs (fresh.foldl (fun r (field, v) => r.insert field v) u.values)
      (u.run (typed fresh)).values := by
    have hp := Plan.follows_of_ofTable (hu.table ▸ hu.plan)
    exact hu.table ▸ sameInputs_run hp (hu.table ▸ hfresh) fun _ _ => rfl
  intro column hcolumn
  rw [← hleft column hcolumn, ← hright column hcolumn, Record.get?_foldl_insert,
    Record.get?_foldl_insert, hvalues]
  exact congrArg (Option.or · _) (hlast column)

/-- Where the calculated fields are up to date, the same inputs make the fields of a form read
alike. -/
theorem lookup_eq_of_kept (ht : t.Formulaic) (hs : s.Kept t) (hu : u.Kept t)
    (h : t.SameInputs s.values u.values) {field : String} (hfield : t.HasField field) :
    s.values.lookup field = u.values.lookup field := by
  have hp := Plan.follows_of_ofTable hs.plan
  refine Plan.lookup_eq_of_current hp hs.current hu.current (fun name hname hinput => ?_) hfield
  refine h.lookup ht.distinct (fun _ => hp.hasField_of_derived) hname fun hderived => ?_
  obtain ⟨k, hk, htarget⟩ := ht.derived_iff.1 hderived
  exact hinput k hk htarget

/-- So do the names that read fields of the form. -/
theorem lookup_eq_of_readsFields (ht : t.Formulaic) (hs : s.Kept t) (hu : u.Kept t)
    (h : t.SameInputs s.values u.values) {names : List String} (hnames : t.ReadsFields names)
    {name : String} (hname : name ∈ names) : s.values.lookup name = u.values.lookup name := by
  by_cases hfield : t.HasField name
  · exact lookup_eq_of_kept ht hs hu h hfield
  have hp := Plan.follows_of_ofTable hs.plan
  exact h.lookup_spelling ht
    (fun k hk => lookup_eq_of_kept ht hs hu h (hp.known k hk).target)
    (fun hderived => hfield (hp.hasField_of_derived hderived))
    ((hnames name hname).resolve_left hfield)

/-! ## The order of typing -/

/-- What a form for a record opens with does not depend on the lookups. -/
theorem edit_lookups {config : Configuration} {name : String} {r : Record} {lookups : Lookups}
    (h : edit config name r lookups = .ok s) (others : Lookups) :
    edit config name r others = .ok { s with lookups := others } := by
  obtain ⟨t, ht, h⟩ := bind_eq_ok.1 h
  obtain ⟨p, hp, h⟩ := bind_eq_ok.1 h
  obtain ⟨key, hkey, h⟩ := bind_eq_ok.1 h
  obtain rfl := Except.ok.inj h
  exact bind_eq_ok.2 ⟨t, ht, bind_eq_ok.2 ⟨p, hp, bind_eq_ok.2 ⟨key, hkey, rfl⟩⟩⟩

/-- Two ways of typing into a form for one record that end with the same value for each field make
every field of the form read alike, whatever is looked up. Where the names that are validated read
fields of the form, the violations are the same too, and so is what is sent. -/
theorem edit_typed_confluent {tables : TableBook} {rules : RuleBook} {messages : Catalog}
    {language : String} {config : Configuration}
    (hmake : Configuration.make tables rules messages language = .ok config)
    {name : String} (htable : config.table name = .ok t) (ht : t.Formulaic)
    {r : Record} {lookups others : Lookups} (hs : Session.edit config name r lookups = .ok s)
    (hu : Session.edit config name r others = .ok u)
    (hentries : ∀ entry ∈ entries ++ fresh, t.HasField entry.1 ∧
      ∀ k ∈ t.calculations, k.target ≠ entry.1)
    (hlast : ∀ field, lastGiven entries field = lastGiven fresh field) :
    (∀ field, t.HasField field →
      (s.run (typed entries)).values.lookup field = (u.run (typed fresh)).values.lookup field) ∧
    (t.ReadsFields s.checkedFields →
      (s.run (typed entries)).validate = (u.run (typed fresh)).validate ∧
      (s.run (typed entries)).submit = (u.run (typed fresh)).submit) := by
  obtain ⟨hentries, hfresh⟩ := List.forall_mem_append.1 hentries
  have hkept := kept_edit hmake htable ht.plain hs
  have hkept' := kept_edit hmake htable ht.plain hu
  obtain rfl : { s with lookups := others } = u :=
    Except.ok.inj ((edit_lookups hs others).symm.trans hu)
  have hinputs := sameInputs_typed hkept hkept' rfl (fun entry h => (hentries entry h).1)
    (fun entry h => (hfresh entry h).1) hlast
  have hrun := hkept.typed ht fun entry h => (hentries entry h).2
  have hrun' := hkept'.typed ht fun entry h => (hfresh entry h).2
  refine ⟨fun field hfield => lookup_eq_of_kept ht hrun hrun' hinputs hfield, fun hreads => ?_⟩
  have hform : SameForm (s.run (typed entries))
      (({ s with lookups := others } : Session).run (typed fresh)) := by
    rw [run_eq s, run_eq { s with lookups := others }]
    exact ⟨rfl, rfl, rfl, rfl⟩
  have hreads' : t.ReadsFields (s.run (typed entries)).checkedFields := by
    rw [run_eq s]
    exact hreads
  have hchecked : ∀ field ∈ (s.run (typed entries)).checkedFields,
      (s.run (typed entries)).values.lookup field =
        (({ s with lookups := others } : Session).run (typed fresh)).values.lookup field :=
    fun _ => lookup_eq_of_readsFields ht hrun hrun' hinputs hreads'
  refine ⟨validate_congr hform hchecked, submit_congr hform hchecked fun f hf => ?_⟩
  exact lookup_eq_of_kept ht hrun hrun' hinputs (hrun.table ▸ List.mem_map_of_mem hf)

/-! ## Two tables -/

open Plan (chainTable)

/-- A price is typed. -/
def directPrice : List (String × Value) := [("price", .int 3)]

/-- A price is mistyped, cleared and typed again. -/
def typedAgain : List (String × Value) :=
  [("price", .str "x"), ("price", .null), ("price", .int 3)]

/-- A price that is typed at once, and one that is mistyped and cleared before. -/
theorem edit_typed_confluent_chainTable :
    ∃ config s u, Configuration.make (.only (chainTable none)) (.requiring "orders" "TOTAL") .empty
        "en" = .ok config ∧
      config.table "orders" = .ok (chainTable none) ∧ (chainTable none).Formulaic ∧
      Session.edit config "orders" blankOrder .empty = .ok s ∧
      Session.edit config "orders" blankOrder orderItems = .ok u ∧
      (∀ entry ∈ directPrice ++ typedAgain, (chainTable none).HasField entry.1 ∧
        ∀ k ∈ (chainTable none).calculations, k.target ≠ entry.1) ∧
      (∀ field, lastGiven directPrice field = lastGiven typedAgain field) ∧
      (chainTable none).ReadsFields s.checkedFields ∧
      (∀ field, (chainTable none).HasField field →
        (s.run (typed directPrice)).values.lookup field =
          (u.run (typed typedAgain)).values.lookup field) ∧
      (s.run (typed directPrice)).validate = (u.run (typed typedAgain)).validate ∧
      (s.run (typed directPrice)).submit = (u.run (typed typedAgain)).submit := by
  obtain ⟨s, hs⟩ := exists_of_isOk
    (x := Configuration.make (.only (chainTable none)) (.requiring "orders" "TOTAL") .empty "en" >>=
      fun config => Session.edit config "orders" blankOrder .empty) (by decide +kernel)
  obtain ⟨config, hmake, hs⟩ := bind_eq_ok.1 hs
  have hu := edit_lookups hs orderItems
  have htable : config.table "orders" = .ok (chainTable none) := Configuration.table_of_only hmake
  have hformulaic : (chainTable none).Formulaic := by decide +kernel
  have hentries : ∀ entry ∈ directPrice ++ typedAgain, (chainTable none).HasField entry.1 ∧
      ∀ k ∈ (chainTable none).calculations, k.target ≠ entry.1 := by
    decide +kernel
  have hlast : ∀ field, lastGiven directPrice field = lastGiven typedAgain field := by
    intro field
    simp only [lastGiven, directPrice, typedAgain, List.reverse_cons, List.reverse_nil,
      List.nil_append, List.cons_append, Value.field?]
    split <;> rfl
  have hreads : (chainTable none).ReadsFields s.checkedFields := by
    obtain ⟨hconfig, hstored⟩ := start_eq_ok (r := some blankOrder) hs
    rw [htable] at hstored
    rw [checkedFields, hconfig, ← Except.ok.inj hstored, Configuration.rules_of_make hmake]
    exact Table.readsFields_of_ascii (by decide +kernel)
  obtain ⟨hfields, hsent⟩ := edit_typed_confluent hmake htable hformulaic hs hu hentries hlast
  exact ⟨config, s, _, hmake, htable, hformulaic, hs, hu, hentries, hlast, hreads, hfields,
    hsent hreads⟩

/-- A sum of one field, under a name that has other letters in upper case. -/
def sharpTable : Table :=
  { Table.default with
    name := "t"
    formFields := [
      { FormField.default with name := "a", kind := .number },
      { FormField.default with name := "ß", calculation := some ⟨true, "a", none, []⟩ }] }

/-- A record that spells the sum in upper case. -/
def sharpRecord : Record := .ofList [("id", .int 1), ("a", .int 5), ("SS", .int 5)]

/-- The value that the field has already. -/
def steady : List (String × Value) := [("a", .int 5)]

/-- Another value and back. -/
def detour : List (String × Value) := [("a", .int 6), ("a", .int 5)]

/-- The capital `ẞ` is looked up as `ß` and never as `SS`, though the field `ß` is. A detour writes
the sum under its own name, where the rule for `ẞ` finds it; without one it stays where it was. -/
theorem not_confluent_sharpTable :
    ∃ config s, Configuration.make (.only sharpTable) (.requiring "t" "ẞ") .empty "en" =
        .ok config ∧
      config.table "t" = .ok sharpTable ∧ sharpTable.Formulaic ∧
      Session.edit config "t" sharpRecord .empty = .ok s ∧
      (∀ entry ∈ steady ++ detour, sharpTable.HasField entry.1 ∧
        ∀ k ∈ sharpTable.calculations, k.target ≠ entry.1) ∧
      (∀ field, lastGiven steady field = lastGiven detour field) ∧
      (s.run (typed steady)).validate ≠ (s.run (typed detour)).validate := by
  obtain ⟨s, hs, hreports⟩ := exists_of_any
    (x := Configuration.make (.only sharpTable) (.requiring "t" "ẞ") .empty "en" >>=
      fun config => Session.edit config "t" sharpRecord .empty)
    (p := fun s => !(s.run (typed steady)).validate.toOption.any (·.isValid) &&
      (s.run (typed detour)).validate.toOption.any (·.isValid)) (by decide +kernel)
  obtain ⟨config, hmake, hs⟩ := bind_eq_ok.1 hs
  have htable : config.table "t" = .ok sharpTable := Configuration.table_of_only hmake
  refine ⟨config, s, hmake, htable, by decide +kernel, hs, by decide +kernel, fun field => ?_,
    fun heq => ?_⟩
  · simp only [lastGiven, steady, detour, List.reverse_cons, List.reverse_nil, List.nil_append,
      List.cons_append, Value.field?]
    split <;> rfl
  · rw [heq, Bool.not_and_self] at hreports
    cases hreports

end Session

end RecordDesk
