import RecordDesk.Proofs.Lookups.Load
import RecordDesk.Proofs.Schema.Columns

/-
  Columns that refer to another table, in generated forms. The input of a column that names none is
  guessed from its name before the reference is looked at. So a selection of the rows of the other
  table is generated exactly if no part of the name suggests another input
  (`offersRows_iff`); the rows are loaded in any case, for the list.
-/

namespace RecordDesk.Schema

/-! ## Guessing -/

/-- A part of the name suggests an input. -/
def Hinted (name : String) : Prop :=
  ∃ hint ∈ nameHints, Text.contains (Text.lower name) hint.1 = true

instance (name : String) : Decidable (Hinted name) :=
  inferInstanceAs (Decidable (∃ hint ∈ nameHints, _))

/-- No part of a name suggests a selection. -/
theorem kind_of_hint : ∀ hint ∈ nameHints, InputKind.ofName hint.2 ≠ .select := by decide

/-- A column that refers to another table is shown as a selection unless its name suggests another
input. -/
theorem guessedInput_iff {name : String} {spec : ColumnSpec} {r : Reference}
    (href : spec.foreignKey = some r) :
    InputKind.ofName (guessedInput name spec) = .select ↔ ¬Hinted name := by
  unfold guessedInput
  split
  · next part input hfind =>
    have hmem := List.mem_of_find?_eq_some hfind
    have hcontains := List.find?_some hfind
    exact iff_of_false (kind_of_hint _ hmem) fun hnot => hnot ⟨_, hmem, hcontains⟩
  · next hfind =>
    rw [href, Option.isSome_some, if_pos rfl]
    refine iff_of_true rfl ?_
    rintro ⟨hint, hmem, hcontains⟩
    exact List.find?_eq_none.1 hfind hint hmem hcontains

theorem kind_completed {name default : String} {spec : ColumnSpec}
    (hopen : spec.ui.inputType = none) :
    (formField ⟨name, spec.completed name default⟩).kind =
      InputKind.ofName (guessedInput name { spec with sqlType := typeOrDefault spec.sqlType }) := by
  rw [kind_formField]
  simp only [ColumnSpec.completed, hopen]
  rfl

/-! ## Selections -/

/-- A form field chooses among the rows that a column refers to. -/
structure OffersRows (f : FormField) (r : Reference) : Prop where
  kind : f.kind = .select
  options : ∃ source, f.options = some source ∧ source.foreignTable? = some r.table ∧
    source.valueColumn = r.column ∧ source.displayColumn = r.displayColumn

/-- A selection that is generated of a reference chooses among the rows of its table. -/
theorem offersRows_of_kind {c : NamedColumn} {r : Reference} (href : c.spec.foreignKey = some r)
    (hkind : (formField c).kind = .select) : OffersRows (formField c) r := by
  refine ⟨hkind, choices c.spec r, ?_, rfl, rfl, rfl⟩
  rw [options_formField, if_pos hkind, href, Option.map_some]

variable {s : Schema} {time : String} {g : Generated}

/-- What is generated of a shown column that refers to another table and names no input. The rows
of the other table are loaded. The form chooses among them exactly if no part of the column's name
suggests another input; otherwise the field has no choices. -/
theorem offersRows_iff {w : Written} (hw : Document.schema w = some s)
    (h : s.generate time = .ok g) {table column : String} {spec : ColumnSpec}
    (hd : s.Describes table column spec) (hshown : spec.ui.hidden = false) {r : Reference}
    (href : spec.foreignKey = some r) (hopen : spec.ui.inputType = none) :
    ∃ t f, g.tables.tables.get? table = some t ∧ t.formField? column = some f ∧
      r.table ∈ Lookups.referenced t ∧ (OffersRows f r ↔ ¬Hinted column) ∧
      (Hinted column → f.options = none) := by
  obtain ⟨t, hget, -, hfield, hlist⟩ := table_of_describes hw h hd hshown
  have hkind : (formField ⟨column, spec.completed column s.project.defaultLanguage⟩).kind =
      .select ↔ ¬Hinted column := by
    rw [kind_completed hopen]
    exact guessedInput_iff (r := r) href
  refine ⟨t, _, hget, hfield, ?_, ?_, fun hhint => ?_⟩
  · refine Lookups.mem_referenced.2 (.inr (.inr ⟨_, List.mem_of_find?_eq_some hlist, ?_⟩))
    exact ⟨⟨r.table, r.displayColumn, r.column⟩, by simp [listColumn, ColumnSpec.completed, href],
      rfl⟩
  · rw [← hkind]
    exact ⟨fun hoffers => hoffers.kind, offersRows_of_kind href⟩
  · rw [options_formField, if_neg fun hselect => hkind.1 hselect hhint]

/-! ## Rooms of hotels -/

/-- A column that refers to hotels. -/
def hotelColumn : ColumnSpec :=
  ⟨"INT", .relaxed, .empty, .default, .empty, some ⟨"hotels", "id", "name"⟩, none, none, none⟩

/-- A table of rooms with a column that refers to hotels. -/
def rooms (column : String) : Value :=
  .obj [("columns", .obj [(column, .obj [("type", .str "INT"),
    ("foreignKey", .obj [("table", .str "hotels")])])])]

/-- The schema of the rooms. -/
def roomSchema (column : String) : Schema := ⟨defaultProject, [("rooms", rooms column)]⟩

theorem schema_rooms (column : String) :
    Document.schema (.obj [("tables", .obj [("rooms", Written.ofValue (rooms column))])]) =
      some (roomSchema column) := rfl

theorem describes_rooms (column : String) :
    (roomSchema column).Describes "rooms" column hotelColumn :=
  ⟨_, _, _, List.mem_singleton_self _, rfl, List.mem_singleton_self _, rfl⟩

/-- A room whose column is called after the guests can be put into one of the hotels. -/
theorem offersRows_guest : ∃ g t f, (roomSchema "guest_id").generate "now" = .ok g ∧
    (roomSchema "guest_id").Describes "rooms" "guest_id" hotelColumn ∧
    g.tables.tables.get? "rooms" = some t ∧ t.formField? "guest_id" = some f ∧
    "hotels" ∈ Lookups.referenced t ∧ OffersRows f ⟨"hotels", "id", "name"⟩ := by
  obtain ⟨g, hg⟩ := exists_of_isOk (x := (roomSchema "guest_id").generate "now") (by decide +kernel)
  have hd := describes_rooms "guest_id"
  obtain ⟨t, f, ht, hf, hloaded, hiff, -⟩ :=
    offersRows_iff (schema_rooms "guest_id") hg hd rfl rfl rfl
  exact ⟨g, t, f, hg, hd, ht, hf, hloaded, hiff.2 (by decide +kernel)⟩

/-- The name of a column that is called after the hotels has the part that suggests a telephone
number. -/
theorem not_offersRows_hotel : ∃ g t f,
    Document.schema (.obj [("tables", .obj [("rooms", Written.ofValue (rooms "hotel_id"))])]) =
      some (roomSchema "hotel_id") ∧
    (roomSchema "hotel_id").generate "now" = .ok g ∧
    (roomSchema "hotel_id").Describes "rooms" "hotel_id" hotelColumn ∧
    g.tables.tables.get? "rooms" = some t ∧ t.formField? "hotel_id" = some f ∧
    f.kind = .tel ∧ f.options = none := by
  obtain ⟨g, hg, hfield⟩ := exists_of_any (x := (roomSchema "hotel_id").generate "now")
    (p := fun g => (g.tables.tables.get? "rooms").any fun t =>
      (t.formField? "hotel_id").any fun f => f.kind == .tel && f.options.isNone) (by decide +kernel)
  obtain ⟨t, ht, hfield⟩ := (Option.any_eq_true _ _).1 hfield
  obtain ⟨f, hf, hfield⟩ := (Option.any_eq_true _ _).1 hfield
  obtain ⟨hkind, hoptions⟩ := Bool.and_eq_true_iff.1 hfield
  exact ⟨g, t, f, schema_rooms _, hg, describes_rooms _, ht, hf, eq_of_beq hkind,
    Option.isNone_iff_eq_none.1 hoptions⟩

end RecordDesk.Schema
