import Mathlib.Data.List.Forall2
import RecordDesk.Proofs.Dict
import RecordDesk.Proofs.Record.Case
import RecordDesk.Lookups

/-
  Lookups in capitals. Rows that read alike, one by one, are found for the same values
  (`rowFor?_alike`) and give the same choices and texts (`offers_alike`, `displayFor_alike`). Rows
  in capitals read like those in small letters (`readsAlike_capitalized`).
-/

namespace RecordDesk

open Text (InSmall)

namespace Lookups

/-- The rows of every table read alike, one by one. -/
def ReadsAlike (l m : Lookups) : Prop :=
  ∀ table, List.Forall₂ Record.ReadsAlike (l.rows table) (m.rows table)

/-- All columns of all rows are in small letters. -/
def SmallColumns (l : Lookups) : Prop := ∀ table, ∀ row ∈ l.rows table, row.SmallColumns

/-- The rows with their columns in capitals. -/
def capitalized (l : Lookups) : Lookups := ⟨l.tables.map fun _ rows => rows.map Record.capitalized⟩

theorem rows_capitalized (l : Lookups) (table : String) :
    l.capitalized.rows table = (l.rows table).map Record.capitalized := by
  rw [rows, capitalized, Dict.get?_map, rows]
  cases l.tables.get? table <;> rfl

/-- Rows in capitals read like those in small letters. -/
theorem readsAlike_capitalized {l : Lookups} (h : l.SmallColumns) : ReadsAlike l l.capitalized := by
  intro table
  rw [rows_capitalized, List.forall₂_map_right_iff, List.forall₂_same]
  exact fun row hrow => Record.readsAlike_capitalized (h table row hrow)

/-! ## Rows -/

section

variable {r s : Record} {column : String}

theorem small_id : InSmall "id" := by decide

theorem keyValue?_alike (h : Record.ReadsAlike r s) (hcolumn : InSmall column) :
    keyValue? s column = keyValue? r column := by
  simp only [keyValue?, h column hcolumn, h "id" small_id]

theorem offeredValue?_alike (h : Record.ReadsAlike r s) (hcolumn : InSmall column) :
    offeredValue? s column = offeredValue? r column := by
  simp only [offeredValue?, h column hcolumn, h "id" small_id]

theorem offerOfRow?_alike (h : Record.ReadsAlike r s) (hcolumn : InSmall column) {display : String}
    (hdisplay : InSmall display) : offerOfRow? s column display = offerOfRow? r column display := by
  simp only [offerOfRow?, offeredValue?_alike h hcolumn, h display hdisplay]

end

/-! ## Finding and choosing -/

theorem find?_alike {rows others : List Record} (h : List.Forall₂ Record.ReadsAlike rows others)
    {p : Record → Bool} (hp : ∀ r s, Record.ReadsAlike r s → p s = p r) :
    Option.Rel Record.ReadsAlike (rows.find? p) (others.find? p) := by
  induction h with
  | nil => exact .none
  | cons hrow _ ih =>
    rw [List.find?_cons, List.find?_cons, hp _ _ hrow]
    split
    · exact .some hrow
    · exact ih

theorem filterMap_alike {α : Type} {rows others : List Record}
    (h : List.Forall₂ Record.ReadsAlike rows others) {f : Record → Option α}
    (hf : ∀ r s, Record.ReadsAlike r s → f s = f r) : others.filterMap f = rows.filterMap f := by
  induction h with
  | nil => rfl
  | cons hrow _ ih => rw [List.filterMap_cons, List.filterMap_cons, hf _ _ hrow, ih]

variable {l m : Lookups}

/-- For the same value the same row is found, or one that reads alike. -/
theorem rowFor?_alike (h : ReadsAlike l m) {column : String} (hcolumn : InSmall column)
    (table : String) (v : Value) :
    Option.Rel Record.ReadsAlike (l.rowFor? table column v) (m.rowFor? table column v) :=
  find?_alike (h table) fun _ _ hrow => by rw [keyValue?_alike hrow hcolumn]

/-- A field whose choices are rows looks under names in small letters. -/
def SmallChoices (f : FormField) : Prop :=
  ∀ source ∈ f.options, source.foreignTable?.isSome = true →
    InSmall source.valueColumn ∧ InSmall source.displayColumn

instance (f : FormField) : Decidable (SmallChoices f) :=
  inferInstanceAs (Decidable (∀ source ∈ f.options, _))

theorem offers_alike (h : ReadsAlike l m) {f : FormField} (hf : SmallChoices f)
    (language default : String) : m.offers f language default = l.offers f language default := by
  unfold offers
  split
  · rfl
  · next source hsource =>
    split
    · next table htable =>
      obtain ⟨hvalue, hdisplay⟩ := hf source hsource (htable ▸ rfl)
      exact filterMap_alike (h table) fun r s hrow => offerOfRow?_alike hrow hvalue hdisplay
    · rfl

/-- A column whose cells refer to rows looks under names in small letters. -/
def SmallForeign (c : ListColumn) : Prop :=
  ∀ foreign ∈ c.foreignKey, InSmall foreign.valueColumn ∧ InSmall foreign.displayColumn

instance (c : ListColumn) : Decidable (SmallForeign c) :=
  inferInstanceAs (Decidable (∀ foreign ∈ c.foreignKey, _))

theorem displayFor_alike (h : ReadsAlike l m) {c : ListColumn} (hc : SmallForeign c) (v : Value) :
    m.displayFor c v = l.displayFor c v := by
  unfold displayFor
  split
  · rfl
  · next foreign hforeign =>
    obtain ⟨hvalue, hdisplay⟩ := hc foreign hforeign
    have hrow := rowFor?_alike h hvalue foreign.table v
    generalize l.rowFor? foreign.table foreign.valueColumn v = row at hrow
    generalize m.rowFor? foreign.table foreign.valueColumn v = other at hrow
    cases hrow with
    | none => rfl
    | some hrow => simp only [hrow foreign.displayColumn hdisplay]

end Lookups

end RecordDesk
