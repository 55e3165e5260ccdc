import RecordDesk.Proofs.Lookups
import RecordDesk.Proofs.Submission
import RecordDesk.Listing.View

/-
  Lists in capitals. Where the columns of a table are named in small letters, a list shows the same
  rows, headers and counts when the columns of its records are put in capitals, however it is
  searched and sorted (`Alike.rows`, `Alike.run`).
-/

namespace RecordDesk

open Text (InSmall)

/-- Records that a list can show alike: they read alike, and they have the same values in order. -/
structure Record.ShownAlike (r s : Record) : Prop where
  reads : Record.ReadsAlike r s
  values : s.entries.map Prod.snd = r.entries.map Prod.snd

theorem Record.shownAlike_capitalized {r : Record} (h : r.SmallColumns) :
    ShownAlike r r.capitalized where
  reads := readsAlike_capitalized h
  values := by
    rw [entries_capitalized h, List.map_map]
    rfl

namespace Listing

/-! ## Searching and sorting -/

/-- What is done to a list. -/
inductive Step
  | search (text : String)
  | sort (column : String)

/-- The list after a step. -/
def after (l : Listing) : Step → Listing
  | .search text => l.search text
  | .sort column => l.toggleSort column

/-- The list after steps one after another. -/
def run (l : Listing) (steps : List Step) : Listing := steps.foldl after l

/-- The columns of a list and what they refer to stand under names in small letters. -/
structure SmallNames (t : Table) : Prop where
  columns : ∀ c ∈ t.listColumns, InSmall c.name
  foreign : ∀ c ∈ t.listColumns, Lookups.SmallForeign c
  key : ∀ column ∈ t.primaryKey.columns, InSmall column

/-- Two lists of a table, searched and sorted alike, over records that can be shown alike. -/
structure Alike (l m : Listing) : Prop where
  table : m.table = l.table
  language : m.language = l.language
  defaultLanguage : m.defaultLanguage = l.defaultLanguage
  query : m.query = l.query
  sort : m.sort = l.sort
  sorted : ∀ s, l.sort = some s → InSmall s.column
  lookups : l.lookups.ReadsAlike m.lookups
  records : List.Forall₂ Record.ShownAlike l.records m.records

variable {l m : Listing}

theorem Alike.search (h : l.Alike m) (text : String) : (l.search text).Alike (m.search text) := by
  unfold Listing.search
  exact ⟨h.table, h.language, h.defaultLanguage, rfl, h.sort, h.sorted, h.lookups, h.records⟩

/-- A list is sorted by one of its columns. -/
theorem Alike.toggleSort (ht : SmallNames l.table) (h : l.Alike m) (column : String) :
    (l.toggleSort column).Alike (m.toggleSort column) := by
  have hsame : m.isSortable column = l.isSortable column := by
    rw [isSortable, isSortable, h.table]
  unfold Listing.toggleSort
  rw [hsame, h.sort]
  split
  · next hsortable =>
    obtain ⟨c, hc, -⟩ := (Option.any_eq_true ..).1 hsortable
    have hname : c.name = column := by simpa using List.find?_some hc
    have hsmall : InSmall column := hname ▸ ht.columns c (List.mem_of_find?_eq_some hc)
    refine ⟨h.table, h.language, h.defaultLanguage, h.query, rfl, ?_, h.lookups, h.records⟩
    rintro s hs
    obtain rfl := Option.some.inj hs
    split
    · split
      · next heq => exact heq ▸ hsmall
      · exact hsmall
    · exact hsmall
  · exact h

theorem table_after (l : Listing) (step : Step) : (l.after step).table = l.table := by
  cases step with
  | search text => rw [after, Listing.search]
  | sort column =>
    rw [after, Listing.toggleSort]
    split <;> rfl

theorem table_run (l : Listing) (steps : List Step) : (l.run steps).table = l.table :=
  List.foldlRecOn steps _ (motive := fun m : Listing => m.table = l.table) rfl
    fun m h step _ => (table_after m step).trans h

/-- Lists that can be shown alike still can after the same steps. -/
theorem Alike.run (ht : SmallNames l.table) (h : l.Alike m) (steps : List Step) :
    (l.run steps).Alike (m.run steps) := by
  induction steps generalizing l m with
  | nil => exact h
  | cons step rest ih =>
    refine ih (by rwa [table_after]) ?_
    cases step with
    | search text => exact h.search text
    | sort column => exact h.toggleSort ht column

/-! ## What is shown -/

section

variable {r s : Record}

theorem Alike.isFound (h : l.Alike m) (hr : Record.ShownAlike r s) : l.isFound r = m.isFound s := by
  -- only the values of a record are searched
  have hvalues : ∀ (n : Listing) (u : Record), n.isFound u = (n.query.isEmpty ||
      (u.entries.map Prod.snd).any fun v => Text.contains (Text.lower v.display) n.query) := by
    intro n u
    rw [List.any_map]
    rfl
  rw [hvalues, hvalues, h.query, hr.values]

theorem Alike.row (ht : SmallNames l.table) (h : l.Alike m) (hr : Record.ReadsAlike r s) :
    m.row s = l.row r := by
  have hkey : RecordKey.ofRecord s l.table.primaryKey = RecordKey.ofRecord r l.table.primaryKey :=
    RecordKey.ofRecord_congr fun column hcolumn => hr column (ht.key column hcolumn)
  have hcells : (l.table.listColumns.map fun c => c.cell m.lookups s) =
      l.table.listColumns.map fun c => c.cell l.lookups r := by
    refine List.map_congr_left fun c hc => ?_
    simp only [ListColumn.cell, hr c.name (ht.columns c hc),
      Lookups.displayFor_alike h.lookups (ht.foreign c hc)]
  rw [Listing.row, Listing.row, h.table, hkey, hcells]

theorem compareRecords_alike {sort : SortState} (hsort : InSmall sort.column) {r' s' : Record}
    (hr : Record.ReadsAlike r s) (hr' : Record.ReadsAlike r' s') :
    sort.compareRecords s s' = sort.compareRecords r r' := by
  simp only [SortState.compareRecords, SortState.sortValue?, hr sort.column hsort,
    hr' sort.column hsort]

end

/-- Sorting puts items that compare alike in the same places. -/
theorem forall₂_stableSort {α : Type} {related : α → α → Prop} {order : α → α → Ordering}
    (horder : ∀ a b c d, related a b → related c d → order b d = order a c) {xs ys : List α}
    (h : List.Forall₂ related xs ys) :
    List.Forall₂ related (stableSort order xs) (stableSort order ys) := by
  have hinsert : ∀ a b, related a b → ∀ zs ws, List.Forall₂ related zs ws →
      List.Forall₂ related (insertLast order a zs) (insertLast order b ws) := by
    intro a b hab zs ws hzs
    induction hzs with
    | nil => exact .cons hab .nil
    | cons hzw hrest ih =>
      rw [insertLast, insertLast, horder _ _ _ _ hab hzw]
      split
      · exact .cons hzw ih
      · exact .cons hab (.cons hzw hrest)
  refine List.rel_reverse (List.rel_foldl ?_ .nil h)
  exact fun zs ws hzs a b hab => hinsert a b hab zs ws hzs

theorem Alike.found (h : l.Alike m) : List.Forall₂ Record.ShownAlike l.found m.found :=
  List.rel_filter (fun _ _ hr => Bool.eq_iff_iff.1 (h.isFound hr)) h.records

theorem Alike.visible (h : l.Alike m) : List.Forall₂ Record.ShownAlike l.visible m.visible := by
  unfold Listing.visible
  rw [h.sort]
  split
  · next sort hsort =>
    exact forall₂_stableSort (fun _ _ _ _ hr hs =>
      compareRecords_alike (h.sorted sort hsort) hr.reads hs.reads) h.found
  · exact h.found

/-- The lists show the same rows. -/
theorem Alike.rows (ht : SmallNames l.table) (h : l.Alike m) : m.rows = l.rows := by
  have hrows : List.Forall₂ (· = ·) l.rows m.rows :=
    List.rel_map (fun _ _ hr => (h.row ht hr.reads).symm) h.visible
  rw [List.forall₂_eq_eq_eq] at hrows
  exact hrows.symm

theorem Alike.headers (h : l.Alike m) : m.headers = l.headers := by
  unfold Listing.headers
  rw [h.table, h.language, h.defaultLanguage]
  refine List.map_congr_left fun c _ => ?_
  rw [sortMark, sortMark, h.sort]

theorem Alike.counts (h : l.Alike m) :
    m.foundCount = l.foundCount ∧ m.totalCount = l.totalCount :=
  ⟨h.found.length_eq.symm, h.records.length_eq.symm⟩

end Listing

end RecordDesk
