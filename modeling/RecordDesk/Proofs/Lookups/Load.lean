import RecordDesk.Proofs.Dict
import RecordDesk.Proofs.Derive.Order
import RecordDesk.Derive.Changes
import RecordDesk.Listing.View
import RecordDesk.Proofs.Source.Memory

/-
  Loading lookups. The tables that a definition refers to are asked for, each once, and a table that
  fails counts as empty (`load_eq`, `get?_load`). Choices, cells, rows and changes read no other
  table (`Serves.of_rows`), so what is loaded serves as well as the rows of all tables of the source
  (`load_serves`).
-/

namespace RecordDesk

/-- One table takes choices, values or texts from another. -/
def Table.RefersTo (t : Table) (table : String) : Prop :=
  (∃ f ∈ t.formFields, ∃ source ∈ f.options, source.foreignTable? = some table) ∨
    (∃ f ∈ t.formFields, ∃ a ∈ f.autofill, a.enabled = true ∧ a.sourceTable = table) ∨
    ∃ c ∈ t.listColumns, ∃ foreign ∈ c.foreignKey, foreign.table = table

/-! ## What a source answers -/

/-- The rows that an answer brings; a table that fails counts as empty. -/
def answeredRows (answer : Except Error (List Record)) : List Record := answer.toOption.getD []

namespace RecordSource

variable {σ : Type}

/-- The state of a source that was asked for the rows of tables. -/
def afterAsking (source : RecordSource (StateM σ)) (s : σ) (asked : List String) : σ :=
  asked.foldl (fun s table => (source.findAll table s).2) s

/-- From this state on the source has one answer for each table, whatever it was asked before. -/
def Answers (source : RecordSource (StateM σ)) (s : σ)
    (answer : String → Except Error (List Record)) : Prop :=
  ∀ asked table, (source.findAll table (source.afterAsking s asked)).1 = answer table

end RecordSource

namespace Memory

/-- A memory is not changed by questions. -/
theorem afterAsking_records (s : Memory) (asked : List String) :
    records.afterAsking s asked = s := by
  induction asked with
  | nil => rfl
  | cons table rest ih => exact ih

theorem answers_records (s : Memory) : records.Answers s s.findAll := by
  intro asked table
  rw [afterAsking_records]
  rfl

/-- The rows of all tables; those of a failing table are left out. -/
def lookups (s : Memory) : Lookups :=
  ⟨s.tables.map fun table rows => if table ∈ s.failing then [] else rows⟩

theorem rows_lookups (s : Memory) (table : String) :
    s.lookups.rows table = answeredRows (s.findAll table) := by
  rw [lookups, Lookups.rows, Dict.get?_map]
  by_cases hfails : table ∈ s.failing
  · have hanswer : s.findAll table =
        .error (.source ("table '" ++ table ++ "' unavailable") true) := by
      rw [findAll, check_of_fails hfails]
      rfl
    simp only [hanswer, hfails, if_true]
    cases s.tables.get? table <;> rfl
  · have hanswer : s.findAll table = .ok (s.rows table) := by
      rw [findAll, check_of_works hfails]
      rfl
    simp only [hanswer, hfails, if_false, Option.map_id']
    rfl

end Memory

namespace Lookups

/-! ## The tables that are loaded -/

theorem mem_mentioned {t : Table} {table : String} : table ∈ mentioned t ↔ t.RefersTo table := by
  simp only [mentioned, List.mem_append, List.mem_flatMap, List.mem_filterMap, Option.mem_toList,
    Option.mem_def, Option.bind_eq_some_iff, Option.map_eq_some_iff, Option.filter_eq_some_iff,
    Table.RefersTo]
  constructor
  · rintro (⟨f, hf, hsource | ⟨a, ⟨ha, henabled⟩, htable⟩⟩ | hcolumn)
    · exact .inl ⟨f, hf, hsource⟩
    · exact .inr (.inl ⟨f, hf, a, ha, henabled, htable⟩)
    · exact .inr (.inr hcolumn)
  · rintro (⟨f, hf, hsource⟩ | ⟨f, hf, a, ha, henabled, htable⟩ | hcolumn)
    · exact .inl ⟨f, hf, .inl hsource⟩
    · exact .inl ⟨f, hf, .inr ⟨a, ⟨ha, henabled⟩, htable⟩⟩
    · exact .inr hcolumn

/-- The referenced tables are those that the definition refers to. -/
theorem mem_referenced {t : Table} {table : String} :
    table ∈ referenced t ↔ t.RefersTo table := by
  rw [referenced, Dict.keys, ← Dict.exists_get?, Dict.exists_get?_ofList, List.map_map,
    ← mem_mentioned]
  simp

/-! ## Loading -/

/-- Lookups with the rows of tables put in one after another. -/
def gathered (rows : String → List Record) (l : Lookups) (tables : List String) : Lookups :=
  tables.foldl (fun l table => l.insert table (rows table)) l

theorem get?_gathered (rows : String → List Record) (l : Lookups) (tables : List String)
    (table : String) : (gathered rows l tables).tables.get? table =
      if table ∈ tables then some (rows table) else l.tables.get? table := by
  induction tables generalizing l with
  | nil => simp [gathered]
  | cons first rest ih =>
    have hstep : gathered rows l (first :: rest) =
        gathered rows (l.insert first (rows first)) rest := rfl
    rw [hstep, ih, insert, Dict.get?_insert]
    by_cases hrest : table ∈ rest
    · simp [hrest]
    · by_cases hfirst : table = first <;> simp [hrest, hfirst]

variable {σ : Type} {source : RecordSource (StateM σ)} {s : σ}
  {answer : String → Except Error (List Record)} {t : Table}

/-- One table is asked for, and its rows are put in. -/
def loadTable (findAll : String → StateM σ (Except Error (List Record))) (l : Lookups)
    (table : String) : StateM σ Lookups := do
  match ← findAll table with
  | .ok rows => return l.insert table rows
  | .error _ => return l.insert table []

theorem loadTable_eq (findAll : String → StateM σ (Except Error (List Record))) (l : Lookups)
    (table : String) (s : σ) : loadTable findAll l table s =
      (l.insert table (answeredRows (findAll table s).1), (findAll table s).2) := by
  simp only [loadTable, bind, StateT.bind]
  obtain ⟨_ | _, _⟩ := findAll table s <;> rfl

/-- The source is asked for the referenced tables one after another, and each answer is put in under
the name of its own table. -/
theorem load_eq (hanswers : source.Answers s answer) (t : Table) :
    load source.findAll t s = (gathered (fun table => answeredRows (answer table)) empty
      (referenced t), source.afterAsking s (referenced t)) := by
  -- the tables that are still to come are asked in the state that the others have left
  have upto : ∀ rest asked l,
      (rest.foldlM (loadTable source.findAll) l) (source.afterAsking s asked) =
      (gathered (fun table => answeredRows (answer table)) l rest,
        source.afterAsking s (asked ++ rest)) := by
    intro rest
    induction rest with
    | nil => intro asked l; rw [List.append_nil]; rfl
    | cons table rest ih =>
      intro asked l
      have hnext : source.afterAsking s (asked ++ [table]) =
          (source.findAll table (source.afterAsking s asked)).2 := by
        rw [RecordSource.afterAsking, List.foldl_append]
        rfl
      have hrest := ih (asked ++ [table]) (l.insert table (answeredRows (answer table)))
      rw [hnext, List.append_assoc, List.singleton_append] at hrest
      rw [List.foldlM_cons]
      simp only [bind, StateT.bind, loadTable_eq, hanswers asked table]
      exact hrest
  exact upto (referenced t) [] empty

/-- Lookups are loaded from a memory without changing it. -/
theorem load_records (t : Table) (s : Memory) : (load Memory.records.findAll t s).2 = s := by
  rw [load_eq s.answers_records, Memory.afterAsking_records]

theorem get?_load (hanswers : source.Answers s answer) (t : Table) (table : String) :
    (load source.findAll t s).1.tables.get? table =
      if table ∈ referenced t then some (answeredRows (answer table)) else none := by
  rw [load_eq hanswers, get?_gathered]
  rfl

/-- Exactly the tables that the definition refers to are there. -/
theorem contains_load_iff (hanswers : source.Answers s answer) (t : Table) (table : String) :
    (load source.findAll t s).1.contains table = true ↔ t.RefersTo table := by
  rw [contains, Dict.contains, get?_load hanswers, ← mem_referenced]
  split
  · next hmem => exact iff_of_true rfl hmem
  · next hmem => exact iff_of_false Bool.noConfusion hmem

/-- Each of them has the rows that were answered for it. -/
theorem rows_load (hanswers : source.Answers s answer) {table : String} (h : t.RefersTo table) :
    (load source.findAll t s).1.rows table = answeredRows (answer table) := by
  rw [rows, get?_load hanswers, if_pos (mem_referenced.2 h)]
  rfl

/-! ## What is read of lookups -/

variable {l m : Lookups}

theorem rowFor?_congr {table : String} (h : l.rows table = m.rows table) (column : String)
    (v : Value) : l.rowFor? table column v = m.rowFor? table column v := by
  rw [rowFor?, rowFor?, h]

theorem offers_congr {f : FormField}
    (h : ∀ source ∈ f.options, ∀ table ∈ source.foreignTable?, l.rows table = m.rows table)
    (language default : String) : l.offers f language default = m.offers f language default := by
  unfold offers
  split
  · rfl
  · next source hsource =>
    split
    · next table htable => rw [h source hsource table htable]
    · rfl

theorem displayFor_congr {c : ListColumn}
    (h : ∀ foreign ∈ c.foreignKey, l.rows foreign.table = m.rows foreign.table) (v : Value) :
    l.displayFor c v = m.displayFor c v := by
  unfold displayFor
  split
  · rfl
  · next foreign hforeign => rw [rowFor?_congr (h foreign hforeign)]

end Lookups

theorem Listing.rows_congr {t : Table} {l m : Lookups}
    (h : ∀ c ∈ t.listColumns, ∀ v, l.displayFor c v = m.displayFor c v)
    (language default : String) (records : List Record) (query : String) (sort : Option SortState) :
    (Listing.mk t l language default records query sort).rows =
      (Listing.mk t m language default records query sort).rows := by
  -- the lookups count for the cells only: what is shown, and in which order, is the same
  refine List.map_congr_left fun r _ => congrArg (Row.mk _) (List.map_congr_left fun c hc => ?_)
  simp only [ListColumn.cell, h c hc]

namespace Plan

variable {p : Plan} {l m : Lookups}

theorem filledValues_congr {s : Selector}
    (h : l.rows s.autofill.sourceTable = m.rows s.autofill.sourceTable) (working : Record) :
    filledValues s working l = filledValues s working m := by
  simp only [filledValues, Lookups.rowFor?_congr h]

theorem applyChange_congr
    (h : ∀ s ∈ p.selectors, l.rows s.autofill.sourceTable = m.rows s.autofill.sourceTable)
    (values : Record) (field : String) :
    p.applyChange values field l = p.applyChange values field m := by
  have hturn : turn p field l = turn p field m := by
    funext spread name
    have hfill : ∀ s ∈ p.selectors.filter (·.field == name), ∀ spread,
        fillFrom l spread s = fillFrom m spread s := fun s hs spread => by
      rw [fillFrom, filledValues_congr (h s (List.mem_filter.1 hs).1), fillFrom]
    simp only [turn]
    split
    · exact List.foldl_ext _ _ _ fun spread s hs => hfill s hs spread
    · rfl
  rw [applyChange, hturn, applyChange]

end Plan

namespace Lookups

/-! ## What is loaded is enough -/

/-- Some lookups serve a table as others do: the same choices, texts of cells, rows of lists and
changes come from them. -/
structure Serves (t : Table) (p : Plan) (l m : Lookups) : Prop where
  offers : ∀ f ∈ t.formFields, ∀ language default,
    l.offers f language default = m.offers f language default
  displayFor : ∀ c ∈ t.listColumns, ∀ v, l.displayFor c v = m.displayFor c v
  rows : ∀ language default records query sort,
    (Listing.mk t l language default records query sort).rows =
      (Listing.mk t m language default records query sort).rows
  changes : ∀ values field, p.applyChange values field l = p.applyChange values field m

/-- Lookups that have the same rows of the tables that a definition refers to serve it alike. -/
theorem Serves.of_rows {t : Table} {p : Plan} (hp : Plan.ofTable t = .ok p) {l m : Lookups}
    (h : ∀ table, t.RefersTo table → l.rows table = m.rows table) : Serves t p l m := by
  have hdisplay : ∀ c ∈ t.listColumns, ∀ v, l.displayFor c v = m.displayFor c v :=
    fun c hc => displayFor_congr fun foreign hforeign =>
      h _ (.inr (.inr ⟨c, hc, foreign, hforeign, rfl⟩))
  refine ⟨fun f hf => ?_, hdisplay, Listing.rows_congr hdisplay, Plan.applyChange_congr ?_⟩
  · exact offers_congr fun source hsource table htable =>
      h _ (.inl ⟨f, hf, source, hsource, htable⟩)
  · intro s hs
    rw [(Plan.follows_of_ofTable hp).selectors] at hs
    obtain ⟨f, hf, hfs⟩ := List.mem_filterMap.1 hs
    obtain ⟨a, ha, rfl⟩ := Option.map_eq_some_iff.1 hfs
    obtain ⟨ha, henabled⟩ := Option.filter_eq_some_iff.1 ha
    exact h _ (.inr (.inl ⟨f, hf, a, ha, henabled, rfl⟩))

/-- Of a source, the tables are loaded that a definition refers to and no others, each with its own
rows, whichever of them fail; and what is loaded serves the definition as well as lookups with all
rows of the source. -/
theorem load_serves {σ : Type} {source : RecordSource (StateM σ)} {s : σ}
    {answer : String → Except Error (List Record)} (hanswers : source.Answers s answer) {t : Table}
    {p : Plan} (hp : Plan.ofTable t = .ok p) {all : Lookups}
    (hall : ∀ table, all.rows table = answeredRows (answer table)) :
    (∀ table, (load source.findAll t s).1.contains table = true ↔ t.RefersTo table) ∧
      (∀ table, t.RefersTo table → (load source.findAll t s).1.rows table = all.rows table) ∧
      Serves t p (load source.findAll t s).1 all := by
  have hrows : ∀ table, t.RefersTo table →
      (load source.findAll t s).1.rows table = all.rows table :=
    fun table htable => (rows_load hanswers htable).trans (hall table).symm
  exact ⟨contains_load_iff hanswers t, hrows, .of_rows hp hrows⟩

/-! ## Orders of items -/

/-- Orders take their items from one table, with the price of the item, and show suppliers of
another one. -/
def purchaseTable : Table :=
  { Table.default with
    name := "purchases"
    formFields := [
      { FormField.default with
        name := "item", kind := .select, options := some (.foreignKey "items" "id" "name")
        autofill := some ⟨true, "items", "id", [⟨"price", "price"⟩]⟩ },
      { FormField.default with name := "price", kind := .number }]
    listColumns := [
      { ListColumn.default with
        name := "supplier", foreignKey := some ⟨"suppliers", "name", "id"⟩ }] }

/-- Items, suppliers that cannot be read, and notes that nothing refers to. -/
def purchaseMemory : Memory :=
  let item : Record := .ofList [("id", .int 1), ("name", .str "Pen"), ("price", .int 4)]
  let memory := (Memory.empty.setRows "items" [item]).setRows "notes" [.ofList [("id", .int 1)]]
  memory.failTable "suppliers"

/-- Items and suppliers are loaded, though the suppliers fail; notes are not. -/
theorem load_serves_purchaseTable :
    ∃ p, Plan.ofTable purchaseTable = .ok p ∧
      Memory.records.Answers purchaseMemory purchaseMemory.findAll ∧
      (∀ table, purchaseMemory.lookups.rows table =
        answeredRows (purchaseMemory.findAll table)) ∧
      purchaseTable.RefersTo "suppliers" ∧ ¬ purchaseTable.RefersTo "notes" ∧
      Serves purchaseTable p (load Memory.records.findAll purchaseTable purchaseMemory).1
        purchaseMemory.lookups := by
  obtain ⟨p, hp⟩ := exists_of_isOk (x := Plan.ofTable purchaseTable) (by decide +kernel)
  have hanswers := purchaseMemory.answers_records
  have hall := purchaseMemory.rows_lookups
  obtain ⟨hcontains, -, hserves⟩ := load_serves hanswers hp hall
  refine ⟨p, hp, hanswers, hall, ?_, ?_, hserves⟩
  · rw [← hcontains]; decide +kernel
  · rw [← hcontains]; decide +kernel

end Lookups

end RecordDesk
