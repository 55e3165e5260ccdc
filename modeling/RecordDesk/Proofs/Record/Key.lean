import RecordDesk.Proofs.Steps
import RecordDesk.Proofs.Value.Equality
import RecordDesk.Proofs.Record.Lookup
import RecordDesk.Record.Key

/-
  Record keys. A key of several columns is taken from a record exactly if each of them has a value,
  and is found again by all of them (`exists_gather_iff`, `isIn_composite`). A key along a primary
  key that is said to be single is taken from its first column only, so keys address every key
  column exactly if the primary key is composite or lists no column beside the first
  (`addresses_iff`).
-/

namespace RecordDesk

namespace Record

/-- The column has a value that is not null. -/
def Filled (r : Record) (column : String) : Prop := ∃ v, r.lookup column = some v ∧ v ≠ .null

/-- The doubles of a record are finite, as those that are read from text are. -/
def Finite (r : Record) : Prop :=
  ∀ column x, r.lookup column = some (.float x) → Decimal.isFinite x = true

theorem finite_of_entries {r : Record}
    (h : ∀ entry ∈ r.entries, ∀ x, entry.2 = .float x → Decimal.isFinite x = true) :
    r.Finite := by
  intro column x hx
  rw [lookup_eq_or, Option.or_assoc, Option.or_eq_some_iff, Option.or_eq_some_iff] at hx
  obtain hx | ⟨-, hx | ⟨-, hx⟩⟩ := hx
  all_goals exact h _ (mem_entries_iff.2 hx) x rfl

theorem finite_of_numbers {r : Record}
    (h : ∀ entry ∈ r.entries, entry.2.number?.all Decimal.isFinite = true) : r.Finite := by
  refine finite_of_entries fun entry hentry x hx => ?_
  have hnumber := h entry hentry
  rwa [hx] at hnumber

end Record

namespace RecordKey

/-- Both records have the column, with values that agree. -/
def Alike (r s : Record) (column : String) : Prop :=
  ∃ v w, s.lookup column = some v ∧ r.lookup column = some w ∧ v.agrees w = true

variable {r s : Record}

theorem alike_self (hr : r.Finite) {column : String} (h : r.Filled column) :
    Alike r r column := by
  obtain ⟨v, hv, -⟩ := h
  refine ⟨v, v, hv, hv, Value.agrees_self fun x hx => hr column x ?_⟩
  rw [hv, hx]

theorem fetch_eq_ok {column : String} {v : Value} :
    fetch r column = .ok v ↔ r.lookup column = some v ∧ v ≠ .null := by
  unfold fetch
  split
  · next h => simp [h, eq_comm]
  · next h => simp [h]
  · next w hnull h =>
    simp only [h, Except.ok.injEq, Option.some.injEq]
    constructor
    · rintro rfl; exact ⟨rfl, fun e => hnull e⟩
    · exact fun hv => hv.1

theorem shows_iff {column : String} {w : Value} (hw : r.lookup column = some w) :
    shows s column w = true ↔ Alike r s column := by
  simp only [shows, Option.any_eq_true, Alike, hw, Option.some.injEq]
  constructor
  · rintro ⟨v, hv, hagrees⟩; exact ⟨v, w, hv, rfl, hagrees⟩
  · rintro ⟨v, _, hv, rfl, hagrees⟩; exact ⟨v, hv, hagrees⟩

/-! ## Keys of several columns -/

/-- The values of key columns can be put together exactly if each column has one. -/
theorem exists_gather_iff {columns : List String} : ∀ {values : Record},
    (∃ all, gather r values columns = .ok all) ↔ ∀ column ∈ columns, r.Filled column := by
  induction columns with
  | nil => intro values; simp [gather]
  | cons column rest ih =>
    intro values
    simp only [gather, bind_eq_ok, fetch_eq_ok, List.forall_mem_cons]
    constructor
    · rintro ⟨all, v, hv, hrest⟩; exact ⟨⟨v, hv⟩, ih.1 ⟨all, hrest⟩⟩
    · rintro ⟨⟨v, hv⟩, hrest⟩
      obtain ⟨all, hall⟩ : ∃ all, gather r (values.insert column v) rest = .ok all := ih.2 hrest
      exact ⟨all, v, hv, hall⟩

/-- What is put together holds the value of every key column beside what was there. -/
theorem get?_gather {columns : List String} : ∀ {values all : Record},
    gather r values columns = .ok all → ∀ column,
      all.get? column = if column ∈ columns then r.lookup column else values.get? column := by
  induction columns with
  | nil =>
    intro values all h column
    obtain rfl := Except.ok.inj h
    simp
  | cons first rest ih =>
    intro values all h column
    simp only [gather, bind_eq_ok, fetch_eq_ok] at h
    obtain ⟨v, ⟨hv, -⟩, hrest⟩ := h
    rw [ih hrest column, Record.get?_insert]
    by_cases hmem : column ∈ rest
    · simp [hmem]
    · by_cases hfirst : column = first
      · simp [hfirst, hv]
      · simp [hmem, hfirst]

theorem isIn_composite {columns : List String} {all : Record}
    (h : gather r .empty columns = .ok all) :
    (composite all).isIn s = true ↔ ∀ column ∈ columns, Alike r s column := by
  have hget := get?_gather h
  simp only [isIn, List.all_eq_true, Prod.forall, Record.mem_entries_iff]
  constructor
  · intro hall column hmem
    obtain ⟨w, hw, -⟩ := exists_gather_iff.1 ⟨all, h⟩ column hmem
    exact (shows_iff hw).1 (hall column w (by rw [hget, if_pos hmem, hw]))
  · intro hall column w hw
    rw [hget] at hw
    split at hw
    · next hmem => exact (shows_iff hw).2 (hall column hmem)
    · cases hw

/-! ## Keys along a primary key -/

theorem ofRecord_composite {key : PrimaryKey} (h : key.isComposite = true) {k : RecordKey} :
    ofRecord r key = .ok k ↔
      ∃ all, gather r .empty key.columns = .ok all ∧ k = .composite all := by
  rw [ofRecord, if_pos h, bind_eq_ok]
  constructor
  · rintro ⟨all, hall, heq⟩; exact ⟨all, hall, (Except.ok.inj heq).symm⟩
  · rintro ⟨all, hall, rfl⟩; exact ⟨all, hall, rfl⟩

theorem ofRecord_single {key : PrimaryKey} (h : ¬ key.isComposite = true) {column : String}
    (hcolumn : key.columns.head? = some column) {k : RecordKey} :
    ofRecord r key = .ok k ↔
      ∃ v, (r.lookup column = some v ∧ v ≠ .null) ∧ k = .single column v := by
  rw [ofRecord, if_neg h, hcolumn, Option.getD_some]
  simp only [bind_eq_ok, fetch_eq_ok]
  constructor
  · rintro ⟨v, hv, heq⟩; exact ⟨v, hv, (Except.ok.inj heq).symm⟩
  · rintro ⟨v, hv, rfl⟩; exact ⟨v, hv, rfl⟩

/-- A key is found in the record that it was taken from. -/
theorem isIn_of_ofRecord (hr : r.Finite) {key : PrimaryKey} {k : RecordKey}
    (h : ofRecord r key = .ok k) : k.isIn r = true := by
  by_cases hcomposite : key.isComposite = true
  · obtain ⟨all, hall, rfl⟩ := (ofRecord_composite hcomposite).1 h
    refine (isIn_composite hall).2 fun column hmem => ?_
    exact alike_self hr (exists_gather_iff.1 ⟨all, hall⟩ column hmem)
  · obtain ⟨column, rest, hcolumns⟩ := List.exists_cons_of_ne_nil key.columns_ne_nil
    have hhead : key.columns.head? = some column := by rw [hcolumns, List.head?_cons]
    obtain ⟨v, hv, rfl⟩ := (ofRecord_single hcomposite hhead).1 h
    exact (shows_iff hv.1).2 (alike_self hr ⟨v, hv⟩)

/-- Keys that are taken along a primary key address every one of its columns: there is a key exactly
if each column has a value, it is found in the records that agree in all of them, and so in the
record that it was taken from. -/
structure Addresses (key : PrimaryKey) : Prop where
  taken : ∀ r, (∃ k, ofRecord r key = .ok k) ↔ ∀ column ∈ key.columns, r.Filled column
  found : ∀ r s k, ofRecord r key = .ok k →
    (k.isIn s = true ↔ ∀ column ∈ key.columns, Alike r s column)
  own : ∀ r k, r.Finite → ofRecord r key = .ok k → k.isIn r = true

/-- A key that is found by all of its columns is found in its own record. -/
theorem addresses_of {key : PrimaryKey}
    (taken : ∀ r, (∃ k, ofRecord r key = .ok k) ↔ ∀ column ∈ key.columns, r.Filled column)
    (found : ∀ r s k, ofRecord r key = .ok k →
      (k.isIn s = true ↔ ∀ column ∈ key.columns, Alike r s column)) : Addresses key where
  taken := taken
  found := found
  own _ _ hr hk := isIn_of_ofRecord hr hk

theorem addresses_composite {key : PrimaryKey} (h : key.isComposite = true) : Addresses key := by
  refine addresses_of (fun r => ?_) fun r s k hk => ?_
  · rw [← exists_gather_iff]
    constructor
    · rintro ⟨k, hk⟩
      obtain ⟨all, hall, -⟩ := (ofRecord_composite h).1 hk
      exact ⟨all, hall⟩
    · rintro ⟨all, hall⟩
      exact ⟨_, (ofRecord_composite h).2 ⟨all, hall, rfl⟩⟩
  · obtain ⟨all, hall, rfl⟩ := (ofRecord_composite h).1 hk
    exact isIn_composite hall

/-- A key of one column, however often it is listed. -/
theorem addresses_single {key : PrimaryKey} (h : ¬ key.isComposite = true) {column : String}
    (hhead : key.columns.head? = some column) (hall : ∀ c ∈ key.columns, c = column) :
    Addresses key := by
  have hmem : ∀ c, c ∈ key.columns ↔ c = column :=
    fun c => ⟨hall c, fun e => e ▸ List.mem_of_mem_head? hhead⟩
  refine addresses_of (fun r => ?_) fun r s k hk => ?_
  · simp only [ofRecord_single h hhead, hmem, forall_eq]
    constructor
    · rintro ⟨_, v, hv, -⟩; exact ⟨v, hv⟩
    · rintro ⟨v, hv⟩; exact ⟨_, v, hv, rfl⟩
  · obtain ⟨v, ⟨hv, -⟩, rfl⟩ := (ofRecord_single h hhead).1 hk
    simp only [hmem, forall_eq]
    exact shows_iff hv

/-- A record with a value in one column and null in another. -/
def halfFilled (filled blank : String) : Record :=
  (Record.empty.insert filled (.int 1)).insert blank .null

theorem lookup_halfFilled {filled blank : String} (h : filled ≠ blank) :
    (halfFilled filled blank).lookup filled = some (.int 1) := by
  have hget : (halfFilled filled blank).get? filled = some (.int 1) := by
    rw [halfFilled, Record.get?_insert, if_neg h, Record.get?_insert_self]
  rw [Record.lookup, hget]

theorem not_filled_halfFilled (filled blank : String) :
    ¬ (halfFilled filled blank).Filled blank := by
  rintro ⟨v, hv, hnull⟩
  rw [halfFilled, Record.lookup_insert_self] at hv
  exact hnull (Option.some.inj hv).symm

/-- Keys address every key column exactly if the primary key is said to be composite, or lists no
column beside its first one. -/
theorem addresses_iff (key : PrimaryKey) : Addresses key ↔
    key.kind = .composite ∨ ∀ column ∈ key.listed, key.listed.head? = some column := by
  constructor
  · intro h
    by_cases hkind : key.kind = .composite
    · exact .inl hkind
    refine .inr fun blank hblank => ?_
    obtain ⟨filled, rest, hlisted⟩ := List.exists_cons_of_ne_nil (List.ne_nil_of_mem hblank)
    have hcolumns : key.columns = filled :: rest := by simp [PrimaryKey.columns, hlisted]
    rw [hlisted, List.head?_cons, Option.some.injEq]
    -- a key is taken as soon as the first column has a value
    refine Decidable.byContradiction fun hne => ?_
    have hsingle : ¬ key.isComposite = true := by simp [PrimaryKey.isComposite, hkind]
    have htaken := (ofRecord_single hsingle (by rw [hcolumns, List.head?_cons])).2
      ⟨.int 1, ⟨lookup_halfFilled hne, by simp⟩, rfl⟩
    refine not_filled_halfFilled filled blank ((h.taken _).1 ⟨_, htaken⟩ blank ?_)
    rwa [hcolumns, ← hlisted]
  · intro h
    by_cases hcomposite : key.isComposite = true
    · exact addresses_composite hcomposite
    cases hlisted : key.listed with
    | nil =>
      have hcolumns : key.columns = [key.column.getD "id"] := by
        simp [PrimaryKey.columns, hlisted]
      exact addresses_single hcomposite (by rw [hcolumns, List.head?_cons])
        fun c hc => List.mem_singleton.1 (hcolumns ▸ hc)
    | cons first rest =>
      have hcolumns : key.columns = first :: rest := by simp [PrimaryKey.columns, hlisted]
      have hkind : key.kind ≠ .composite := by
        intro hkind
        exact hcomposite (by simp [PrimaryKey.isComposite, hkind, hlisted])
      refine addresses_single hcomposite (by rw [hcolumns, List.head?_cons]) fun c hc => ?_
      have hfirst := h.resolve_left hkind c (by rwa [hlisted, ← hcolumns])
      rw [hlisted, List.head?_cons] at hfirst
      exact (Option.some.inj hfirst).symm

/-- Two key columns, listed without a kind: such a key is read as single. -/
def listedKey : PrimaryKey := ⟨.single, some "id", ["a", "b"]⟩

example : Document.primaryKey (.obj [("columns", .arr [.str "a", .str "b"])]) = some listedKey := by
  decide +kernel

/-- A record that has the first column only. -/
def firstOnly : Record := .ofList [("a", .int 1)]

/-- A key is taken although the second column has no value. -/
theorem not_taken_listedKey :
    ¬ ((∃ k, ofRecord firstOnly listedKey = .ok k) ↔
      ∀ column ∈ listedKey.columns, firstOnly.Filled column) := by
  intro h
  obtain ⟨v, hv, -⟩ := h.1 (exists_of_isOk (by decide +kernel)) "b" (by decide)
  have hmissing : (firstOnly.lookup "b").isSome = false := by decide +kernel
  rw [hv] at hmissing
  cases hmissing

end RecordKey

end RecordDesk
