import Mathlib.Data.List.Basic
import RecordDesk.Formula.Expr
import RecordDesk.Proofs.Record.Lookup
import RecordDesk.Submission

/-
  What is read of a record that is sent: its key depends on the key columns, its payload on the
  columns of the form, and nothing else counts (`ofRecord_congr`, `payload_congr`). The payload has
  a column for each field that is found in the record, in the order of the form, with the value that
  is found (`columns_payload`, `get?_payload`).
-/

namespace RecordDesk

variable {r s : Record}

namespace RecordKey

theorem fetch_congr {column : String} (h : r.lookup column = s.lookup column) :
    fetch r column = fetch s column := by
  simp only [fetch, h]

theorem gather_congr {columns : List String}
    (h : ∀ column ∈ columns, r.lookup column = s.lookup column) (values : Record) :
    gather r values columns = gather s values columns := by
  induction columns generalizing values with
  | nil => rfl
  | cons column rest ih =>
    have hrest := ih fun c hc => h c (List.mem_cons_of_mem _ hc)
    simp only [gather, fetch_congr (h column List.mem_cons_self), hrest]

/-- The key of a record depends on its key columns. -/
theorem ofRecord_congr {key : PrimaryKey}
    (h : ∀ column ∈ key.columns, r.lookup column = s.lookup column) :
    ofRecord r key = ofRecord s key := by
  obtain ⟨column, rest, hcolumns⟩ := List.exists_cons_of_ne_nil key.columns_ne_nil
  have hfirst := fetch_congr (h column (by simp [hcolumns]))
  have hall := gather_congr h .empty
  rw [hcolumns] at hall
  simp only [ofRecord, hcolumns, hall, List.head?_cons, Option.getD_some, hfirst]

end RecordKey

theorem Deletion.ofRecord_congr {t : Table}
    (h : ∀ column ∈ t.primaryKey.columns, r.lookup column = s.lookup column) :
    ofRecord t r = ofRecord t s := by
  simp only [ofRecord, RecordKey.ofRecord_congr h]

/-- The payload of a form depends on the columns of its fields. -/
theorem Submission.payload_congr {t : Table}
    (h : ∀ f ∈ t.formFields, r.lookup f.name = s.lookup f.name) : payload t r = payload t s := by
  refine congrArg Record.ofList (List.filterMap_congr fun f hf => ?_)
  rw [h f (List.mem_filter.1 hf).1]

/-! ## The columns of a payload -/

namespace Record

open Formula (distinct)

theorem columns_insert (r : Record) (column : String) (v : Value) :
    (r.insert column v).columns =
      if column ∈ r.columns then r.columns else r.columns ++ [column] :=
  Value.names_putField column v r.entries

theorem columns_foldl_insert (entries : List (String × Value)) (r : Record) :
    (entries.foldl (fun r (column, value) => r.insert column value) r).columns =
      r.columns ++ (distinct (entries.map Prod.fst)).filter (· ∉ r.columns) := by
  induction entries generalizing r with
  | nil => simp [distinct]
  | cons entry rest ih =>
    obtain ⟨column, v⟩ := entry
    rw [List.foldl_cons, ih, columns_insert, List.map_cons, distinct, List.filter_cons,
      List.filter_filter]
    by_cases hmem : column ∈ r.columns
    · rw [if_pos hmem, if_neg (by simpa using hmem)]
      congr 1
      refine List.filter_congr fun name _ => ?_
      by_cases hname : name = column
      · simp [hname, hmem]
      · simp [hname]
    · rw [if_neg hmem, if_pos (by simpa using hmem), List.append_assoc, List.singleton_append]
      congr 2
      refine List.filter_congr fun name _ => ?_
      simp [not_or, Bool.and_comm]

/-- The columns of a record that is put together are those given, each once. -/
theorem columns_ofList (entries : List (String × Value)) :
    (ofList entries).columns = distinct (entries.map Prod.fst) := by
  rw [ofList, columns_foldl_insert]
  simp [columns, empty]

end Record

namespace Value

theorem field?_eq_none {fields : List (String × Value)} {name : String}
    (h : ∀ v, (name, v) ∉ fields) : field? fields name = none := by
  induction fields with
  | nil => rfl
  | cons field rest ih =>
    obtain ⟨other, v⟩ := field
    have hne : other ≠ name := fun e => h v (e ▸ List.mem_cons_self)
    rw [field?, if_neg hne, ih fun w hw => h w (List.mem_cons_of_mem _ hw)]

/-- Where all values under a name are the same, this one is found. -/
theorem field?_eq_some {fields : List (String × Value)} {name : String} {v : Value}
    (hmem : (name, v) ∈ fields) (hall : ∀ w, (name, w) ∈ fields → w = v) :
    field? fields name = some v := by
  induction fields with
  | nil => exact absurd hmem List.not_mem_nil
  | cons field rest ih =>
    obtain ⟨other, w⟩ := field
    rw [field?]
    split
    · next heq =>
      subst heq
      rw [hall w List.mem_cons_self]
    · next hne =>
      refine ih ((List.mem_cons.1 hmem).resolve_left fun e => hne (Prod.mk.inj e).1.symm) ?_
      exact fun u hu => hall u (List.mem_cons_of_mem _ hu)

end Value

namespace Submission

variable {t : Table} {values : Record}

/-- The entries of a payload. -/
theorem mem_payload_entries {name : String} {v : Value} :
    (name, v) ∈ ((t.formFields.filter (!·.isId)).filterMap fun f =>
        (values.lookup f.name).map fun v => (f.name, v)) ↔
      (∃ f ∈ t.formFields, f.isId = false ∧ f.name = name) ∧ values.lookup name = some v := by
  simp only [List.mem_filterMap, List.mem_filter, Option.map_eq_some_iff, Prod.mk.injEq,
    Bool.not_eq_true']
  constructor
  · rintro ⟨f, ⟨hf, hid⟩, w, hw, rfl, rfl⟩
    exact ⟨⟨f, hf, hid, rfl⟩, hw⟩
  · rintro ⟨⟨f, hf, hid, rfl⟩, hv⟩
    exact ⟨f, ⟨hf, hid⟩, v, hv, rfl, rfl⟩

/-- The payload has the fields that are found, in the order of the form. -/
theorem columns_payload (t : Table) (values : Record) :
    (payload t values).columns = Formula.distinct ((t.formFields.filter fun f =>
      !f.isId && (values.lookup f.name).isSome).map (·.name)) := by
  rw [payload, Record.columns_ofList]
  congr 1
  induction t.formFields with
  | nil => rfl
  | cons f rest ih =>
    cases hid : f.isId with
    | true => simp [hid, ih]
    | false => cases hv : values.lookup f.name <;> simp [hid, hv, ih]

/-- The payload holds for a field what is found under its name. -/
theorem get?_payload {f : FormField} (hf : f ∈ t.formFields) (hid : f.isId = false) :
    (payload t values).get? f.name = values.lookup f.name := by
  rw [payload, Record.ofList, Record.get?_foldl_insert, Record.get?_empty, Option.or_none]
  cases hv : values.lookup f.name with
  | none =>
    refine Value.field?_eq_none fun v hmem => ?_
    rw [List.mem_reverse, mem_payload_entries, hv] at hmem
    cases hmem.2
  | some v =>
    refine Value.field?_eq_some ?_ fun w hmem => ?_
    · exact List.mem_reverse.2 (mem_payload_entries.2 ⟨⟨f, hf, hid, rfl⟩, hv⟩)
    · rw [List.mem_reverse, mem_payload_entries, hv] at hmem
      exact (Option.some.inj hmem.2).symm

end Submission

end RecordDesk
