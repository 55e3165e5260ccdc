import RecordDesk.Record.Basic

/-
  Looking up what was written. A column that was just written is found under its own name, and
  another one is found as before (`lookup_insert_self`, `lookup_insert_apart`), unless the written
  name is one of the three that it is looked up under. Of several values written to a column the
  last one stays (`get?_foldl_insert`, `lookup_foldl_insert`).
-/

namespace RecordDesk

/-- A name is looked up under itself, in upper case and in lower case, and the written name is none
of these. -/
structure Apart (name written : String) : Prop where
  self : written ≠ name
  upper : written ≠ Text.upper name
  lower : written ≠ Text.lower name

namespace Value

theorem field?_append (fields others : List (String × Value)) (name : String) :
    field? (fields ++ others) name = (field? fields name).or (field? others name) := by
  induction fields with
  | nil => rfl
  | cons field rest ih =>
    obtain ⟨other, v⟩ := field
    rw [List.cons_append, field?, field?, ih]
    split <;> rfl

end Value

namespace Record

theorem mem_entries_iff {r : Record} {column : String} {v : Value} :
    (column, v) ∈ r.entries ↔ r.get? column = some v := by
  obtain ⟨entries, hnd⟩ := r
  change (column, v) ∈ entries ↔ Value.field? entries column = some v
  induction entries with
  | nil => simp [Value.field?]
  | cons entry rest ih =>
    obtain ⟨other, old⟩ := entry
    obtain ⟨hnew, hrest⟩ := List.nodup_cons.1 hnd
    rw [Value.field?, List.mem_cons, Prod.mk.injEq, ih hrest]
    split
    · next heq =>
      subst heq
      constructor
      · rintro (⟨-, rfl⟩ | hv)
        · rfl
        · exact absurd (List.mem_map.2 ⟨_, (ih hrest).2 hv, rfl⟩) hnew
      · intro hv; exact .inl ⟨rfl, (Option.some.inj hv).symm⟩
    · next hne =>
      constructor
      · rintro (⟨rfl, -⟩ | hv)
        · exact absurd rfl hne
        · exact hv
      · exact .inr

theorem get?_eq_none {r : Record} {column : String} (h : column ∉ r.columns) :
    r.get? column = none :=
  Option.eq_none_iff_forall_ne_some.2 fun _ hv => h (List.mem_map_of_mem (mem_entries_iff.2 hv))

theorem lookup_eq_or (r : Record) (column : String) :
    r.lookup column =
      ((r.get? column).or (r.get? (Text.upper column))).or (r.get? (Text.lower column)) := by
  unfold lookup
  cases r.get? column with
  | some v => rfl
  | none => cases r.get? (Text.upper column) <;> rfl

/-- A column that is written several times holds the last value; one that is not written holds what
it held. -/
theorem get?_foldl_insert (entries : List (String × Value)) (r : Record) (column : String) :
    (entries.foldl (fun r (column, value) => r.insert column value) r).get? column =
      (Value.field? entries.reverse column).or (r.get? column) := by
  induction entries generalizing r with
  | nil => rfl
  | cons entry rest ih =>
    obtain ⟨written, v⟩ := entry
    rw [List.foldl_cons, ih, get?_insert, List.reverse_cons, Value.field?_append, Option.or_assoc]
    by_cases h : column = written
    · simp [Value.field?, h]
    · simp [Value.field?, h, Ne.symm h]

theorem lookup_insert_self (r : Record) (name : String) (v : Value) :
    (r.insert name v).lookup name = some v := by
  rw [lookup, get?_insert_self]

theorem lookup_insert_apart {name written : String} (h : Apart name written) (r : Record)
    (v : Value) : (r.insert written v).lookup name = r.lookup name := by
  simp only [lookup, get?_insert, if_neg h.self.symm, if_neg h.upper.symm, if_neg h.lower.symm]

/-- A name is looked up as the last value that was written to it, or as before if there is none,
where everything else that was written is apart from it. -/
theorem lookup_foldl_insert {entries : List (String × Value)} {name : String}
    (h : ∀ entry ∈ entries, entry.1 = name ∨ Apart name entry.1) (r : Record) :
    (entries.foldl (fun r (column, value) => r.insert column value) r).lookup name =
      (Value.field? entries.reverse name).or (r.lookup name) := by
  induction entries generalizing r with
  | nil => rfl
  | cons entry rest ih =>
    obtain ⟨written, v⟩ := entry
    rw [List.foldl_cons, ih (fun entry hentry => h entry (List.mem_cons_of_mem _ hentry)),
      List.reverse_cons, Value.field?_append, Option.or_assoc]
    congr 1
    rcases h (written, v) List.mem_cons_self with heq | hapart
    · dsimp only at heq
      subst heq
      rw [lookup_insert_self, Value.field?, if_pos rfl, Option.some_or]
    · rw [lookup_insert_apart hapart, Value.field?, if_neg hapart.self]
      rfl

/-- The records read alike wherever the field is not looked up. -/
def AlikeBeside (field : String) (r s : Record) : Prop :=
  ∀ name, Apart name field → s.lookup name = r.lookup name

theorem alikeBeside_insert (r : Record) (field : String) (v : Value) :
    AlikeBeside field r (r.insert field v) :=
  fun _ h => lookup_insert_apart h r v

end Record

end RecordDesk
