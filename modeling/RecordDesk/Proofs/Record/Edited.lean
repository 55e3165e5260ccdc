import RecordDesk.Proofs.Record.Lookup
import RecordDesk.Proofs.Steps
import RecordDesk.Proofs.Text.CaseTable

/-
  Copies of records that are edited. A copy has the columns of its record, and under each name in
  lower case that is none of theirs the value of the first of them that has this name in lower case
  (`get?_forEditing`). What it so adds is found before the column in upper case that the name was
  looked up under, so a copy reads like its record exactly if the two have the same value
  (`keepsReading_iff`).
-/

namespace RecordDesk

namespace Value

theorem exists_field?_iff {fields : List (String × Value)} {name : String} :
    (∃ v, field? fields name = some v) ↔ name ∈ fields.map Prod.fst := by
  induction fields with
  | nil => exact ⟨nofun, nofun⟩
  | cons field rest ih =>
    obtain ⟨other, v⟩ := field
    rw [field?, List.map_cons, List.mem_cons]
    split
    · next heq => exact iff_of_true ⟨v, rfl⟩ (.inl heq.symm)
    · next hne => rw [ih, or_iff_right (Ne.symm hne)]

end Value

namespace Record

variable {r : Record} {column name : String} {v w : Value}

/-- The fields under their names in lower case. -/
def inSmall (entries : List (String × Value)) : List (String × Value) :=
  entries.map fun (column, v) => (Text.lower column, v)

/-- The value of the first column that has this name in lower case. -/
def firstInSmall? (r : Record) (name : String) : Option Value := Value.field? (inSmall r.entries) name

theorem get?_forEditing (r : Record) (name : String) :
    r.forEditing.get? name = (r.get? name).or (r.firstInSmall? name) := by
  refine foldl_done (motive := fun done copy => ∀ name,
    Record.get? copy name = (r.get? name).or (Value.field? (inSmall done) name)) ?_ ?_ name
  · rintro done ⟨column, v⟩ rest copy - hcopy name
    have hdone : Value.field? (inSmall (done ++ [(column, v)])) name =
        (Value.field? (inSmall done) name).or
          (if Text.lower column = name then some v else none) := by
      rw [inSmall, List.map_append, Value.field?_append]
      rfl
    rw [hdone, ← Option.or_assoc, ← hcopy name]
    dsimp only
    by_cases heq : Text.lower column = name
    · subst heq
      rw [if_pos rfl, contains]
      cases hget : copy.get? (Text.lower column) with
      | some old => exact hget
      | none => exact get?_insert_self _ _ _
    · rw [if_neg heq, Option.or_none]
      split
      · rfl
      · rw [get?_insert, if_neg (Ne.symm heq)]
  · intro name
    rw [inSmall, List.map_nil, Value.field?, Option.or_none]

/-- There is such a column exactly if the name is the lower case of one. -/
theorem exists_firstInSmall?_iff :
    (∃ v, r.firstInSmall? name = some v) ↔ name ∈ r.columns.map Text.lower := by
  rw [firstInSmall?, Value.exists_field?_iff, inSmall, columns, List.map_map, List.map_map]
  rfl

/-- What is the lower case of a column is in lower case. -/
theorem lower_eq_of_firstInSmall? (h : r.firstInSmall? name = some v) : Text.lower name = name := by
  obtain ⟨column, -, rfl⟩ := List.mem_map.1 (exists_firstInSmall?_iff.1 ⟨v, h⟩)
  exact Text.lower_lower column

/-! ## Reading -/

/-- What the column reads as in the record it reads as in the copy. -/
def KeepsReading (r : Record) (column : String) : Prop :=
  ∀ v, r.lookup column = some v → r.forEditing.lookup column = some v

/-- The first column that has this name in lower case agrees with the one in upper case, where there
are both. -/
def AgreesInUpper (r : Record) (column : String) : Prop :=
  ∀ v w, r.get? (Text.upper column) = some v → r.firstInSmall? column = some w → w = v

theorem keepsReading_of_get? (h : r.get? column = some v) : KeepsReading r column := by
  intro u hu
  have hcopy : r.forEditing.get? column = some v := by rw [get?_forEditing, h, Option.some_or]
  rw [lookup_eq_or, h, Option.some_or, Option.some_or] at hu
  rw [lookup_eq_or, hcopy, Option.some_or, Option.some_or, hu]

/-- A name that is looked up in upper case. -/
theorem keepsReading_upper_iff (hown : r.get? column = none)
    (hupper : r.get? (Text.upper column) = some v) :
    KeepsReading r column ↔ ∀ w, r.firstInSmall? column = some w → w = v := by
  have hlookup : r.lookup column = some v := by
    rw [lookup_eq_or, hown, hupper, Option.none_or, Option.some_or]
  have hcopy : r.forEditing.lookup column = (r.firstInSmall? column).or (some v) := by
    rw [lookup_eq_or, get?_forEditing, get?_forEditing, hown, hupper, Option.none_or,
      Option.some_or]
    cases r.firstInSmall? column <;> rfl
  rw [KeepsReading, hlookup, hcopy]
  cases r.firstInSmall? column <;> simp

/-- A name that is looked up in lower case, and not in upper case. The copy has no other column to
find: what it adds is in lower case. -/
theorem keepsReading_lower (hown : r.get? column = none)
    (hupper : r.get? (Text.upper column) = none) : KeepsReading r column := by
  intro v hv
  rw [lookup_eq_or, hown, hupper, Option.none_or, Option.none_or] at hv
  have hadded : r.firstInSmall? column = none := by
    refine Option.eq_none_iff_forall_ne_some.2 fun w hw => ?_
    rw [lower_eq_of_firstInSmall? hw, hown] at hv
    cases hv
  have hadded' : r.firstInSmall? (Text.upper column) = none := by
    refine Option.eq_none_iff_forall_ne_some.2 fun w hw => ?_
    rw [Text.upper_eq_self (lower_eq_of_firstInSmall? hw), hadded] at hw
    cases hw
  rw [lookup_eq_or, get?_forEditing, get?_forEditing, get?_forEditing, hown, hupper, hadded,
    hadded', hv, Option.none_or, Option.none_or, Option.none_or, Option.some_or]

/-- A copy reads like its record under a name exactly if the name is one of the columns, or the
first column that has it in lower case has the value of the one that it is in upper case. In any
case the columns keep their values, and each is there in lower case too. -/
theorem keepsReading_iff (r : Record) :
    (∀ column, KeepsReading r column ↔ column ∈ r.columns ∨ AgreesInUpper r column) ∧
      (∀ column v, r.get? column = some v → r.forEditing.get? column = some v) ∧
      ∀ column ∈ r.columns, Text.lower column ∈ r.forEditing.columns := by
  have hmem (s : Record) (column : String) :
      column ∈ s.columns ↔ ∃ v, s.get? column = some v := Value.exists_field?_iff.symm
  refine ⟨fun column => ?_, fun column v hv => ?_, fun column hcolumn => ?_⟩
  · rw [hmem]
    cases hown : r.get? column with
    | some v => exact iff_of_true (keepsReading_of_get? hown) (.inl ⟨v, rfl⟩)
    | none =>
      rw [or_iff_right (by simp), AgreesInUpper]
      cases hupper : r.get? (Text.upper column) with
      | some v =>
        rw [keepsReading_upper_iff hown hupper]
        exact ⟨fun h u w hu => Option.some.inj hu ▸ h w, fun h w => h v w rfl⟩
      | none => exact iff_of_true (keepsReading_lower hown hupper) nofun
  · rw [get?_forEditing, hv, Option.some_or]
  · obtain ⟨v, hv⟩ := exists_firstInSmall?_iff.2 (List.mem_map_of_mem hcolumn)
    rw [hmem, get?_forEditing, hv]
    cases r.get? (Text.lower column) with
    | some w => exact ⟨w, rfl⟩
    | none => exact ⟨v, rfl⟩

/-- A record with a column in capitals. -/
def capitals : Record := .ofList [("NAME", .str "Pen")]

/-- It reads like before under the name in lower case too, for now there is a column of this name. -/
theorem keepsReading_iff_capitals :
    AgreesInUpper capitals "name" ∧ KeepsReading capitals "name" ∧
      capitals.get? "NAME" = some (.str "Pen") ∧
      capitals.forEditing.get? "NAME" = some (.str "Pen") ∧
      "NAME" ∈ capitals.columns ∧ "name" ∈ capitals.forEditing.columns := by
  obtain ⟨hreads, hkeeps, hadds⟩ := keepsReading_iff capitals
  have hagrees : AgreesInUpper capitals "name" := by
    intro v w hv hw
    obtain rfl : .str "Pen" = v := Option.some.inj hv
    exact (Option.some.inj hw).symm
  have hname : capitals.get? "NAME" = some (.str "Pen") := rfl
  have hcolumn : "NAME" ∈ capitals.columns := List.mem_singleton_self _
  exact ⟨hagrees, (hreads "name").2 (.inr hagrees), hname, hkeeps _ _ hname, hcolumn,
    hadds "NAME" hcolumn⟩

/-- A record with two spellings of one column. -/
def spelledTwice : Record := .ofList [("Ab", .int 1), ("AB", .int 2)]

/-- The column is looked up in capitals, and its copy in lower case is that of the other spelling. -/
theorem not_keepsReading_spelledTwice : spelledTwice.lookup "ab" = some (.int 2) ∧
    spelledTwice.forEditing.lookup "ab" = some (.int 1) ∧ ¬ KeepsReading spelledTwice "ab" := by
  have hread : spelledTwice.lookup "ab" = some (.int 2) := by rfl
  have hcopy : spelledTwice.forEditing.lookup "ab" = some (.int 1) := by rfl
  refine ⟨hread, hcopy, fun h => ?_⟩
  have heq := (h _ hread).symm.trans hcopy
  cases heq

end Record

end RecordDesk
