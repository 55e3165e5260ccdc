import RecordDesk.Value.Reading
import RecordDesk.Text.Case
import RecordDesk.Error

/-
  Records: the columns of one row, each with a value, in the order in which they were put in.
  Sources may spell column names in capitals, so a column is looked up under its own name first,
  then in upper case, then in lower case.
-/

namespace RecordDesk

/-- The columns of one row. No name stands twice. -/
structure Record where
  entries : List (String × Value)
  nodup : (entries.map Prod.fst).Nodup

namespace Value

/-- Putting a field in keeps the names, or adds the new one at the end. -/
theorem names_putField (name : String) (v : Value) (fields : List (String × Value)) :
    (putField name v fields).map Prod.fst =
      if name ∈ fields.map Prod.fst then fields.map Prod.fst
      else fields.map Prod.fst ++ [name] := by
  induction fields with
  | nil => simp [putField]
  | cons field rest ih =>
    obtain ⟨other, old⟩ := field
    by_cases h : other = name
    · subst h; simp [putField]
    · have h' : name ≠ other := fun e => h e.symm
      simp only [putField, if_neg h, List.map_cons, ih, List.mem_cons, h', false_or]
      split <;> simp

theorem nodup_putField (name : String) (v : Value) {fields : List (String × Value)}
    (h : (fields.map Prod.fst).Nodup) : ((putField name v fields).map Prod.fst).Nodup := by
  rw [names_putField]
  split
  · exact h
  · next hn => exact List.nodup_append.2 ⟨h, by simp, by
      intro a ha b hb e
      simp at hb
      exact hn (hb ▸ e ▸ ha)⟩

theorem putField_of_not_mem {name : String} {fields : List (String × Value)}
    (h : name ∉ fields.map Prod.fst) (v : Value) :
    putField name v fields = fields ++ [(name, v)] := by
  induction fields with
  | nil => rfl
  | cons field rest ih =>
    obtain ⟨other, old⟩ := field
    obtain ⟨hne, hrest⟩ := not_or.1 fun hmem => h (List.mem_cons.2 hmem)
    rw [putField, if_neg fun e => hne e.symm, ih hrest, List.cons_append]

theorem mem_putField {name : String} {v : Value} {fields : List (String × Value)}
    {field : String × Value} (h : field ∈ putField name v fields) :
    field = (name, v) ∨ field ∈ fields := by
  induction fields with
  | nil => exact .inl (List.mem_singleton.1 h)
  | cons head rest ih =>
    obtain ⟨other, old⟩ := head
    rw [putField] at h
    split at h
    · exact (List.mem_cons.1 h).imp id (List.mem_cons_of_mem _)
    · rcases List.mem_cons.1 h with rfl | h
      · exact .inr List.mem_cons_self
      · exact (ih h).imp id (List.mem_cons_of_mem _)

theorem field?_putField (name : String) (v : Value) (fields : List (String × Value))
    (other : String) :
    field? (putField name v fields) other =
      if other = name then some v else field? fields other := by
  induction fields with
  | nil => simp [putField, field?, eq_comm]
  | cons field rest ih =>
    obtain ⟨c, old⟩ := field
    by_cases h : c = name
    · subst h
      by_cases h' : c = other
      · simp [putField, field?, h']
      · simp [putField, field?, h', Ne.symm h']
    · by_cases h' : c = other
      · subst h'; simp [putField, h, field?]
      · simp [putField, h, field?, h', ih]

end Value

namespace Record

/-- The record without columns. -/
def empty : Record := ⟨[], by simp⟩

instance : Inhabited Record := ⟨empty⟩

/-- The value of a column under exactly this name. -/
def get? (r : Record) (column : String) : Option Value := Value.field? r.entries column

/-- There is a column of exactly this name. -/
def contains (r : Record) (column : String) : Bool := (r.get? column).isSome

/-- The column names in order. -/
def columns (r : Record) : List String := r.entries.map Prod.fst

/-- Puts a value under a column: an existing column keeps its place, a new one comes last. -/
def insert (r : Record) (column : String) (value : Value) : Record :=
  ⟨Value.putField column value r.entries, Value.nodup_putField column value r.nodup⟩

/-- The columns put in one after another. -/
def ofList (entries : List (String × Value)) : Record :=
  entries.foldl (fun r (column, value) => r.insert column value) empty

/-- The record as an object. -/
def toValue (r : Record) : Value := .obj r.entries

@[simp] theorem get?_empty (column : String) : empty.get? column = none := rfl

theorem get?_insert (r : Record) (column : String) (value : Value) (other : String) :
    (r.insert column value).get? other = if other = column then some value else r.get? other :=
  Value.field?_putField column value r.entries other

@[simp] theorem get?_insert_self (r : Record) (column : String) (value : Value) :
    (r.insert column value).get? column = some value := by
  simp [get?_insert]

/-- The value of a column: under its own name, else in upper case, else in lower case. -/
def lookup (r : Record) (column : String) : Option Value :=
  match r.get? column with
  | some v => some v
  | none =>
    match r.get? (Text.upper column) with
    | some v => some v
    | none => r.get? (Text.lower column)

/-- The record that a value is, if it is an object. -/
def ofValue : Value → Except Error Record
  | .obj fields => .ok (ofList fields)
  | v => .error (.validation none ("expected a JSON object, got " ++ v.kindName))

/-- The copy of a record that a form works on: every column also under its name in lower case,
unless a column of that name is there already. -/
def forEditing (r : Record) : Record :=
  r.entries.foldl (fun copy (column, value) =>
    let small := Text.lower column
    if copy.contains small then copy else copy.insert small value) r

end Record

/-- The conventional name of a key that the source makes up: `id` in any case. -/
def isIdName (name : String) : Bool :=
  name.toList.map Char.toLower == ['i', 'd']

end RecordDesk
