/-
  Dictionaries: one entry a key, kept in the order of the keys. Keys are ordered by code point.
  The order is part of the type, so a dictionary has one form only: two that answer every key
  alike are equal.
-/

namespace RecordDesk

/-- Entries in increasing order of their keys. -/
structure Dict (α : Type) where
  entries : List (String × α)
  sorted : entries.Pairwise (fun a b => a.1 < b.1)

namespace Dict

variable {α β : Type}

/-! ## Entry lists -/

/-- The entry of a key in a list. -/
def find? : List (String × α) → String → Option α
  | [], _ => none
  | (k, v) :: rest, key => if k = key then some v else find? rest key

/-- Puts an entry where the order of the keys wants it; an entry of the key is replaced. -/
def put (key : String) (value : α) : List (String × α) → List (String × α)
  | [] => [(key, value)]
  | (k, v) :: rest =>
    if key < k then (key, value) :: (k, v) :: rest
    else if k = key then (key, value) :: rest
    else (k, v) :: put key value rest

theorem mem_put {key : String} {value : α} {entries : List (String × α)} {e : String × α}
    (h : e ∈ put key value entries) : e = (key, value) ∨ e ∈ entries := by
  induction entries with
  | nil => simpa [put] using h
  | cons head rest ih =>
    obtain ⟨k, v⟩ := head
    simp only [put] at h
    split at h
    · simpa using h
    · split at h
      · rcases List.mem_cons.1 h with h | h
        · exact .inl h
        · exact .inr (List.mem_cons_of_mem _ h)
      · rcases List.mem_cons.1 h with h | h
        · exact .inr (h ▸ List.mem_cons_self ..)
        · rcases ih h with h | h
          · exact .inl h
          · exact .inr (List.mem_cons_of_mem _ h)

theorem sorted_put (key : String) (value : α) {entries : List (String × α)}
    (h : entries.Pairwise (fun a b => a.1 < b.1)) :
    (put key value entries).Pairwise (fun a b => a.1 < b.1) := by
  induction entries with
  | nil => simp [put]
  | cons head rest ih =>
    obtain ⟨k, v⟩ := head
    obtain ⟨hk, hr⟩ := List.pairwise_cons.1 h
    simp only [put]
    split
    · next hlt =>
      refine List.pairwise_cons.2 ⟨fun e he => ?_, h⟩
      rcases List.mem_cons.1 he with he | he
      · exact he ▸ hlt
      · exact String.lt_trans hlt (hk e he)
    · next hge =>
      split
      · next heq => exact List.pairwise_cons.2 ⟨fun e he => heq ▸ hk e he, hr⟩
      · next hne =>
        refine List.pairwise_cons.2 ⟨fun e he => ?_, ih hr⟩
        rcases mem_put he with he | he
        · subst he; exact Std.lt_of_le_of_ne (String.not_lt.1 hge) hne
        · exact hk e he

theorem find?_put (key : String) (value : α) (entries : List (String × α)) (other : String) :
    find? (put key value entries) other =
      if other = key then some value else find? entries other := by
  induction entries with
  | nil => simp [put, find?, eq_comm]
  | cons head rest ih =>
    obtain ⟨k, v⟩ := head
    simp only [put]
    split
    · simp [find?, eq_comm]
    · split
      · next heq =>
        subst heq
        by_cases h : k = other
        · simp [find?, h]
        · simp [find?, h, Ne.symm h]
      · next hne =>
        by_cases h : k = other
        · subst h; simp [find?, hne]
        · simp [find?, h, ih]

/-! ## Dictionaries -/

/-- The dictionary without entries. -/
def empty : Dict α := ⟨[], .nil⟩

instance : Inhabited (Dict α) := ⟨empty⟩

/-- The entry of a key. -/
def get? (d : Dict α) (key : String) : Option α := find? d.entries key

/-- There is an entry of the key. -/
def contains (d : Dict α) (key : String) : Bool := (d.get? key).isSome

/-- Adds or replaces the entry of a key. -/
def insert (d : Dict α) (key : String) (value : α) : Dict α :=
  ⟨put key value d.entries, sorted_put key value d.sorted⟩

/-- The entries put in one after another; the last of a key stays. -/
def ofList (entries : List (String × α)) : Dict α :=
  entries.foldl (fun d (key, value) => d.insert key value) empty

/-- The number of entries. -/
def size (d : Dict α) : Nat := d.entries.length

/-- No entries. -/
def isEmpty (d : Dict α) : Bool := d.entries.isEmpty

/-- The keys in order. -/
def keys (d : Dict α) : List String := d.entries.map Prod.fst

/-- The values in the order of their keys. -/
def values (d : Dict α) : List α := d.entries.map Prod.snd

/-- The dictionary of the same keys with every value mapped. -/
def map (f : String → α → β) (d : Dict α) : Dict β :=
  ⟨d.entries.map fun (k, v) => (k, f k v), by
    rw [List.pairwise_map]; exact d.sorted⟩

@[simp] theorem get?_empty (key : String) : (empty : Dict α).get? key = none := rfl

theorem get?_insert (d : Dict α) (key : String) (value : α) (other : String) :
    (d.insert key value).get? other = if other = key then some value else d.get? other :=
  find?_put key value d.entries other

/-- In entries in the order of their keys, the entry of a key is the one that stands there. -/
theorem find?_eq_some_iff {entries : List (String × α)}
    (h : entries.Pairwise (fun a b => a.1 < b.1)) {key : String} {value : α} :
    find? entries key = some value ↔ (key, value) ∈ entries := by
  induction entries with
  | nil => simp [find?]
  | cons head rest ih =>
    obtain ⟨k, v⟩ := head
    obtain ⟨hk, hr⟩ := List.pairwise_cons.1 h
    simp only [find?, List.mem_cons, Prod.mk.injEq]
    split
    · next heq =>
      subst heq
      constructor
      · intro hv; exact .inl ⟨rfl, (Option.some.inj hv).symm⟩
      · rintro (⟨-, rfl⟩ | hm)
        · rfl
        · exact absurd (hk _ hm) (String.lt_irrefl k)
    · next hne =>
      rw [ih hr]
      constructor
      · exact .inr
      · rintro (⟨rfl, -⟩ | hm)
        · exact absurd rfl hne
        · exact hm

theorem mem_values {d : Dict α} {value : α} :
    value ∈ d.values ↔ ∃ key, d.get? key = some value := by
  simp only [values, get?, find?_eq_some_iff d.sorted, List.mem_map, Prod.exists,
    exists_eq_right]

end Dict

end RecordDesk
