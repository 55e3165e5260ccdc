import Mathlib.Data.List.Nodup
import RecordDesk.Proofs.Record.Lookup
import RecordDesk.Proofs.Text.Case

/-
  Records in capitals. A record whose columns are in small letters reads alike, under every name in
  small letters, when its columns are put in capitals (`readsAlike_capitalized`); it still does when
  other columns are written to both (`ReadsAlike.insert`) and in the copies that are edited
  (`ReadsAlike.forEditing`).
-/

namespace RecordDesk

open Text (InSmall)

namespace Value

/-- Fields in capitals, all of names in small letters, are found under the name in capitals. -/
theorem field?_map_upper {fields : List (String × Value)}
    (h : ∀ name ∈ fields.map Prod.fst, InSmall name) {name : String} (hname : InSmall name) :
    field? (fields.map fun (other, v) => (Text.upper other, v)) (Text.upper name) =
      field? fields name := by
  induction fields with
  | nil => rfl
  | cons field rest ih =>
    obtain ⟨other, v⟩ := field
    have hother : InSmall other := h other List.mem_cons_self
    have hrest := ih fun n hn => h n (List.mem_cons_of_mem _ hn)
    rw [List.map_cons, field?, field?, hrest]
    by_cases heq : other = name
    · rw [if_pos heq, if_pos (congrArg Text.upper heq)]
    · rw [if_neg heq, if_neg fun e => heq (hother.upper_inj hname e)]

end Value

namespace Record

/-- The columns put into a record one after another, where none of them is there yet and none comes
twice. -/
theorem entries_foldl_insert {entries : List (String × Value)} {r : Record}
    (h : ((r.entries ++ entries).map Prod.fst).Nodup) :
    (entries.foldl (fun r (column, value) => r.insert column value) r).entries =
      r.entries ++ entries := by
  induction entries generalizing r with
  | nil => rw [List.append_nil]; rfl
  | cons entry rest ih =>
    obtain ⟨column, v⟩ := entry
    have hnew : column ∉ r.entries.map Prod.fst := by
      rw [List.map_append, List.map_cons] at h
      exact fun hmem => (List.nodup_append.1 h).2.2 column hmem column List.mem_cons_self rfl
    have hput : (r.insert column v).entries = r.entries ++ [(column, v)] :=
      Value.putField_of_not_mem hnew v
    have hsplit : (r.insert column v).entries ++ rest = r.entries ++ (column, v) :: rest := by
      rw [hput, List.append_assoc, List.singleton_append]
    rw [List.foldl_cons, ih (hsplit ▸ h), hsplit]

/-- All columns are in small letters. -/
def SmallColumns (r : Record) : Prop := ∀ column ∈ r.columns, InSmall column

instance (r : Record) : Decidable r.SmallColumns :=
  inferInstanceAs (Decidable (∀ column ∈ r.columns, InSmall column))

/-- The record with its columns in capitals. -/
def capitalized (r : Record) : Record :=
  .ofList (r.entries.map fun (column, v) => (Text.upper column, v))

/-- The records read alike under every name in small letters. -/
def ReadsAlike (r s : Record) : Prop := ∀ column, InSmall column → s.lookup column = r.lookup column

variable {r s u : Record}

theorem ReadsAlike.trans (h : ReadsAlike r s) (h' : ReadsAlike s u) : ReadsAlike r u :=
  fun column hcolumn => (h' column hcolumn).trans (h column hcolumn)

theorem ReadsAlike.symm (h : ReadsAlike r s) : ReadsAlike s r :=
  fun column hcolumn => (h column hcolumn).symm

/-- Different names in small letters are not looked up under each other. -/
theorem apart_of_small {column written : String} (hcolumn : InSmall column)
    (hwritten : InSmall written) (hne : column ≠ written) : Apart column written where
  self := hne.symm
  upper h := hne (hwritten.eq_of_eq_upper hcolumn h).symm
  lower h := hne (h.trans hcolumn.lower_eq).symm

theorem ReadsAlike.insert (h : ReadsAlike r s) {column : String} (hcolumn : InSmall column)
    (v : Value) : ReadsAlike (r.insert column v) (s.insert column v) := by
  intro other hother
  by_cases heq : other = column
  · rw [heq, lookup_insert_self, lookup_insert_self]
  · have hapart := apart_of_small hother hcolumn heq
    rw [lookup_insert_apart hapart, lookup_insert_apart hapart, h other hother]

/-! ## Capitals -/

theorem entries_capitalized (h : r.SmallColumns) :
    r.capitalized.entries = r.entries.map fun (column, v) => (Text.upper column, v) := by
  refine entries_foldl_insert (r := empty) ?_
  have hnames : ((r.entries.map fun (column, v) => (Text.upper column, v)).map Prod.fst) =
      r.columns.map Text.upper := by
    rw [columns, List.map_map, List.map_map]
    rfl
  rw [empty, List.nil_append, hnames]
  exact List.Nodup.map_on (fun a ha b hb => (h a ha).upper_inj (h b hb)) r.nodup

theorem columns_capitalized (h : r.SmallColumns) :
    r.capitalized.columns = r.columns.map Text.upper := by
  rw [columns, entries_capitalized h, columns, List.map_map, List.map_map]
  rfl

/-- A name in small letters is looked up under itself among columns in small letters. -/
theorem lookup_of_small (h : r.SmallColumns) {column : String} (hcolumn : InSmall column) :
    r.lookup column = r.get? column := by
  have hupper : r.get? column = none → r.get? (Text.upper column) = none := by
    intro hnone
    by_cases hmem : Text.upper column ∈ r.columns
    · rwa [← (h _ hmem).eq_of_eq_upper hcolumn rfl] at hnone
    · exact get?_eq_none hmem
  rw [lookup, hcolumn.lower_eq]
  cases hget : r.get? column with
  | some v => rfl
  | none => rw [hupper hget]

/-- Among columns in capitals it is looked up as it was before. -/
theorem lookup_capitalized (h : r.SmallColumns) {column : String} (hcolumn : InSmall column) :
    r.capitalized.lookup column = r.get? column := by
  have hupper : r.capitalized.get? (Text.upper column) = r.get? column := by
    rw [get?, entries_capitalized h]
    exact Value.field?_map_upper h hcolumn
  rw [lookup, hcolumn.lower_eq, hupper]
  by_cases hsame : Text.upper column = column
  · rw [hsame] at hupper
    rw [hupper]
    cases r.get? column <;> rfl
  · have hnone : r.capitalized.get? column = none := by
      refine get?_eq_none fun hmem => hsame ?_
      rw [columns_capitalized h] at hmem
      obtain ⟨other, hother, heq⟩ := List.mem_map.1 hmem
      rw [← heq, (Text.spelling_upper (h other hother).ascii).upper]
    rw [hnone]
    cases r.get? column <;> rfl

/-- Columns in capitals read like those in small letters. -/
theorem readsAlike_capitalized (h : r.SmallColumns) : ReadsAlike r r.capitalized := by
  intro column hcolumn
  rw [lookup_capitalized h hcolumn, lookup_of_small h hcolumn]

/-! ## Copies that are edited -/

/-- Each column is a name in small letters, or one in capitals. -/
def OneCase (r : Record) : Prop :=
  ∀ column ∈ r.columns, ∃ name, InSmall name ∧ (column = name ∨ column = Text.upper name)

theorem oneCase_of_small (h : r.SmallColumns) : OneCase r :=
  fun column hcolumn => ⟨column, h column hcolumn, .inl rfl⟩

theorem oneCase_capitalized (h : r.SmallColumns) : OneCase r.capitalized := by
  intro column hcolumn
  rw [columns_capitalized h] at hcolumn
  obtain ⟨name, hname, rfl⟩ := List.mem_map.1 hcolumn
  exact ⟨name, h name hname, .inr rfl⟩

/-- The copy of a record that is edited reads like the record: what it adds in small letters could
be found in capitals before. -/
theorem OneCase.readsAlike_forEditing (h : OneCase r) : ReadsAlike r r.forEditing := by
  have hall : ReadsAlike r r.forEditing ∧
      ∀ column v, r.get? column = some v → r.forEditing.get? column = some v := by
    refine List.foldlRecOn r.entries _ (motive := fun copy : Record => ReadsAlike r copy ∧
      ∀ column v, r.get? column = some v → copy.get? column = some v)
      ⟨fun _ _ => rfl, fun _ _ h => h⟩ ?_
    rintro copy ⟨hcopy, hkept⟩ ⟨column, v⟩ hentry
    dsimp only
    split
    · exact ⟨hcopy, hkept⟩
    next habsent =>
    have habsent : copy.get? (Text.lower column) = none := by
      simpa [contains] using habsent
    obtain ⟨name, hname, heq⟩ := h column (List.mem_map_of_mem hentry)
    have hlower : Text.lower column = name := by
      rcases heq with rfl | rfl
      · exact hname.lower_eq
      · exact hname.lower_upper
    rw [hlower] at habsent ⊢
    have hget : copy.get? (Text.upper name) = some v := by
      rcases heq with rfl | rfl
      · rw [hkept column v (mem_entries_iff.1 hentry)] at habsent
        cases habsent
      · exact hkept _ v (mem_entries_iff.1 hentry)
    constructor
    · intro other hother
      by_cases hne : other = name
      · rw [hne, lookup_insert_self, ← hcopy name hname, lookup, habsent, hget]
      · rw [lookup_insert_apart (apart_of_small hother hname hne), hcopy other hother]
    · intro other w hw
      have hne : other ≠ name := by
        rintro rfl
        rw [hkept other w hw] at habsent
        cases habsent
      rw [get?_insert, if_neg hne, hkept other w hw]
  exact hall.1

end Record

end RecordDesk
