import RecordDesk.Document.Reading
import RecordDesk.Proofs.Dict
import RecordDesk.Proofs.Json.Written
import RecordDesk.Proofs.Steps

/-
  Parts of documents that are written and read again. What a part was read as is read of what is
  written for it, unchanged or settled into a form of its own (`Settles`, `Stable`). An object is
  settled where each of its fields is (`settles_object`), whether a field is always written or left
  out where its default stands for it.
-/

namespace RecordDesk.Document

variable {α : Type}

/-! ## Parts -/

/-- The part is read of something. -/
def Readable (part : Reader α) (a : α) : Prop := ∃ w, part w = some a

/-- What was read is read, in its settled form, of what is written for it. -/
def Settles (part : Reader α) (write : α → Value) (settle : α → α) : Prop :=
  ∀ a, Readable part a → ofValue? part (write a) = some (settle a)

/-- What was read is read as it was of what is written for it. -/
def Stable (part : Reader α) (write : α → Value) : Prop := Settles part write id

theorem stable_text : Stable text .str := fun _ _ => rfl

theorem stable_flag : Stable flag .bool := fun _ _ => rfl

theorem stable_double : Stable double .float := fun _ _ => rfl

theorem stable_any : Stable any id := fun _ ⟨_, h⟩ => Written.settled_of_value? h

theorem stable_int64 : Stable int64 .int := by
  rintro n ⟨w, h⟩
  unfold int64 at h
  split at h
  · split at h
    · next hn =>
      obtain rfl := Option.some.inj h
      exact if_pos hn
    · cases h
  · cases h

theorem stable_natBelow (bound : Nat) : Stable (natBelow bound) fun n => .int n := by
  rintro n ⟨w, h⟩
  unfold natBelow at h
  split at h
  · split at h
    · next k hk =>
      obtain rfl := Option.some.inj h
      have hlt : ((k.toNat : Nat) : Int) < bound := by omega
      exact if_pos ⟨Int.natCast_nonneg _, hlt⟩
    · cases h
  · cases h

variable {part : Reader α} {write : α → Value} {settle : α → α}

theorem settles_list (h : Settles part write settle) :
    Settles (list part) (fun items => .arr (items.map write)) (·.map settle) := by
  rintro items ⟨w, hw⟩
  cases w with
  | arr ws =>
    change (Written.ofValues (items.map write)).mapM part = some (items.map settle)
    rw [Written.ofValues_eq, List.map_map, mapM_eq_some, List.forall₂_map_left_iff,
      List.forall₂_map_right_iff, List.forall₂_same]
    intro a ha
    obtain ⟨w, -, hw⟩ := exists_of_forall₂ (mapM_eq_some.1 hw) ha
    exact h a ⟨w, hw⟩
  | _ => cases hw

theorem readable_nil : Readable (list part) [] := ⟨.arr [], rfl⟩

/-- A dictionary whose entries are settled one by one. -/
def settleDict (settle : α → α) (d : Dict α) : Dict α := d.map fun _ => settle

theorem settles_dict (h : Settles part write settle) :
    Settles (dict part) (ofDict write) (settleDict settle) := by
  rintro d ⟨w, hw⟩
  cases w with
  | obj fields =>
    obtain ⟨entries, hentries, heq⟩ := Option.bind_eq_some_iff.1 hw
    obtain rfl := Option.some.inj heq
    have hreadable : ∀ entry ∈ (Dict.ofList entries).entries, Readable part entry.2 := by
      intro entry hentry
      rw [Dict.mem_entries_iff, Dict.get?_ofList] at hentry
      have hmem := List.mem_reverse.1 (Dict.mem_of_find? hentry)
      obtain ⟨⟨key, w⟩, -, hfield⟩ := exists_of_forall₂ (mapM_eq_some.1 hentries) hmem
      obtain ⟨a, ha, heq⟩ := Option.bind_eq_some_iff.1 hfield
      exact ⟨w, ha.trans (congrArg (some ·.2) (Option.some.inj heq))⟩
    generalize Dict.ofList entries = d at hreadable
    refine Option.bind_eq_some_iff.2 ⟨(settleDict settle d).entries, ?_, ?_⟩
    · rw [Written.ofFields_eq, List.map_map, mapM_eq_some, settleDict, Dict.map,
        List.forall₂_map_left_iff, List.forall₂_map_right_iff, List.forall₂_same]
      intro entry hentry
      exact Option.bind_eq_some_iff.2 ⟨_, h entry.2 (hreadable entry hentry), rfl⟩
    · exact congrArg some (Dict.ofList_entries _)
  | _ => cases hw

theorem stable_list (h : Stable part write) :
    Stable (list part) fun items => .arr (items.map write) := by
  intro items hitems
  rw [settles_list h items hitems]
  exact congrArg some (List.map_id items)

theorem stable_anyList : Stable (list any) .arr := by
  intro items hitems
  simpa only [List.map_id] using stable_list stable_any items hitems

theorem settleDict_id (d : Dict α) : settleDict id d = d := by
  obtain ⟨entries, sorted⟩ := d
  simp [settleDict, Dict.map]

theorem stable_dict (h : Stable part write) : Stable (dict part) (ofDict write) := by
  intro d hd
  rw [settles_dict h d hd, settleDict_id]
  rfl

theorem readable_localized : Readable localized .empty := ⟨.obj [], rfl⟩

theorem stable_localized : Stable localized ofLocalized := by
  rintro t ⟨w, h⟩
  obtain ⟨d, hd, rfl⟩ := Option.map_eq_some_iff.1 h
  exact Option.map_eq_some_iff.2 ⟨d, stable_dict stable_text d ⟨w, hd⟩, rfl⟩

/-! ## Fields -/

section Fields

variable {w? : Option Written} {a default : α}

theorem required_always (hs : Settles part write settle) (h : required part w? = some a) :
    required part (some (Written.ofValue (write a))) = some (settle a) := by
  cases w? with
  | some w => exact hs a ⟨w, h⟩
  | none => cases h

theorem readable_of_orElse (hd : Readable part default) (h : orElse part default w? = some a) :
    Readable part a := by
  cases w? with
  | some w => exact ⟨w, h⟩
  | none => exact Option.some.inj h ▸ hd

/-- A field that is always written must be able to hold its default. -/
theorem orElse_always (hs : Settles part write settle) (hd : Readable part default)
    (h : orElse part default w? = some a) :
    orElse part default (some (Written.ofValue (write a))) = some (settle a) :=
  hs a (readable_of_orElse hd h)

theorem nullable_some {w : Written} (h : w ≠ .null) : nullable part w = (part w).map some := by
  cases w <;> first | rfl | exact absurd rfl h

theorem optional_eq_some {o : Option α} (h : optional part w? = some o) :
    ∀ a ∈ o, ∃ w, w ≠ .null ∧ part w = some a := by
  intro a ha
  obtain rfl : o = some a := ha
  cases w? with
  | none => cases Option.some.inj h
  | some w =>
    change nullable part w = some (some a) at h
    by_cases hnull : w = .null
    · subst hnull
      cases Option.some.inj h
    · rw [nullable_some hnull] at h
      obtain ⟨b, hb, heq⟩ := Option.map_eq_some_iff.1 h
      exact ⟨w, hnull, Option.some.inj heq ▸ hb⟩

/-- A field that may be left out is left out where it has no value, so null must not be one. -/
theorem optional_given (hs : Settles part write settle) (hnull : part .null = none)
    {o : Option α} (h : optional part w? = some o) :
    optional part ((o.map write).map Written.ofValue) = some (o.map settle) := by
  cases o with
  | none => rfl
  | some a =>
    obtain ⟨w, -, hw⟩ := optional_eq_some h a rfl
    have hread := hs a ⟨w, hw⟩
    have hne : Written.ofValue (write a) ≠ .null := by
      intro heq
      rw [ofValue?, heq, hnull] at hread
      cases hread
    exact (nullable_some hne).trans (congrArg _ hread)

theorem optional_any {o : Option Value} (h : optional any w? = some o) :
    optional any (o.map Written.ofValue) = some o := by
  cases o with
  | none => rfl
  | some v =>
    obtain ⟨w, hnull, hw⟩ := optional_eq_some h v rfl
    have hread := stable_any v ⟨w, hw⟩
    have hne : Written.ofValue v ≠ .null := by
      intro heq
      obtain rfl : v = .null := by cases v <;> first | rfl | cases heq
      exact hnull (Written.eq_null_of_value? hw)
    exact (nullable_some hne).trans (congrArg _ hread)

/-- The value of an array field that is left out if it is empty. -/
def filled (items : List Value) : Option Value :=
  if items.isEmpty then none else some (.arr items)

theorem nonEmpty_eq (name : String) (items : List Value) :
    nonEmpty name items = given name (filled items) := by
  unfold nonEmpty filled
  split <;> rfl

theorem orElse_nonEmpty (hs : Settles part write settle) {items : List α}
    (h : orElse (list part) [] w? = some items) :
    orElse (list part) [] ((filled (items.map write)).map Written.ofValue) =
      some (items.map settle) := by
  have hread := settles_list hs items (readable_of_orElse readable_nil h)
  unfold filled
  cases items with
  | nil => rfl
  | cons a rest => exact hread

/-- A flag that is written only where it is set. -/
theorem orElse_set (b : Bool) :
    orElse flag false ((if b then some (.bool true) else none : Option Value).map Written.ofValue) =
      some b := by
  cases b <;> rfl

end Fields

theorem bind_some {β : Type} {x : Option β} {b : β} {f : β → Option α} {a : α} (hx : x = some b)
    (hf : f b = some a) : x >>= f = some a :=
  bind_eq_some.2 ⟨b, hx, hf⟩

/-! ## Objects -/

/-- Fields with their values, as far as they have one. -/
def written (parts : List (String × Option Value)) : List (String × Value) :=
  parts.flatMap fun part => given part.1 part.2

theorem written_nil : written [] = [] := rfl

theorem written_cons (name : String) (v : Option Value) (rest : List (String × Option Value)) :
    written ((name, v) :: rest) = given name v ++ written rest := rfl

theorem always_eq (name : String) (v : Value) : always name v = given name (some v) := rfl

theorem named_append (names : List String) (fields others : List (String × Written)) :
    named names (fields ++ others) = named names fields ++ named names others := by
  rw [named, List.filter_append, List.map_append]
  rfl

/-- Under some names stand the values of the parts that have one of them. -/
theorem named_written (names : List String) (parts : List (String × Option Value)) :
    named names (Written.ofFields (written parts)) =
      (parts.filter fun part => names.contains part.1).flatMap fun part =>
        (part.2.map Written.ofValue).toList := by
  induction parts with
  | nil => rfl
  | cons part rest ih =>
    obtain ⟨name, v⟩ := part
    have hfirst : named names (Written.ofFields (given name v)) =
        if names.contains name then (v.map Written.ofValue).toList else [] := by
      cases v with
      | none => exact (ite_self _).symm
      | some v =>
        rw [given, Written.ofFields, Written.ofFields, named, List.filter_singleton]
        dsimp only
        cases names.contains name <;> rfl
    have hsplit : Written.ofFields (written ((name, v) :: rest)) =
        Written.ofFields (given name v) ++ Written.ofFields (written rest) := by
      rw [Written.ofFields_eq, Written.ofFields_eq, Written.ofFields_eq, ← List.map_append]
      rfl
    rw [hsplit, named_append, hfirst, ih, List.filter_cons]
    split
    · rw [List.flatMap_cons]
    · rw [List.nil_append]

/-- The first names of declared fields. -/
def firstNames (declared : List (List String)) : List String := declared.filterMap List.head?

/-- Each declared field has a first name of its own, which no other field goes by. -/
structure Unambiguous (declared : List (List String)) : Prop where
  nodup : (firstNames declared).Nodup
  own : declared.map (fun names => (firstNames declared).filter names.contains) =
    (firstNames declared).map ([·])

instance (declared : List (List String)) : Decidable (Unambiguous declared) :=
  decidable_of_iff ((firstNames declared).Nodup ∧
      declared.map (fun names => (firstNames declared).filter names.contains) =
        (firstNames declared).map ([·]))
    ⟨fun ⟨nodup, own⟩ => ⟨nodup, own⟩, fun ⟨nodup, own⟩ => ⟨nodup, own⟩⟩

/-- Fields that are written under their first names are found in their places. -/
theorem slots_written {declared : List (List String)} (h : Unambiguous declared)
    {parts : List (String × Option Value)} (hparts : parts.map Prod.fst = firstNames declared) :
    slots declared (Written.ofValue (.obj (written parts))) =
      some (parts.map fun part => part.2.map Written.ofValue) := by
  have hown : List.Forall₂ (fun names part => parts.filter (names.contains ·.1) = [part])
      declared parts := by
    have hnames : List.Forall₂ (fun names part =>
        (parts.map Prod.fst).filter names.contains = [part.1]) declared parts := by
      have hown := h.own
      rw [← hparts, ← List.forall₂_eq_eq_eq] at hown
      simpa only [List.forall₂_map_left_iff, List.forall₂_map_right_iff] using hown
    obtain ⟨hlength, hzip⟩ := List.forall₂_iff_zip.1 hnames
    refine List.forall₂_iff_zip.2 ⟨hlength, fun {names part} hmem => ?_⟩
    have hpart : part ∈ parts := (List.of_mem_zip hmem).2
    have hname := hzip hmem
    rw [List.filter_map] at hname
    obtain ⟨found, hfound, heq⟩ := List.map_eq_singleton_iff.1 hname
    have hmem' : found ∈ parts := (List.mem_filter.1 (hfound ▸ List.mem_singleton_self found)).1
    have hsame : found = part :=
      List.inj_on_of_nodup_map (hparts ▸ h.nodup) hmem' hpart heq
    exact hfound.trans (congrArg (fun p => [p]) hsame)
  rw [Written.ofValue, slots, mapM_eq_some, List.forall₂_map_right_iff]
  refine hown.imp ?_
  intro names part hpart
  rw [named_written, hpart, List.flatMap_singleton]
  cases part.2 <;> rfl

/-- An object is settled where its fields are: its reader takes the fields apart, and its writer
writes all of them under their first names. -/
theorem settles_object (parts : α → List (String × Option Value)) {declared : List (List String)}
    (h : Unambiguous declared) {build : List (Option Written) → Option α}
    (hread : ∀ w, part w = (slots declared w).bind build)
    (hwrite : ∀ a, write a = .obj (written (parts a)))
    (hparts : ∀ a, (parts a).map Prod.fst = firstNames declared)
    (hbuild : ∀ given a, build given = some a →
      build ((parts a).map fun part => part.2.map Written.ofValue) = some (settle a)) :
    Settles part write settle := by
  rintro a ⟨w, hw⟩
  rw [hread] at hw
  obtain ⟨given, -, hgiven⟩ := Option.bind_eq_some_iff.1 hw
  rw [ofValue?, hread, hwrite, slots_written h (hparts a)]
  exact hbuild given a hgiven

end RecordDesk.Document
