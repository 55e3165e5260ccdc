import Mathlib.Data.List.Nodup
import Mathlib.Data.List.Perm.Basic
import RecordDesk.Dict

/-
  What a dictionary answers and what it holds. Of entries put in one after another the last of a key
  stays (`get?_ofList`), an entry is held exactly if it is the answer to its key
  (`mem_entries_iff`), and dictionaries that answer every key alike are equal (`ext_get?`).
-/

namespace RecordDesk.Dict

variable {α β : Type}

/-! ## Entry lists -/

theorem find?_append (entries others : List (String × α)) (key : String) :
    find? (entries ++ others) key = (find? entries key).or (find? others key) := by
  induction entries with
  | nil => rfl
  | cons entry rest ih =>
    obtain ⟨k, v⟩ := entry
    rw [List.cons_append, find?, find?, ih]
    split <;> rfl

theorem mem_of_find? {entries : List (String × α)} {key : String} {value : α}
    (h : find? entries key = some value) : (key, value) ∈ entries := by
  induction entries with
  | nil => cases h
  | cons entry rest ih =>
    obtain ⟨k, v⟩ := entry
    rw [find?] at h
    split at h
    · next heq =>
      obtain rfl := Option.some.inj h
      exact heq ▸ List.mem_cons_self
    · exact List.mem_cons_of_mem _ (ih h)

theorem exists_find? {entries : List (String × α)} {key : String} :
    (∃ value, find? entries key = some value) ↔ key ∈ entries.map Prod.fst := by
  constructor
  · rintro ⟨value, h⟩
    exact List.mem_map_of_mem (mem_of_find? h)
  · intro h
    induction entries with
    | nil => cases h
    | cons entry rest ih =>
      obtain ⟨k, v⟩ := entry
      rw [find?]
      split
      · exact ⟨v, rfl⟩
      · next hne => exact ih ((List.mem_cons.1 h).resolve_left fun e => hne e.symm)

theorem find?_eq_none {entries : List (String × α)} {key : String} :
    find? entries key = none ↔ key ∉ entries.map Prod.fst := by
  rw [← exists_find?, ← Option.isSome_iff_exists, Bool.not_eq_true, Option.isSome_eq_false_iff,
    Option.isNone_iff_eq_none]

/-- Where no key stands twice, the entry of a key is the one that stands there. -/
theorem find?_of_mem {entries : List (String × α)} (h : (entries.map Prod.fst).Nodup)
    {key : String} {value : α} (hmem : (key, value) ∈ entries) :
    find? entries key = some value := by
  induction entries with
  | nil => cases hmem
  | cons entry rest ih =>
    obtain ⟨k, v⟩ := entry
    obtain ⟨hk, hrest⟩ := List.nodup_cons.1 h
    rw [find?]
    rcases List.mem_cons.1 hmem with heq | hmem
    · obtain ⟨rfl, rfl⟩ := Prod.mk.inj heq
      rw [if_pos rfl]
    · rw [if_neg, ih hrest hmem]
      rintro rfl
      exact hk (List.mem_map.2 ⟨_, hmem, rfl⟩)

/-- Of items with distinct names each is the one that is found under its name. -/
theorem find?_of_nodup {items : List α} {name : α → String} (h : (items.map name).Nodup) {a : α}
    (hmem : a ∈ items) : items.find? (fun b => name b == name a) = some a := by
  cases hfind : items.find? (fun b => name b == name a) with
  | none =>
    have hnone := List.find?_eq_none.1 hfind a hmem
    simp at hnone
  | some b =>
    have hname : name b = name a := by simpa using List.find?_some hfind
    rw [List.inj_on_of_nodup_map h (List.mem_of_find?_eq_some hfind) hmem hname]

theorem find?_map (f : String → α → β) (entries : List (String × α)) (key : String) :
    find? (entries.map fun (k, v) => (k, f k v)) key = (find? entries key).map (f key) := by
  induction entries with
  | nil => rfl
  | cons entry rest ih =>
    obtain ⟨k, v⟩ := entry
    rw [List.map_cons, find?, find?, ih]
    split
    · next heq => rw [heq]; rfl
    · rfl

/-- Of two values that are put in under one key the last stays. -/
theorem put_put (key : String) (value newer : α) (entries : List (String × α)) :
    put key newer (put key value entries) = put key newer entries := by
  induction entries with
  | nil => simp [put]
  | cons entry rest ih =>
    obtain ⟨k, v⟩ := entry
    by_cases hlt : key < k
    · simp [put, hlt]
    · by_cases heq : k = key
      · simp [put, heq]
      · simp [put, hlt, heq, ih]

/-- In entries in the order of their keys, putting in what stands there changes nothing. -/
theorem put_of_find? {entries : List (String × α)} (h : entries.Pairwise (fun a b => a.1 < b.1))
    {key : String} {value : α} (hvalue : find? entries key = some value) :
    put key value entries = entries := by
  induction entries with
  | nil => cases hvalue
  | cons entry rest ih =>
    obtain ⟨k, v⟩ := entry
    obtain ⟨hk, hrest⟩ := List.pairwise_cons.1 h
    rw [find?] at hvalue
    rw [put]
    by_cases heq : k = key
    · rw [if_pos heq] at hvalue
      obtain rfl := Option.some.inj hvalue
      rw [if_neg (heq ▸ String.lt_irrefl k), if_pos heq, heq]
    · rw [if_neg heq] at hvalue
      have hlt : k < key := hk _ (mem_of_find? hvalue)
      rw [if_neg (String.lt_asymm hlt), if_neg heq, ih hrest hvalue]

/-! ## Dictionaries -/

theorem get?_map (f : String → α → β) (d : Dict α) (key : String) :
    (d.map f).get? key = (d.get? key).map (f key) :=
  find?_map f d.entries key

theorem nodup_keys (d : Dict α) : (d.entries.map Prod.fst).Nodup := by
  rw [List.Nodup, List.pairwise_map]
  refine d.sorted.imp ?_
  intro a b hlt heq
  rw [heq] at hlt
  exact String.lt_irrefl _ hlt

theorem mem_entries_iff {d : Dict α} {entry : String × α} :
    entry ∈ d.entries ↔ d.get? entry.1 = some entry.2 :=
  ⟨fun h => find?_of_mem d.nodup_keys h, fun h => mem_of_find? h⟩

/-- The entries after one of them have the greater keys. -/
theorem split_of_mem {d : Dict α} {entry : String × α} (h : entry ∈ d.entries) :
    ∃ before after, d.entries = before ++ entry :: after ∧ ∀ later ∈ after, entry.1 < later.1 := by
  obtain ⟨before, after, hsplit⟩ := List.append_of_mem h
  have hsorted := d.sorted
  rw [hsplit] at hsorted
  exact ⟨before, after, hsplit, (List.pairwise_cons.1 (List.pairwise_append.1 hsorted).2.1).1⟩

/-- Among the entries with a property there is one with the greatest key. -/
theorem exists_last {d : Dict α} {p : String × α → Prop} (h : ∃ entry ∈ d.entries, p entry) :
    ∃ entry ∈ d.entries, p entry ∧ ∀ later ∈ d.entries, entry.1 < later.1 → ¬p later := by
  obtain ⟨entries, hsorted⟩ := d
  dsimp only at h ⊢
  induction entries with
  | nil => obtain ⟨_, hmem, -⟩ := h; cases hmem
  | cons first rest ih =>
    obtain ⟨hfirst, hrest⟩ := List.pairwise_cons.1 hsorted
    by_cases hlater : ∃ entry ∈ rest, p entry
    · obtain ⟨entry, hmem, hentry, hlast⟩ := ih hrest hlater
      refine ⟨entry, List.mem_cons_of_mem _ hmem, hentry, fun later hin hlt => ?_⟩
      rcases List.mem_cons.1 hin with rfl | hin
      · exact absurd hlt (String.lt_asymm (hfirst _ hmem))
      · exact hlast later hin hlt
    · obtain ⟨entry, hmem, hentry⟩ := h
      rcases List.mem_cons.1 hmem with rfl | hmem
      · refine ⟨entry, List.mem_cons_self, hentry, fun later hin hlt hp => ?_⟩
        rcases List.mem_cons.1 hin with rfl | hin
        · exact String.lt_irrefl _ hlt
        · exact hlater ⟨later, hin, hp⟩
      · exact absurd ⟨entry, hmem, hentry⟩ hlater

theorem exists_get? {d : Dict α} {key : String} :
    (∃ value, d.get? key = some value) ↔ key ∈ d.entries.map Prod.fst :=
  exists_find?

/-- Dictionaries that answer every key alike are equal. -/
theorem ext_get? {d e : Dict α} (h : ∀ key, d.get? key = e.get? key) : d = e := by
  have hmem : ∀ entry, entry ∈ d.entries ↔ entry ∈ e.entries := by
    intro entry
    rw [mem_entries_iff, mem_entries_iff, h]
  have hperm : d.entries.Perm e.entries :=
    (List.perm_ext_iff_of_nodup d.nodup_keys.of_map e.nodup_keys.of_map).2 hmem
  have hentries : d.entries = e.entries := by
    refine hperm.eq_of_pairwise ?_ d.sorted e.sorted
    intro a b _ _ hab hba
    exact absurd (String.lt_trans hab hba) (String.lt_irrefl _)
  obtain ⟨entries, sorted⟩ := d
  obtain ⟨entries', sorted'⟩ := e
  dsimp only at hentries
  subst hentries
  rfl

/-- A key that is put in several times has the last value; one that is not put in has what it
had. -/
theorem get?_foldl_insert (entries : List (String × α)) (d : Dict α) (key : String) :
    (entries.foldl (fun d (key, value) => d.insert key value) d).get? key =
      (find? entries.reverse key).or (d.get? key) := by
  induction entries generalizing d with
  | nil => rfl
  | cons entry rest ih =>
    obtain ⟨written, v⟩ := entry
    rw [List.foldl_cons, ih, get?_insert, List.reverse_cons, find?_append, Option.or_assoc]
    by_cases h : key = written
    · simp [find?, h]
    · simp [find?, h, Ne.symm h]

theorem get?_ofList (entries : List (String × α)) (key : String) :
    (ofList entries).get? key = find? entries.reverse key := by
  rw [ofList, get?_foldl_insert, get?_empty, Option.or_none]

theorem exists_get?_ofList {entries : List (String × α)} {key : String} :
    (∃ value, (ofList entries).get? key = some value) ↔ key ∈ entries.map Prod.fst := by
  simp only [get?_ofList, exists_find?, List.map_reverse, List.mem_reverse]

/-- What holds of the keys that are put in holds of the keys that are there. -/
theorem forall_keys_ofList {entries : List (String × α)} {p : String → Prop} :
    (∀ entry ∈ (ofList entries).entries, p entry.1) ↔ ∀ entry ∈ entries, p entry.1 := by
  have hkeys : ∀ key, key ∈ (ofList entries).entries.map Prod.fst ↔
      key ∈ entries.map Prod.fst := fun key => by
    rw [← exists_get?, exists_get?_ofList]
  constructor
  · intro h entry hentry
    obtain ⟨other, hother, heq⟩ := List.mem_map.1 ((hkeys _).2 (List.mem_map_of_mem hentry))
    exact heq ▸ h other hother
  · intro h entry hentry
    obtain ⟨other, hother, heq⟩ := List.mem_map.1 ((hkeys _).1 (List.mem_map_of_mem hentry))
    exact heq ▸ h other hother

/-- Of the entries of a key the last one stays. -/
theorem get?_ofList_of_last {front entries back : List (String × α)} {key : String} {value : α}
    (hmem : (key, value) ∈ entries) (honly : ∀ other, (key, other) ∈ entries → other = value)
    (hback : key ∉ back.map Prod.fst) :
    (ofList (front ++ (entries ++ back))).get? key = some value := by
  have hlater : find? back.reverse key = none := by
    rwa [find?_eq_none, List.map_reverse, List.mem_reverse]
  obtain ⟨other, hother⟩ := exists_find?.2 (List.mem_map_of_mem (List.mem_reverse.2 hmem))
  obtain rfl := honly other (List.mem_reverse.1 (mem_of_find? hother))
  rw [get?_ofList, List.reverse_append, List.reverse_append, find?_append, find?_append, hlater,
    Option.none_or, hother, Option.some_or]

/-- Where no key is put in twice, every entry stays. -/
theorem get?_ofList_of_mem {entries : List (String × α)} (h : (entries.map Prod.fst).Nodup)
    {key : String} {value : α} (hmem : (key, value) ∈ entries) :
    (ofList entries).get? key = some value := by
  have honly : ∀ other, (key, other) ∈ entries → other = value := fun other hother =>
    (Prod.mk.inj (List.inj_on_of_nodup_map h hother hmem rfl)).2
  have hlast : (ofList ([] ++ (entries ++ []))).get? key = some value :=
    get?_ofList_of_last hmem honly List.not_mem_nil
  rwa [List.nil_append, List.append_nil] at hlast

/-- Without one of several entries a dictionary is the same exactly if its key is put in again
later, or had the same value before. -/
theorem ofList_without_iff {front back : List (String × α)} {key : String} {value : α} :
    ofList (front ++ (key, value) :: back) = ofList (front ++ back) ↔
      key ∈ back.map Prod.fst ∨ (ofList front).get? key = some value := by
  have hget : ∀ other, (ofList (front ++ (key, value) :: back)).get? other =
      (find? back.reverse other).or
        (if key = other then some value else (ofList front).get? other) := by
    intro other
    rw [get?_ofList, get?_ofList, List.reverse_append, List.reverse_cons, List.append_assoc,
      find?_append, List.singleton_append, find?]
  have hget' : ∀ other, (ofList (front ++ back)).get? other =
      (find? back.reverse other).or ((ofList front).get? other) := by
    intro other
    rw [get?_ofList, get?_ofList, List.reverse_append, find?_append]
  have hback : find? back.reverse key = none ↔ key ∉ back.map Prod.fst := by
    rw [find?_eq_none, List.map_reverse, List.mem_reverse]
  constructor
  · intro h
    by_cases hkey : key ∈ back.map Prod.fst
    · exact .inl hkey
    · have hsame := hget key
      rw [h, hget', hback.2 hkey, Option.none_or, if_pos rfl] at hsame
      exact .inr hsame
  · intro h
    refine ext_get? fun other => ?_
    rw [hget, hget']
    by_cases hother : key = other
    · subst hother
      rw [if_pos rfl]
      rcases h with hkey | hvalue
      · obtain ⟨later, hlater⟩ := Option.ne_none_iff_exists'.1 fun hnone => hback.1 hnone hkey
        rw [hlater]
        rfl
      · rw [hvalue]
    · rw [if_neg hother]

theorem mem_of_mem_ofList {entries : List (String × α)} {entry : String × α}
    (h : entry ∈ (ofList entries).entries) : entry ∈ entries := by
  rw [mem_entries_iff, get?_ofList] at h
  exact List.mem_reverse.1 (mem_of_find? h)

theorem mem_ofList {entries : List (String × α)} (h : (entries.map Prod.fst).Nodup)
    {entry : String × α} : entry ∈ (ofList entries).entries ↔ entry ∈ entries :=
  ⟨mem_of_mem_ofList, fun hmem => mem_entries_iff.2 (get?_ofList_of_mem h hmem)⟩

theorem ofList_entries (d : Dict α) : ofList d.entries = d := by
  refine ext_get? fun key => ?_
  cases h : d.get? key with
  | some value => exact get?_ofList_of_mem d.nodup_keys (mem_entries_iff.2 h)
  | none =>
    rw [get?_ofList, find?_eq_none, List.map_reverse, List.mem_reverse]
    exact find?_eq_none.1 h

end RecordDesk.Dict
