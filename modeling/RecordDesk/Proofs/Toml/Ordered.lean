import RecordDesk.Proofs.Steps
import RecordDesk.Toml.Parse

/-
  Tables of TOML documents in the order of their keys. The lines of a document and the fields
  between braces are put into drafts, which keep their entries in order (`Keeps.alter`), so every
  document that is read has all its tables in order (`ordered_of_parse?`).
-/

namespace RecordDesk.Toml

/-- Entries in the order of their keys, with values of a kind. -/
def Arranged {α : Type} (p : α → Prop) (entries : List (String × α)) : Prop :=
  entries.Pairwise (fun a b => a.1 < b.1) ∧ ∀ entry ∈ entries, p entry.2

theorem arranged_nil {α : Type} (p : α → Prop) : Arranged p [] := ⟨.nil, nofun⟩

theorem Arranged.put {α : Type} {p : α → Prop} {entries : List (String × α)}
    (h : Arranged p entries) (key : String) {value : α} (hvalue : p value) :
    Arranged p (Dict.put key value entries) := by
  refine ⟨Dict.sorted_put key value h.1, fun entry hentry => ?_⟩
  rcases Dict.mem_put hentry with rfl | hentry
  · exact hvalue
  · exact h.2 entry hentry

theorem Arranged.find? {α : Type} {p : α → Prop} {entries : List (String × α)}
    (h : Arranged p entries) {key : String} {value : α}
    (hvalue : Dict.find? entries key = some value) : p value :=
  h.2 (key, value) ((Dict.find?_eq_some_iff h.1).1 hvalue)

/-- Every table in the document has its entries in the order of their keys. -/
inductive Ordered : Toml → Prop
  | plain {v : Toml} (harray : ∀ items, v ≠ array items) (htable : ∀ entries, v ≠ table entries) :
      Ordered v
  | array {items : List Toml} (h : ∀ v ∈ items, Ordered v) : Ordered (array items)
  | table {entries : List (String × Toml)} (hsorted : entries.Pairwise (fun a b => a.1 < b.1))
      (h : ∀ entry ∈ entries, Ordered entry.2) : Ordered (table entries)

theorem Ordered.arranged {entries : List (String × Toml)} (h : Ordered (.table entries)) :
    Arranged Ordered entries := by
  cases h with
  | plain harray htable => exact absurd rfl (htable entries)
  | table hsorted h => exact ⟨hsorted, h⟩

/-! ## Drafts -/

namespace Draft

/-- Every table in the draft has its entries in the order of their keys. -/
inductive Ordered : Draft → Prop
  | value {v : Toml} (h : v.Ordered) : Ordered (value v)
  | table {origin : Origin} {entries : Entries}
      (hsorted : entries.Pairwise (fun a b => a.1 < b.1))
      (h : ∀ entry ∈ entries, Ordered entry.2) : Ordered (table origin entries)
  | items {elements : List Draft} (h : ∀ d ∈ elements, Ordered d) : Ordered (items elements)

theorem Ordered.arranged {origin : Origin} {entries : Entries}
    (h : Ordered (.table origin entries)) : Arranged Ordered entries := by
  cases h with
  | table hsorted h => exact ⟨hsorted, h⟩

theorem Ordered.elements {elements : List Draft} (h : Ordered (.items elements)) :
    ∀ d ∈ elements, Ordered d := by
  cases h with
  | items h => exact h

theorem ordered_table {origin : Origin} {entries : Entries} (h : Arranged Ordered entries) :
    Ordered (.table origin entries) :=
  .table h.1 h.2

/-- The change leaves entries in order. -/
def Keeps (change : Change) : Prop := ∀ origin entries entries', Arranged Ordered entries →
  change origin entries = some entries' → Arranged Ordered entries'

/-- What leaves the table at the end of a way in order leaves all tables on the way in order. -/
theorem Keeps.alter {fresh : Origin} {allow : Origin → Bool} {change : Change} (h : Keeps change)
    (way : List String) : Keeps (alter fresh allow change way) := by
  induction way with
  | nil => exact h
  | cons key way ih =>
    intro origin entries entries' hentries hchange
    rw [Draft.alter] at hchange
    dsimp only at hchange
    split at hchange
    · obtain ⟨inner, hinner, rfl⟩ := Option.map_eq_some_iff.1 hchange
      exact hentries.put key (ordered_table (ih _ _ _ (arranged_nil _) hinner))
    · next origin' old hold =>
      split at hchange
      · obtain ⟨inner, hinner, rfl⟩ := Option.map_eq_some_iff.1 hchange
        exact hentries.put key (ordered_table (ih _ _ _ (hentries.find? hold).arranged hinner))
      · cases hchange
    · next elements hold =>
      have helements := (hentries.find? hold).elements
      split at hchange
      · next origin' old hlast =>
        obtain ⟨inner, hinner, rfl⟩ := Option.map_eq_some_iff.1 hchange
        have hold' := (helements _ (List.mem_of_getLast? hlast)).arranged
        refine hentries.put key (.items fun d hd => ?_)
        rcases List.mem_append.1 hd with hd | hd
        · exact helements d (List.dropLast_subset _ hd)
        · rw [List.mem_singleton.1 hd]
          exact ordered_table (ih _ _ _ hold' hinner)
      · cases hchange
    · cases hchange

theorem keeps_state (key : String) : Keeps (state key) := by
  intro origin entries entries' hentries hchange
  unfold state at hchange
  split at hchange
  · obtain rfl := Option.some.inj hchange
    exact hentries.put key (ordered_table (arranged_nil _))
  · next inner hold =>
    obtain rfl := Option.some.inj hchange
    exact hentries.put key (ordered_table (hentries.find? hold).arranged)
  · cases hchange

theorem keeps_append (key : String) : Keeps (append key) := by
  intro origin entries entries' hentries hchange
  have hnew : Ordered (.table .stated []) := ordered_table (arranged_nil _)
  unfold append at hchange
  split at hchange
  · obtain rfl := Option.some.inj hchange
    exact hentries.put key (.items fun d hd => List.mem_singleton.1 hd ▸ hnew)
  · next elements hold =>
    obtain rfl := Option.some.inj hchange
    refine hentries.put key (.items fun d hd => ?_)
    rcases List.mem_append.1 hd with hd | hd
    · exact (hentries.find? hold).elements d hd
    · exact List.mem_singleton.1 hd ▸ hnew
  · cases hchange

theorem keeps_add (key : KeyPath) {v : Toml} (hv : v.Ordered) : Keeps (add key v) := by
  refine Keeps.alter (fun origin entries entries' hentries hchange => ?_) key.way
  split at hchange
  · cases hchange
  · split at hchange
    · obtain rfl := Option.some.inj hchange
      exact hentries.put key.last (.value hv)
    · cases hchange

theorem finishEntries_eq (entries : Entries) :
    finishEntries entries = entries.map fun entry => (entry.1, finish entry.2) := by
  induction entries with
  | nil => rfl
  | cons entry rest ih => rw [finishEntries, ih]; rfl

theorem finishAll_eq (elements : List Draft) : finishAll elements = elements.map finish := by
  induction elements with
  | nil => rfl
  | cons d rest ih => rw [finishAll, ih]; rfl

theorem Ordered.finish {d : Draft} (h : Ordered d) : d.finish.Ordered := by
  induction h with
  | value h => exact h
  | table hsorted _ ih =>
    rw [Draft.finish, finishEntries_eq]
    refine .table (List.pairwise_map.2 hsorted) fun entry hentry => ?_
    obtain ⟨e, he, rfl⟩ := List.mem_map.1 hentry
    exact ih e he
  | items _ ih =>
    rw [Draft.finish, finishAll_eq]
    refine .array fun v hv => ?_
    obtain ⟨d, hd, rfl⟩ := List.mem_map.1 hv
    exact ih d hd

theorem ordered_finishEntries {entries : Entries} (h : Arranged Ordered entries) :
    Toml.Ordered (.table (finishEntries entries)) :=
  have htable : Ordered (.table .stated entries) := ordered_table h
  htable.finish

/-- The table that fields between braces make is in order if their values are. -/
theorem ordered_of_tableOf? {pairs : List (KeyPath × Toml)} {v : Toml}
    (hpairs : ∀ pair ∈ pairs, pair.2.Ordered) (h : tableOf? pairs = some v) : v.Ordered := by
  obtain ⟨entries, hentries, rfl⟩ := Option.map_eq_some_iff.1 h
  refine ordered_finishEntries (foldlM_some (fun pair hpair start next hstart hnext => ?_)
    (arranged_nil _) hentries)
  exact keeps_add pair.1 (hpairs pair hpair) _ _ _ hstart hnext

end Draft

/-! ## Lines -/

/-- A value on the line is in order. -/
def Line.Ordered : Line → Prop
  | .entry _ v => v.Ordered
  | _ => True

theorem Progress.step_arranged {p p' : Progress} {line : Line} (hline : line.Ordered)
    (hp : Arranged Draft.Ordered p.entries) (h : p.step line = some p') :
    Arranged Draft.Ordered p'.entries := by
  cases line with
  | table key =>
    obtain ⟨entries, hentries, heq⟩ := Option.bind_eq_some_iff.1 h
    obtain rfl := Option.some.inj heq
    exact (Draft.keeps_state key.last).alter key.way _ _ _ hp hentries
  | item key =>
    obtain ⟨entries, hentries, heq⟩ := Option.bind_eq_some_iff.1 h
    obtain rfl := Option.some.inj heq
    exact (Draft.keeps_append key.last).alter key.way _ _ _ hp hentries
  | entry key v =>
    obtain ⟨entries, hentries, heq⟩ := Option.bind_eq_some_iff.1 h
    obtain rfl := Option.some.inj heq
    exact (Draft.keeps_add key hline).alter p.heading _ _ _ hp hentries

theorem ordered_of_ofLines? {lines : List Line} {v : Toml} (hlines : ∀ line ∈ lines, line.Ordered)
    (h : ofLines? lines = some v) : v.Ordered := by
  obtain ⟨last, hlast, rfl⟩ := Option.map_eq_some_iff.1 h
  refine Draft.ordered_finishEntries ?_
  exact foldlM_some (motive := fun p => Arranged Draft.Ordered p.entries)
    (fun line hline p p' hp hstep => Progress.step_arranged (hlines line hline) hp hstep)
    (arranged_nil _) hlast

/-! ## Values -/

theorem ordered_of_scalar? {cs : List Char} {v : Toml} (h : scalar? cs = some v) : v.Ordered := by
  have hplain : (∀ items, v ≠ array items) ∧ ∀ entries, v ≠ table entries := by
    unfold scalar? at h
    split at h
    · obtain rfl := Option.some.inj h
      exact ⟨nofun, nofun⟩
    · split at h
      · obtain rfl := Option.some.inj h
        exact ⟨nofun, nofun⟩
      · split at h
        · obtain rfl := Option.some.inj h
          exact ⟨nofun, nofun⟩
        · split at h
          · obtain rfl := Option.some.inj h
            exact ⟨nofun, nofun⟩
          · obtain ⟨x, -, rfl⟩ := Option.map_eq_some_iff.1 h
            exact ⟨nofun, nofun⟩
  exact .plain hplain.1 hplain.2

theorem ordered_of_bare? {cs rest : List Char} {v : Toml} (h : bare? cs = some (v, rest)) :
    v.Ordered := by
  unfold bare? at h
  dsimp only at h
  obtain ⟨x, hx, heq⟩ := Option.map_eq_some_iff.1 h
  obtain rfl := (Prod.mk.inj heq).1
  exact ordered_of_scalar? hx

/-- Values, items and fields that are read with some fuel are in order. -/
structure ReadsOrdered (fuel : Nat) : Prop where
  value : ∀ depth cs v rest, value? fuel depth cs = some (v, rest) → v.Ordered
  items : ∀ depth cs vs rest, items? fuel depth cs = some (vs, rest) → ∀ v ∈ vs, v.Ordered
  fields : ∀ depth cs fs rest, fields? fuel depth cs = some (fs, rest) → ∀ f ∈ fs, f.2.Ordered

theorem readsOrdered (fuel : Nat) : ReadsOrdered fuel := by
  induction fuel with
  | zero =>
    refine ⟨fun _ _ _ _ h => ?_, fun _ _ _ _ h => ?_, fun _ _ _ _ h => ?_⟩
    · rw [value?] at h; cases h
    · rw [items?] at h; cases h
    · rw [fields?] at h; cases h
  | succ fuel ih =>
    refine ⟨fun depth cs v rest h => ?_, fun depth cs vs rest h => ?_, fun depth cs fs rest h => ?_⟩
    · unfold value? at h
      split at h
      · split at h
        · cases h
        · obtain ⟨⟨vs, more⟩, hvs, heq⟩ := Option.map_eq_some_iff.1 h
          obtain rfl := (Prod.mk.inj heq).1
          exact .array (ih.items _ _ _ _ hvs)
      · split at h
        · cases h
        · obtain ⟨⟨fs, more⟩, hfs, h⟩ := Option.bind_eq_some_iff.1 h
          obtain ⟨t, ht, heq⟩ := Option.bind_eq_some_iff.1 h
          obtain rfl := (Prod.mk.inj (Option.some.inj heq)).1
          exact Draft.ordered_of_tableOf? (ih.fields _ _ _ _ hfs) ht
      · obtain ⟨⟨s, more⟩, -, heq⟩ := Option.map_eq_some_iff.1 h
        obtain rfl := (Prod.mk.inj heq).1
        exact .plain nofun nofun
      · obtain ⟨⟨s, more⟩, -, heq⟩ := Option.map_eq_some_iff.1 h
        obtain rfl := (Prod.mk.inj heq).1
        exact .plain nofun nofun
      · exact ordered_of_bare? h
    · rw [items?] at h
      obtain ⟨start, -, h⟩ := Option.bind_eq_some_iff.1 h
      split at h
      · obtain rfl := (Prod.mk.inj (Option.some.inj h)).1
        exact nofun
      · obtain ⟨⟨v, after⟩, hv, h⟩ := Option.bind_eq_some_iff.1 h
        obtain ⟨last, -, h⟩ := Option.bind_eq_some_iff.1 h
        have hfirst := ih.value _ _ _ _ hv
        split at h
        · obtain rfl := (Prod.mk.inj (Option.some.inj h)).1
          exact fun w hw => List.mem_singleton.1 hw ▸ hfirst
        · obtain ⟨⟨more, end'⟩, hmore, h⟩ := Option.bind_eq_some_iff.1 h
          obtain rfl := (Prod.mk.inj (Option.some.inj h)).1
          exact List.forall_mem_cons.2 ⟨hfirst, ih.items _ _ _ _ hmore⟩
        · cases h
    · rw [fields?] at h
      obtain ⟨start, -, h⟩ := Option.bind_eq_some_iff.1 h
      split at h
      · obtain rfl := (Prod.mk.inj (Option.some.inj h)).1
        exact nofun
      · obtain ⟨⟨key, after⟩, -, h⟩ := Option.bind_eq_some_iff.1 h
        obtain ⟨sign, -, h⟩ := Option.bind_eq_some_iff.1 h
        split at h
        · obtain ⟨body, -, h⟩ := Option.bind_eq_some_iff.1 h
          obtain ⟨⟨v, after⟩, hv, h⟩ := Option.bind_eq_some_iff.1 h
          obtain ⟨last, -, h⟩ := Option.bind_eq_some_iff.1 h
          have hfirst := ih.value _ _ _ _ hv
          split at h
          · obtain rfl := (Prod.mk.inj (Option.some.inj h)).1
            exact fun f hf => List.mem_singleton.1 hf ▸ hfirst
          · obtain ⟨⟨more, end'⟩, hmore, h⟩ := Option.bind_eq_some_iff.1 h
            obtain rfl := (Prod.mk.inj (Option.some.inj h)).1
            exact List.forall_mem_cons.2 ⟨hfirst, ih.fields _ _ _ _ hmore⟩
          · cases h
        · cases h

/-! ## Documents -/

theorem ordered_of_line? {cs rest : List Char} {line : Line} (h : line? cs = some (line, rest)) :
    line.Ordered := by
  unfold line? at h
  split at h
  · obtain ⟨⟨key, after⟩, -, h⟩ := Option.bind_eq_some_iff.1 h
    obtain ⟨_, -, h⟩ := Option.bind_eq_some_iff.1 h
    obtain ⟨_, -, h⟩ := Option.bind_eq_some_iff.1 h
    obtain rfl := (Prod.mk.inj (Option.some.inj h)).1
    trivial
  · obtain ⟨⟨key, after⟩, -, h⟩ := Option.bind_eq_some_iff.1 h
    obtain ⟨_, -, h⟩ := Option.bind_eq_some_iff.1 h
    obtain rfl := (Prod.mk.inj (Option.some.inj h)).1
    trivial
  · obtain ⟨⟨key, after⟩, -, h⟩ := Option.bind_eq_some_iff.1 h
    obtain ⟨_, -, h⟩ := Option.bind_eq_some_iff.1 h
    obtain ⟨⟨v, after⟩, hv, h⟩ := Option.bind_eq_some_iff.1 h
    obtain rfl := (Prod.mk.inj (Option.some.inj h)).1
    exact (readsOrdered _).value _ _ _ _ hv

theorem ordered_of_lines? {fuel : Nat} {cs : List Char} {lines : List Line}
    (h : lines? fuel cs = some lines) : ∀ line ∈ lines, line.Ordered := by
  induction fuel generalizing cs lines with
  | zero => rw [lines?] at h; cases h
  | succ fuel ih =>
    rw [lines?] at h
    obtain ⟨start, -, h⟩ := Option.bind_eq_some_iff.1 h
    split at h
    · obtain rfl := Option.some.inj h
      exact nofun
    · obtain ⟨⟨line, rest⟩, hline, h⟩ := Option.bind_eq_some_iff.1 h
      dsimp only at h
      split at h
      · obtain ⟨more, hmore, h⟩ := Option.bind_eq_some_iff.1 h
        obtain rfl := Option.some.inj h
        exact List.forall_mem_cons.2 ⟨ordered_of_line? hline, ih hmore⟩
      · cases h

/-- Every document that is read has its tables in order. -/
theorem ordered_of_parse? {text : String} {v : Toml} (h : parse? text = some v) : v.Ordered := by
  obtain ⟨lines, hlines, hv⟩ := Option.bind_eq_some_iff.1 h
  exact ordered_of_ofLines? (ordered_of_lines? hlines) hv

end RecordDesk.Toml
