import RecordDesk.Proofs.Derive.Order
import RecordDesk.Proofs.Derive.Pass

/-
  Calculated fields that are up to date. In the order of dependencies each calculation comes after
  everything it reads, so one pass is enough: a full calculation leaves every target with the value
  of its formula (`recomputeAll_current`), and so does the pass that follows a change, if they were
  up to date before it (`applyChange_current`).
-/

namespace RecordDesk

namespace Table

/-- No form field has the name of another one in upper or lower case, so none is looked up in place
of another. -/
def Distinct (t : Table) : Prop :=
  ∀ a b, t.HasField a → t.HasField b → a ≠ b → b ≠ Text.upper a ∧ b ≠ Text.lower a

instance (t : Table) : Decidable t.Distinct :=
  decidable_of_iff (∀ a ∈ t.formFields.map FormField.name, ∀ b ∈ t.formFields.map FormField.name,
      a ≠ b → b ≠ Text.upper a ∧ b ≠ Text.lower a)
    ⟨fun h a b ha hb => h a ha b hb, fun h a ha b hb => h a b ha hb⟩

theorem Distinct.apart {t : Table} (h : t.Distinct) {a b : String} (ha : t.HasField a)
    (hb : t.HasField b) (hne : a ≠ b) : Apart a b :=
  ⟨hne.symm, (h a b ha hb hne).1, (h a b ha hb hne).2⟩

/-- The calculations of a table are set off by just the fields that they refer to, no autofill
writes to a calculated field, and the names of form fields are distinct in any case. -/
structure Plain (t : Table) : Prop where
  untriggered : ∀ f ∈ t.formFields, ∀ c, f.calculation = some c → c.enabled = true →
    c.triggers = []
  unfilled : ∀ k ∈ t.calculations, ∀ s ∈ t.selectors, ∀ copy ∈ s.autofill.copies,
    copy.target ≠ k.target
  distinct : t.Distinct

theorem Plain.triggers_eq {t : Table} (h : t.Plain) {k : Calculated} (hk : k ∈ t.calculations) :
    k.triggers = k.formula.fields := by
  obtain ⟨f, hf, hfk⟩ := List.mem_filterMap.1 hk
  simp only [FormField.calculated?, Option.bind_eq_bind, Option.bind_eq_some_iff,
    Option.filter_eq_some_iff, Option.pure_def, Option.some.injEq] at hfk
  obtain ⟨c, ⟨hc, henabled⟩, formula, -, rfl⟩ := hfk
  simp [h.untriggered f hf c hc henabled]

end Table

namespace Plan

/-- The target of a calculation reads as what its formula gives on the same record. -/
def Current (values : Record) (k : Calculated) : Prop :=
  values.lookup k.target = some (calculatedValue k.formula values).1

/-- The calculations of some of the fields are up to date. -/
def CurrentOn (t : Table) (fields : List String) (values : Record) : Prop :=
  ∀ k ∈ t.calculations, k.target ∈ fields → Current values k

variable {t : Table} {p : Plan}

/-! ## Writing a field -/

/-- Where a form field is written that a formula does not read, its fields read as before. -/
theorem lookup_fields_beside (hp : Follows p t) (ht : t.Distinct) {k : Calculated}
    (hk : k ∈ t.calculations) {field : String} (hfield : t.HasField field) {r s : Record}
    (hrs : Record.AlikeBeside field r s) (hreads : field ∉ k.formula.fields) :
    ∀ name ∈ k.formula.fields, s.lookup name = r.lookup name := by
  intro name hname
  have hne : name ≠ field := fun e => hreads (e ▸ hname)
  exact hrs name (ht.apart ((hp.known k hk).fields name hname) hfield hne)

/-- A calculation stays up to date when a form field is written that it neither reads nor
writes. -/
theorem Current.beside (hp : Follows p t) (ht : t.Distinct) {k : Calculated}
    (hk : k ∈ t.calculations) {field : String} (hfield : t.HasField field) {r s : Record}
    (hrs : Record.AlikeBeside field r s) (h : Current r k) (htarget : k.target ≠ field)
    (hreads : field ∉ k.formula.fields) : Current s k := by
  have hsame : s.lookup k.target = r.lookup k.target :=
    hrs k.target (ht.apart (hp.known k hk).target hfield htarget)
  have hfields := lookup_fields_beside hp ht hk hfield hrs hreads
  rw [Current, hsame, calculatedValue_congr hfields]
  exact h

/-- A calculation that does not read its own target is up to date once it was made. -/
theorem current_calculate (hp : Follows p t) (ht : t.Distinct) {c : Calculated}
    (hc : c ∈ t.calculations) (hself : c.target ∉ c.formula.fields) (pass : Pass) :
    Current (calculate pass c).working c := by
  have hfields := lookup_fields_beside hp ht hc (hp.known c hc).target
    (alikeBeside_calculate pass c) hself
  rw [Current, lookup_calculate_self, calculatedValue_congr hfields]

/-! ## The turn of a field -/

/-- The turn of a calculated field brings its calculation up to date and leaves those before it as
they are: they read nothing that comes later. -/
theorem CurrentOn.calculate (hp : Follows p t) (ht : t.Distinct) {done rest : List String}
    {c : Calculated} (hc : c ∈ t.calculations) (hsplit : p.order = done ++ c.target :: rest)
    {pass : Pass} (h : CurrentOn t done pass.working) :
    CurrentOn t (done ++ [c.target]) (Plan.calculate pass c).working := by
  have hnew := hp.not_mem_done hsplit
  intro k hk hmem
  rcases List.mem_append.1 hmem with hmem | hmem
  · refine (h k hk hmem).beside hp ht hk (hp.known c hc).target (alikeBeside_calculate pass c)
      (fun e => hnew (e ▸ hmem)) fun hreads => hnew ?_
    exact hp.forward.mem_front hsplit hmem (Table.depends_of_mem_fields hk hreads)
  · have hkc : k = c := hp.unique_target hk hc (List.mem_singleton.1 hmem)
    subst hkc
    refine current_calculate hp ht hk (fun hreads => hnew ?_) pass
    exact hp.forward done k.target rest hsplit _ (Table.depends_of_mem_fields hk hreads)

/-- The turn of a field that is not calculated. -/
theorem CurrentOn.skip {done : List String} {field : String} {values : Record}
    (h : CurrentOn t done values) (hfield : ∀ k ∈ t.calculations, k.target ≠ field) :
    CurrentOn t (done ++ [field]) values := by
  intro k hk hmem
  rcases List.mem_append.1 hmem with hmem | hmem
  · exact h k hk hmem
  · exact absurd (List.mem_singleton.1 hmem) (hfield k hk)

/-- A full calculation brings every calculated field up to date, whatever the record. -/
theorem recomputeAll_current (hp : Follows p t) (ht : t.Distinct) (values : Record) :
    ∀ k ∈ t.calculations, Current ((p.recomputeAll values).applyTo values) k := by
  have hall : CurrentOn t p.order
      (p.order.foldl (recalculateAlways p) ⟨values, .empty⟩).working := by
    refine foldl_done (motive := fun done (pass : Pass) => CurrentOn t done pass.working) ?_ ?_
    · intro done field rest pass hsplit h
      unfold recalculateAlways
      split
      · next c hget =>
        obtain ⟨hc, rfl⟩ := (hp.calculation_iff field c).1 hget
        exact h.calculate hp ht hc hsplit
      · next hget => exact h.skip (hp.ne_of_get?_none hget)
    · intro k _ hmem
      exact absurd hmem List.not_mem_nil
  rw [applyTo_recomputeAll]
  exact fun k hk => hall k hk (hp.target_mem hk)

/-! ## The pass after a change -/

/-- What holds of the pass after a change when the turns of some fields are over: their calculations
are up to date, and any other one is up to date too or has a field that is dirty. -/
structure Settled (t : Table) (done : List String) (spread : Spread) : Prop where
  current : CurrentOn t done spread.pass.working
  pending : ∀ k ∈ t.calculations, Current spread.pass.working k ∨
    ∃ name ∈ k.formula.fields, name ∈ spread.dirty

/-- The turn of a field up to the point where it fills in others. -/
theorem Settled.recalculate (hp : Follows p t) (ht : t.Plain) {changed : String}
    (hchanged : ∀ k ∈ t.calculations, k.target ≠ changed) {done rest : List String}
    {field : String} (hsplit : p.order = done ++ field :: rest) {spread : Spread}
    (h : Settled t done spread) :
    Settled t (done ++ [field]) (Plan.recalculate p changed spread field) := by
  unfold Plan.recalculate
  split
  · next heq =>
    exact ⟨h.current.skip fun k hk => heq ▸ hchanged k hk, h.pending⟩
  · split
    · next hget => exact ⟨h.current.skip (hp.ne_of_get?_none hget), h.pending⟩
    · next c hget =>
      obtain ⟨hc, rfl⟩ := (hp.calculation_iff field c).1 hget
      split
      · have hcurrent := h.current.calculate hp ht.distinct hc hsplit
        refine ⟨hcurrent, fun k hk => ?_⟩
        by_cases hreads : c.target ∈ k.formula.fields
        · exact .inr ⟨c.target, hreads, List.mem_cons_self⟩
        by_cases htarget : k.target = c.target
        · exact .inl (hcurrent k hk (by simp [htarget]))
        rcases h.pending k hk with hk' | ⟨name, hname, hdirty⟩
        · exact .inl (hk'.beside hp ht.distinct hk (hp.known c hc).target
            (alikeBeside_calculate spread.pass c) htarget hreads)
        · exact .inr ⟨name, hname, List.mem_cons_of_mem _ hdirty⟩
      · -- no field of its formula is dirty, so it was up to date before its turn
        next hclean =>
        have hc' : Current spread.pass.working c := by
          rcases h.pending c hc with hc' | ⟨name, hname, hdirty⟩
          · exact hc'
          · refine absurd (List.any_eq_true.2 ⟨name, ?_, by simpa using hdirty⟩) hclean
            exact ht.triggers_eq hc ▸ hname
        refine ⟨fun k hk hmem => ?_, h.pending⟩
        rcases List.mem_append.1 hmem with hmem | hmem
        · exact h.current k hk hmem
        · exact hp.unique_target hk hc (List.mem_singleton.1 hmem) ▸ hc'

/-- Filling in a field that comes later and is not calculated. -/
theorem Settled.fill (hp : Follows p t) (ht : t.Distinct) {done rest : List String}
    (hsplit : p.order = done ++ rest) {spread : Spread} (h : Settled t done spread)
    {field : String} (hfield : t.HasField field) (hlater : field ∉ done)
    (hcalculated : ∀ k ∈ t.calculations, k.target ≠ field) (v : Value) :
    Settled t done ⟨assign spread.pass field v, field :: spread.dirty⟩ where
  current k hk hmem := by
    refine (h.current k hk hmem).beside hp ht hk hfield (alikeBeside_assign spread.pass field v)
      (hcalculated k hk) fun hreads => hlater ?_
    exact hp.forward.mem_front hsplit hmem (Table.depends_of_mem_fields hk hreads)
  pending k hk := by
    by_cases hreads : field ∈ k.formula.fields
    · exact .inr ⟨field, hreads, List.mem_cons_self⟩
    rcases h.pending k hk with hk' | ⟨name, hname, hdirty⟩
    · exact .inl (hk'.beside hp ht hk hfield (alikeBeside_assign spread.pass field v)
        (hcalculated k hk) hreads)
    · exact .inr ⟨name, hname, List.mem_cons_of_mem _ hdirty⟩

/-- The turn of a field: what it fills in comes later in the order. -/
theorem Settled.turn (hp : Follows p t) (ht : t.Plain) {changed : String}
    (hchanged : ∀ k ∈ t.calculations, k.target ≠ changed) (lookups : Lookups)
    {done rest : List String} {field : String} (hsplit : p.order = done ++ field :: rest)
    {spread : Spread} (h : Settled t done spread) :
    Settled t (done ++ [field]) (Plan.turn p changed lookups spread field) := by
  have hsplit' : p.order = (done ++ [field]) ++ rest := by simpa using hsplit
  have hrecalculated := h.recalculate hp ht hchanged hsplit
  unfold Plan.turn
  dsimp only
  split
  · refine List.foldlRecOn _ _ (motive := Settled t (done ++ [field])) hrecalculated ?_
    intro spread hspread s hmem
    obtain ⟨hs, hsfield⟩ := List.mem_filter.1 hmem
    rw [hp.selectors] at hs
    obtain rfl := beq_iff_eq.1 hsfield
    refine List.foldlRecOn _ _ (motive := Settled t (done ++ [s.field])) hspread ?_
    intro spread hspread entry hentry
    obtain ⟨copy, hcopy, hcopytarget⟩ := mem_filledValues hentry
    have hdepends := Table.depends_of_mem_copies hs hcopy
    rw [hcopytarget] at hdepends
    have hfield : t.HasField entry.1 := hcopytarget ▸ hp.targets s hs copy hcopy
    refine hspread.fill hp ht.distinct hsplit' hfield ?_ ?_ entry.2
    · intro hmem
      have hnew := hp.not_mem_done hsplit
      rcases List.mem_append.1 hmem with hmem | hmem
      · exact hnew (hp.forward.mem_front hsplit hmem hdepends)
      · rw [List.mem_singleton.1 hmem] at hdepends
        exact hnew (hp.forward done s.field rest hsplit _ hdepends)
    · intro k hk
      exact hcopytarget ▸ (ht.unfilled k hk s hs copy hcopy).symm
  · exact hrecalculated

/-- The pass that follows a change of a field that is not calculated keeps every calculated field up
to date. -/
theorem applyChange_current (hp : Follows p t) (ht : t.Plain) {values : Record}
    (h : ∀ k ∈ t.calculations, Current values k) {field : String} (hfield : t.HasField field)
    (hcalculated : ∀ k ∈ t.calculations, k.target ≠ field) (v : Value) (lookups : Lookups) :
    ∀ k ∈ t.calculations,
      Current ((p.applyChange (values.insert field v) field lookups).applyTo
        (values.insert field v)) k := by
  have hstart : Settled t [] ⟨⟨values.insert field v, .empty⟩, [field]⟩ := by
    refine ⟨fun k _ hmem => absurd hmem List.not_mem_nil, fun k hk => ?_⟩
    by_cases hreads : field ∈ k.formula.fields
    · exact .inr ⟨field, hreads, List.mem_singleton_self field⟩
    · exact .inl ((h k hk).beside hp ht.distinct hk hfield
        (Record.alikeBeside_insert values field v) (hcalculated k hk) hreads)
  have hall : Settled t p.order
      (p.order.foldl (turn p field lookups) ⟨⟨values.insert field v, .empty⟩, [field]⟩) :=
    foldl_done (motive := Settled t) (fun done name rest spread hsplit hspread =>
      hspread.turn hp ht hcalculated lookups hsplit) hstart
  rw [applyTo_applyChange]
  exact fun k hk => hall.current k hk (hp.target_mem hk)

end Plan

end RecordDesk
