import RecordDesk.Proofs.Derive.Glitch

/-
  Selectors after a change. What a selector gives to its fields depends on its selection alone, and
  the selection is not written any more once it was given. So where nothing else writes these
  fields, they show the selection that is there in the end, also where selectors are filled in or
  calculated themselves (`applyChange_showsSelection`).
-/

namespace RecordDesk

/-- The column reads as the value, or as one that equals it. -/
def Record.Shows (r : Record) (column : String) (v : Value) : Prop :=
  ∃ w, r.lookup column = some w ∧ (w = v ∨ w.same v = true)

theorem Record.Shows.eq_null {r : Record} {column : String} (h : r.Shows column .null) :
    r.lookup column = some .null := by
  obtain ⟨w, hw, rfl | hsame⟩ := h
  · exact hw
  · exact Value.eq_of_same_null hsame ▸ hw

/-- No field is filled in by two copies, and none that is filled in is calculated. -/
structure Table.FilledOnce (t : Table) : Prop where
  once : (t.selectors.flatMap fun s => s.autofill.copies.map (·.target)).Nodup
  uncalculated : ∀ k ∈ t.calculations, ∀ s ∈ t.selectors, ∀ copy ∈ s.autofill.copies,
    copy.target ≠ k.target

/-- Such a field is written by its selector only. -/
theorem Table.FilledOnce.eq_fill {t : Table} (h : t.FilledOnce) {s : Selector}
    (hs : s ∈ t.selectors) {copy : ColumnCopy} (hcopy : copy ∈ s.autofill.copies)
    {op : Plan.Operation} (hop : op.Of t) (hwrites : op.Writes copy.target) : op = .fill s := by
  cases op with
  | calculate k => exact absurd hwrites (h.uncalculated k hop s hs copy hcopy)
  | fill other =>
    by_contra hne
    have hdisjoint := (List.nodup_flatMap.1 h.once).2
    have : Std.Symm (Function.onFun List.Disjoint
        fun s : Selector => s.autofill.copies.map (·.target)) := ⟨fun _ _ h => h.symm⟩
    obtain ⟨written, hwritten, htarget⟩ := hwrites
    exact hdisjoint.forall hop hs (fun e => hne (e ▸ rfl))
      (htarget ▸ List.mem_map_of_mem hwritten) (List.mem_map_of_mem hcopy)

namespace Plan

variable {t : Table} {p : Plan} {values working : Record} {changed name : String}
  {lookups : Lookups} {s : Selector}

/-! ## What a selector gives -/

theorem filledValues_of_lookup_eq {other : Record}
    (h : other.lookup s.field = working.lookup s.field) :
    filledValues s other lookups = filledValues s working lookups := by
  rw [filledValues, filledValues, h]

theorem filledValues_of_blank (h : Value.isBlank (working.lookup s.field) = true) :
    filledValues s working lookups = s.autofill.copies.map fun copy => (copy.target, .null) := by
  unfold filledValues
  split
  · rfl
  · next v hv => rw [if_pos (hv ▸ h)]

theorem filledValues_of_selected {v : Value} (hv : working.lookup s.field = some v)
    (h : Value.isBlank (some v) = false) : filledValues s working lookups =
      match lookups.rowFor? s.autofill.sourceTable s.autofill.sourceColumn v with
      | none => []
      | some row =>
        s.autofill.copies.map fun copy => (copy.target, (row.lookup copy.source).getD .null) := by
  cases hrow : lookups.rowFor? s.autofill.sourceTable s.autofill.sourceColumn v <;>
    simp [filledValues, hv, h, hrow]

/-- It gives values to all of its fields or to none. -/
theorem fields_filledValues (s : Selector) (working : Record) (lookups : Lookups) :
    (filledValues s working lookups).map Prod.fst = [] ∨
      (filledValues s working lookups).map Prod.fst = s.autofill.copies.map (·.target) := by
  have hall : ∀ value : ColumnCopy → Value, (s.autofill.copies.map fun copy =>
      (copy.target, value copy)).map Prod.fst = s.autofill.copies.map (·.target) :=
    fun _ => List.map_map
  cases hblank : Value.isBlank (working.lookup s.field) with
  | true => exact .inr (filledValues_of_blank hblank ▸ hall _)
  | false =>
    cases hv : working.lookup s.field with
    | none => rw [hv] at hblank; cases hblank
    | some v =>
      rw [filledValues_of_selected hv (hv ▸ hblank)]
      split
      · exact .inl rfl
      · exact .inr (hall _)

/-! ## Entries that were made -/

/-- The entries have been made from the one record to the other, as far as the name is concerned:
it reads as its entry, and as before if it has none. -/
structure Entered (entries : List (String × Value)) (before after : Record) (name : String) :
    Prop where
  shows : ∀ v, (name, v) ∈ entries → after.Shows name v
  kept : name ∉ entries.map Prod.fst → after.lookup name = before.lookup name

theorem Entered.before {entries : List (String × Value)} {first before after : Record}
    (h : Entered entries before after name) (hname : name ∉ entries.map Prod.fst →
      before.lookup name = first.lookup name) : Entered entries first after name :=
  ⟨h.shows, fun hnot => (h.kept hnot).trans (hname hnot)⟩

theorem Entered.after {entries : List (String × Value)} {before after last : Record}
    (h : Entered entries before after name) (hname : last.lookup name = after.lookup name) :
    Entered entries before last name :=
  ⟨fun v hv => by rw [Record.Shows, hname]; exact h.shows v hv,
    fun hnot => hname.trans (h.kept hnot)⟩

/-- An assignment, also where nothing has to be written. -/
theorem shows_assign (pass : Pass) (field : String) (v : Value) :
    (assign pass field v).working.Shows field v := by
  rcases working_assign pass field v with ⟨hw, old, hold, hsame⟩ | hw
  · exact ⟨old, hw ▸ hold, .inr hsame⟩
  · exact ⟨v, hw ▸ Record.lookup_insert_self _ field v, .inl rfl⟩

/-- Assignments to several fields one after another. -/
theorem entered_foldl_assign (ht : t.Distinct) (hname : t.HasField name)
    {entries : List (String × Value)} (hfields : ∀ entry ∈ entries, t.HasField entry.1)
    (hnd : (entries.map Prod.fst).Nodup) (pass : Pass) :
    Entered entries pass.working
      (entries.foldl (fun pass (field, value) => assign pass field value) pass).working name := by
  induction entries generalizing pass with
  | nil => exact ⟨fun _ h => absurd h List.not_mem_nil, fun _ => rfl⟩
  | cons entry rest ih =>
    obtain ⟨field, value⟩ := entry
    obtain ⟨hfield, hfields⟩ := List.forall_mem_cons.1 hfields
    obtain ⟨hnew, hnd⟩ := List.nodup_cons.1 hnd
    have hrest := ih hfields hnd (assign pass field value)
    rw [List.foldl_cons]
    by_cases heq : name = field
    · subst heq
      refine ⟨fun v hv => ?_, fun hnot => absurd List.mem_cons_self hnot⟩
      -- the entry of the name is this one, and no later one writes it
      rcases List.mem_cons.1 hv with heq | hv
      · obtain ⟨-, rfl⟩ := Prod.mk.inj heq
        rw [Record.Shows, hrest.kept hnew]
        exact shows_assign pass name v
      · exact absurd (List.mem_map_of_mem hv) hnew
    · have hapart := ht.apart hname hfield heq
      refine ⟨fun v hv => ?_, fun hnot => ?_⟩
      · rcases List.mem_cons.1 hv with heq' | hv
        · exact absurd (Prod.mk.inj heq').1 heq
        · exact hrest.shows v hv
      · rw [hrest.kept fun hmem => hnot (List.mem_cons_of_mem _ hmem)]
        exact alikeBeside_assign pass field value name hapart

theorem entered_fill (hp : Follows p t) (ht : t.Distinct) (hf : t.FilledOnce)
    (hs : s ∈ t.selectors) (hname : t.HasField name) (pass : Pass) :
    Entered (filledValues s pass.working lookups) pass.working
      (perform lookups pass (.fill s)).working name := by
  refine entered_foldl_assign ht hname (fun entry hentry => ?_) ?_ pass
  · exact hp.hasField_of_writes (show (Operation.fill s).Of t from hs) (mem_filledValues hentry)
  · rcases fields_filledValues s pass.working lookups with heq | heq
    · exact heq ▸ .nil
    · exact heq ▸ (List.nodup_flatMap.1 hf.once).1 s hs

/-- In a run of operations a selector makes the entries of its selection at the end of the run. -/
theorem Orderly.entered (hp : Follows p t) (ht : t.Distinct) (hf : t.FilledOnce)
    {ops : List Operation} (h : Orderly t ops) (hs : s ∈ t.selectors) (hmem : .fill s ∈ ops)
    {copy : ColumnCopy} (hcopy : copy ∈ s.autofill.copies) (start : Pass) :
    Entered (filledValues s (valuesAfter lookups start ops) lookups) start.working
      (valuesAfter lookups start ops) copy.target := by
  have hname : t.HasField copy.target := hp.targets s hs copy hcopy
  have hother : ∀ op ∈ ops, op ≠ .fill s → ¬ op.Writes copy.target := fun op hop hne hwrites =>
    hne (hf.eq_fill hs hcopy (h.of op hop) hwrites)
  have upto : ∀ before after, ops = before ++ after → .fill s ∈ before →
      Entered (filledValues s (valuesAfter lookups start ops) lookups) start.working
        (valuesAfter lookups start before) copy.target := by
    intro before
    induction before using List.reverseRecOn with
    | nil => exact fun _ _ hmem => absurd hmem List.not_mem_nil
    | append_singleton before op ih =>
      intro after hsplit hmem
      have hsplit' : ops = before ++ op :: after := by simpa using hsplit
      have hof : ∀ op ∈ before, op ∈ ops := fun op hop => by simp [hsplit', hop]
      rw [valuesAfter_concat]
      by_cases hop : op = .fill s
      · -- it gives what it gives in the end, and so it did if it has come before
        subst hop
        have hgiven : filledValues s (valuesAfter lookups start ops) lookups =
            filledValues s (valuesAfter lookups start before) lookups :=
          filledValues_of_lookup_eq (h.lookup_reads hp ht hsplit' rfl)
        have hkept : copy.target ∉
              (filledValues s (valuesAfter lookups start ops) lookups).map Prod.fst →
            (valuesAfter lookups start before).lookup copy.target =
              start.working.lookup copy.target := by
          intro hnot
          by_cases hbefore : .fill s ∈ before
          · exact (ih _ hsplit' hbefore).kept hnot
          · exact lookup_run hp ht (fun op hop => h.of op (hof op hop)) hname
              (fun op hop => hother op (hof op hop) fun e => hbefore (e ▸ hop)) lookups start
        rw [hgiven] at hkept ⊢
        exact (entered_fill hp ht hf hs hname _).before hkept
      · have hbefore : .fill s ∈ before := by simpa [Ne.symm hop] using hmem
        have hmem' : op ∈ ops := by simp [hsplit']
        exact (ih _ hsplit' hbefore).after
          (lookup_perform hp ht (h.of op hmem') hname (hother op hmem' hop) _)
  exact upto ops [] (List.append_nil _).symm hmem

/-! ## The selectors of a pass -/

/-- A selector fills in its fields in the pass exactly if it is touched. -/
theorem fill_mem_operations (hp : Follows p t) (hs : s ∈ t.selectors) :
    .fill s ∈ operations p values changed lookups ↔ Touched p values changed lookups s.field := by
  obtain ⟨done, rest, hsplit⟩ := List.append_of_mem
    ((hp.mem_order s.field).2 (.inr ⟨s, hs, .inl rfl⟩))
  have hdirty : .fill s ∈ operations p values changed lookups ↔
      s.field ∈ (spreadAt p values changed lookups done s.field).dirty := by
    rw [mem_operations hp.nodup]
    constructor
    · rintro ⟨done', field, rest', hsplit', hop⟩
      rcases mem_operationsIn.1 hop with ⟨k, -, ⟨⟩⟩ | ⟨_, -, rfl, hdirty, ⟨⟩⟩
      rwa [Graph.eq_of_split (hsplit ▸ hp.nodup) (hsplit.symm.trans hsplit')]
    · intro hdirty
      exact ⟨done, s.field, rest, hsplit,
        mem_operationsIn.2 (.inr ⟨s, hp.selectors ▸ hs, rfl, hdirty, rfl⟩)⟩
  rw [hdirty, mem_dirty_spreadAt hp.nodup hsplit, mem_dirty_spreadAfter hp.nodup hsplit, Touched]
  constructor
  · rintro ((heq | ⟨hrecalculated, -⟩ | ⟨other, hfills, -⟩) | ⟨hrecalculated, -⟩)
    · exact .inl heq
    · exact .inr (.inl hrecalculated)
    · exact .inr (.inr ⟨other, hfills⟩)
    · exact .inr (.inl hrecalculated)
  · rintro (heq | hrecalculated | ⟨other, hfills⟩)
    · exact .inl (.inl heq)
    · exact .inr ⟨hrecalculated, rfl⟩
    · -- what fills the selector in stands before it
      obtain ⟨hother, copy, hcopy, htarget⟩ := exists_copy_of_fills hp hfills
      have hbefore := hp.standsBefore (Table.depends_of_mem_copies hother hcopy)
      rw [htarget, Graph.standsBefore_iff hp.nodup hsplit] at hbefore
      exact .inl (.inr (.inr ⟨other, hfills, hbefore⟩))

/-- The fields that a selector fills in show what is selected after a change: they are null where
nothing is, they read as the columns of the selected row, and where there is no such row they read
as before. -/
structure ShowsSelection (lookups : Lookups) (before after : Record) (s : Selector) : Prop where
  cleared : Value.isBlank (after.lookup s.field) = true → ∀ copy ∈ s.autofill.copies,
    after.lookup copy.target = some .null
  copied : ∀ v row, after.lookup s.field = some v → Value.isBlank (some v) = false →
    lookups.rowFor? s.autofill.sourceTable s.autofill.sourceColumn v = some row →
    ∀ copy ∈ s.autofill.copies, after.Shows copy.target ((row.lookup copy.source).getD .null)
  unmatched : ∀ v, after.lookup s.field = some v → Value.isBlank (some v) = false →
    lookups.rowFor? s.autofill.sourceTable s.autofill.sourceColumn v = none →
    ∀ copy ∈ s.autofill.copies, after.lookup copy.target = before.lookup copy.target

theorem showsSelection_of_entered {before after : Record} (h : ∀ copy ∈ s.autofill.copies,
    Entered (filledValues s after lookups) before after copy.target) :
    ShowsSelection lookups before after s where
  cleared hblank copy hcopy := by
    have hcopied := h copy hcopy
    rw [filledValues_of_blank hblank] at hcopied
    exact (hcopied.shows .null (List.mem_map.2 ⟨copy, hcopy, rfl⟩)).eq_null
  copied v row hv hblank hrow copy hcopy := by
    have hcopied := h copy hcopy
    simp only [filledValues_of_selected hv hblank, hrow] at hcopied
    exact hcopied.shows _ (List.mem_map.2 ⟨copy, hcopy, rfl⟩)
  unmatched v hv hblank hrow copy hcopy := by
    have hcopied := h copy hcopy
    simp only [filledValues_of_selected hv hblank, hrow] at hcopied
    exact hcopied.kept List.not_mem_nil

/-- Where no field is filled in twice or both filled in and calculated, and the names of form fields
are distinct in any case, every selector that is changed, calculated or filled in during the pass
shows its final selection; what any other selector fills in reads as before. -/
theorem applyChange_showsSelection (h : ofTable t = .ok p) (ht : t.Distinct) (hf : t.FilledOnce)
    (values : Record) (changed : String) (lookups : Lookups) :
    let after := (p.applyChange values changed lookups).applyTo values
    ∀ s ∈ t.selectors,
      (Touched p values changed lookups s.field → ShowsSelection lookups values after s) ∧
      (¬ Touched p values changed lookups s.field → ∀ copy ∈ s.autofill.copies,
        after.lookup copy.target = values.lookup copy.target) := by
  intro after s hs
  have hp := follows_of_ofTable h
  have hops := orderly_operations hp values changed lookups
  have hafter : after =
      valuesAfter lookups ⟨values, .empty⟩ (operations p values changed lookups) :=
    applyTo_applyChange_eq hp.nodup values changed lookups
  rw [hafter, ← fill_mem_operations hp hs]
  constructor
  · intro hmem
    exact showsSelection_of_entered fun copy hcopy =>
      hops.entered hp ht hf hs hmem hcopy ⟨values, .empty⟩
  · intro hnot copy hcopy
    refine lookup_run hp ht hops.of (hp.targets s hs copy hcopy) (fun op hop hwrites => ?_)
      lookups ⟨values, .empty⟩
    exact hnot (hf.eq_fill hs hcopy (hops.of op hop) hwrites ▸ hop)

/-- The customer sets the currency, which is a selection itself and sets the rate. -/
theorem applyChange_showsSelection_quoteTable :
    ∃ p, ofTable quoteTable = .ok p ∧ quoteTable.Distinct ∧ quoteTable.FilledOnce ∧
      ∀ s ∈ quoteTable.selectors, ShowsSelection quoteLookups quote
        ((p.applyChange quote "customer" quoteLookups).applyTo quote) s := by
  obtain ⟨p, h, hrun⟩ := exists_of_any (x := ofTable quoteTable)
    (p := fun p => decide (∀ s ∈ quoteTable.selectors, ∃ copy ∈ s.autofill.copies,
      (((p.applyChange quote "customer" quoteLookups).applyTo quote).lookup copy.target).isSome ≠
        (quote.lookup copy.target).isSome))
    (by decide +kernel)
  have ht : quoteTable.Distinct := by decide +kernel
  have hf : quoteTable.FilledOnce := ⟨by decide +kernel, by decide +kernel⟩
  refine ⟨p, h, ht, hf, fun s hs => ?_⟩
  have hshows := applyChange_showsSelection h ht hf quote "customer" quoteLookups s hs
  -- a selector that was not touched would have left its fields without a value
  obtain ⟨copy, hcopy, hset⟩ := of_decide_eq_true hrun s hs
  exact hshows.1 (not_not.1 fun hnot => hset (congrArg _ (hshows.2 hnot copy hcopy)))

end Plan

end RecordDesk
