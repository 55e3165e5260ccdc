import RecordDesk.Proofs.Derive.Current

/-
  The operations that a pass is made of: calculations, and selectors that fill in their fields. Done
  in the turns of their fields they stand in an order in which nothing is written any more after it
  was read or calculated (`orderly_flatMap`). So what was read reads the same at the end of the pass
  (`Orderly.lookup_reads`), and what was done can be seen from the final values alone: a calculated
  field is up to date (`Orderly.current`), and what has failed fails on them (`Orderly.errors_run`).
-/

namespace RecordDesk

namespace Graph

/-- In an order every name stands before those that come later. -/
theorem pairwise_standsBefore (order : List String) : order.Pairwise (StandsBefore order) := by
  have upto : ∀ rest done, order = done ++ rest → rest.Pairwise (StandsBefore order) := by
    intro rest
    induction rest with
    | nil => intro _ _; exact .nil
    | cons a rest ih =>
      intro done hsplit
      refine List.pairwise_cons.2 ⟨fun b hb => ?_, ih (done ++ [a]) (by simpa using hsplit)⟩
      obtain ⟨mid, after, rfl⟩ := List.append_of_mem hb
      exact ⟨done ++ a :: mid, after, by simpa using hsplit, by simp⟩
  exact upto order [] rfl

theorem not_standsBefore_self {order : List String} (hnd : order.Nodup) (a : String) :
    ¬ StandsBefore order a a := by
  rintro ⟨done, rest, rfl, hmem⟩
  exact (List.nodup_append.1 hnd).2.2 a hmem a List.mem_cons_self rfl

end Graph

namespace Plan

/-- What is done in the turn of a field: its calculation is made, or a selector that stands in it
fills in others. -/
inductive Operation
  | calculate (k : Calculated)
  | fill (s : Selector)

namespace Operation

/-- The field in whose turn it is done. -/
def field : Operation → String
  | calculate k => k.target
  | fill s => s.field

/-- The operation looks the field up for what it does. -/
def Reads : Operation → String → Prop
  | calculate k, name => name ∈ k.formula.fields
  | fill s, name => name = s.field

/-- The operation may write to the field. -/
def Writes : Operation → String → Prop
  | calculate k, name => name = k.target
  | fill s, name => ∃ copy ∈ s.autofill.copies, copy.target = name

/-- The outcome of the operation is still there as long as the field is not written. -/
def RestsOn : Operation → String → Prop
  | calculate k, name => name ∈ k.formula.fields ∨ name = k.target
  | fill s, name => name = s.field

/-- The operation is one of the table's. -/
def Of (t : Table) : Operation → Prop
  | calculate k => k ∈ t.calculations
  | fill s => s ∈ t.selectors

/-- The calculation that the operation makes. -/
def calculation? : Operation → Option Calculated
  | calculate k => some k
  | fill _ => none

theorem Reads.restsOn {op : Operation} {name : String} (h : op.Reads name) : op.RestsOn name := by
  cases op with
  | calculate k => exact .inl h
  | fill s => exact h

end Operation

/-- The calculations that operations make, in order. -/
def evaluated (ops : List Operation) : List Calculated := ops.filterMap Operation.calculation?

theorem evaluated_append (ops others : List Operation) :
    evaluated (ops ++ others) = evaluated ops ++ evaluated others :=
  List.filterMap_append

theorem mem_evaluated {ops : List Operation} {k : Calculated} :
    k ∈ evaluated ops ↔ .calculate k ∈ ops := by
  rw [evaluated, List.mem_filterMap]
  constructor
  · rintro ⟨op, hop, hk⟩
    cases op with
    | calculate c => exact Option.some.inj hk ▸ hop
    | fill s => cases hk
  · exact fun hop => ⟨_, hop, rfl⟩

/-- What is noted where a calculation fails on these values. -/
def failure? (values : Record) (k : Calculated) : Option (String × String) :=
  (calculatedValue k.formula values).2.map fun e => (k.target, e.message)

/-- Does an operation on the working copy. -/
def perform (lookups : Lookups) (pass : Pass) : Operation → Pass
  | .calculate k => calculate pass k
  | .fill s => (filledValues s pass.working lookups).foldl
      (fun pass (field, value) => assign pass field value) pass

variable {t : Table} {p : Plan} {lookups : Lookups} {op later : Operation} {name : String}

/-! ## Fields of the form -/

theorem Follows.hasField_of_reads (hp : Follows p t) (hop : op.Of t) (h : op.Reads name) :
    t.HasField name := by
  cases op with
  | calculate k => exact (hp.known k hop).fields name h
  | fill s =>
    obtain rfl : name = s.field := h
    obtain ⟨f, hf, hfs⟩ := List.mem_filterMap.1 hop
    obtain ⟨a, -, rfl⟩ := Option.map_eq_some_iff.1 hfs
    exact List.mem_map_of_mem hf

theorem Follows.hasField_of_writes (hp : Follows p t) (hop : op.Of t) (h : op.Writes name) :
    t.HasField name := by
  cases op with
  | calculate k => exact h ▸ (hp.known k hop).target
  | fill s =>
    obtain ⟨copy, hcopy, rfl⟩ := h
    exact hp.targets s hop copy hcopy

/-! ## What an operation leaves as it was -/

/-- An operation leaves what it does not write. -/
theorem lookup_perform (hp : Follows p t) (ht : t.Distinct) (hop : op.Of t)
    (hname : t.HasField name) (h : ¬ op.Writes name) (pass : Pass) :
    (perform lookups pass op).working.lookup name = pass.working.lookup name := by
  have hapart : ∀ written, op.Writes written → Apart name written := fun written hwritten =>
    ht.apart hname (hp.hasField_of_writes hop hwritten) fun e => h (e ▸ hwritten)
  cases op with
  | calculate k => exact alikeBeside_calculate pass k name (hapart k.target rfl)
  | fill s =>
    refine List.foldlRecOn _ _
      (motive := fun next : Pass => next.working.lookup name = pass.working.lookup name) rfl ?_
    intro next hnext entry hentry
    rw [← hnext]
    exact alikeBeside_assign next entry.1 entry.2 name (hapart _ (mem_filledValues hentry))

theorem lookup_run (hp : Follows p t) (ht : t.Distinct) {ops : List Operation}
    (hops : ∀ op ∈ ops, op.Of t) (hname : t.HasField name) (h : ∀ op ∈ ops, ¬ op.Writes name)
    (lookups : Lookups) (pass : Pass) :
    (ops.foldl (perform lookups) pass).working.lookup name = pass.working.lookup name := by
  refine List.foldlRecOn ops _
    (motive := fun next : Pass => next.working.lookup name = pass.working.lookup name) rfl ?_
  intro next hnext op hop
  rw [lookup_perform hp ht (hops op hop) hname (h op hop), hnext]

theorem errors_assign (pass : Pass) (field : String) (v : Value) :
    (assign pass field v).result.errors = pass.result.errors := by
  unfold assign
  split <;> rfl

/-- An operation notes the failure of its calculation and nothing else. -/
theorem errors_perform (lookups : Lookups) (pass : Pass) (op : Operation) :
    (perform lookups pass op).result.errors =
      pass.result.errors ++ (evaluated [op]).filterMap (failure? pass.working) := by
  cases op with
  | calculate k =>
    simp only [evaluated, Operation.calculation?, List.filterMap_cons, List.filterMap_nil,
      perform, calculate, failure?]
    obtain ⟨value, failure⟩ := calculatedValue k.formula pass.working
    cases failure with
    | none => simpa using errors_assign pass k.target value
    | some e => simpa [fail] using errors_assign (fail pass k.target e) k.target value
  | fill s =>
    change _ = pass.result.errors ++ []
    rw [List.append_nil]
    exact List.foldlRecOn _ _
      (motive := fun next : Pass => next.result.errors = pass.result.errors) rfl
      fun next hnext entry _ => (errors_assign next entry.1 entry.2).trans hnext

theorem fields_assign (pass : Pass) (field : String) (v : Value) :
    (assign pass field v).result.fields = pass.result.fields ∨
      (assign pass field v).result.fields = pass.result.fields ++ [field] := by
  unfold assign
  split
  · exact .inl rfl
  · exact .inr List.map_append

/-- A calculation changes its target or nothing. -/
theorem fields_calculate (pass : Pass) (k : Calculated) :
    (calculate pass k).result.fields = pass.result.fields ∨
      (calculate pass k).result.fields = pass.result.fields ++ [k.target] := by
  obtain ⟨noted, -, hchanges, heq⟩ := calculate_eq pass k
  rw [heq, ChangeSet.fields, ChangeSet.fields, ← hchanges]
  exact fields_assign noted k.target _

/-- An operation reports changes of fields that it writes. -/
theorem mem_fields_perform {pass : Pass} (h : name ∈ (perform lookups pass op).result.fields) :
    name ∈ pass.result.fields ∨ op.Writes name := by
  cases op with
  | calculate k =>
    rw [perform] at h
    rcases fields_calculate pass k with heq | heq
    · exact .inl (heq ▸ h)
    · exact (List.mem_append.1 (heq ▸ h)).imp_right List.mem_singleton.1
  | fill s =>
    revert h
    refine List.foldlRecOn _ _ (motive := fun next : Pass => name ∈ next.result.fields →
      name ∈ pass.result.fields ∨ (Operation.fill s).Writes name) .inl ?_
    intro next hnext entry hentry h
    rcases fields_assign next entry.1 entry.2 with heq | heq
    · exact hnext (heq ▸ h)
    · rcases List.mem_append.1 (heq ▸ h) with h | h
      · exact hnext h
      · exact .inr (List.mem_singleton.1 h ▸ mem_filledValues hentry)

theorem mem_fields_run {ops : List Operation} {start : Pass}
    (h : name ∈ (ops.foldl (perform lookups) start).result.fields) :
    name ∈ start.result.fields ∨ ∃ op ∈ ops, op.Writes name := by
  revert h
  refine List.foldlRecOn ops _ (motive := fun next : Pass => name ∈ next.result.fields →
    name ∈ start.result.fields ∨ ∃ op ∈ ops, op.Writes name) .inl ?_
  intro next hnext op hop h
  rcases mem_fields_perform h with h | hwrites
  · exact hnext h
  · exact .inr ⟨op, hop, hwrites⟩

/-! ## Operations in order -/

/-- Operations of a table in an order in which nothing that the outcome of one rests on is written
later. -/
structure Orderly (t : Table) (ops : List Operation) : Prop where
  of : ∀ op ∈ ops, op.Of t
  rests : ops.Pairwise fun op later => ∀ name, later.Writes name → ¬ op.RestsOn name

/-- What is done in the turn of one field: its calculation, if at all, comes first. -/
structure InTurn (t : Table) (field : String) (ops : List Operation) : Prop where
  of : ∀ op ∈ ops, op.Of t ∧ op.field = field
  fills : ops.Pairwise fun _ later => ∃ s, later = .fill s

/-- The outcome of an operation rests on fields that stand up to the field of its turn. -/
theorem Follows.upto_of_restsOn (hp : Follows p t) (hop : op.Of t) (h : op.RestsOn name) :
    name = op.field ∨ Graph.StandsBefore p.order name op.field := by
  cases op with
  | calculate k =>
    rcases h with hreads | rfl
    · exact .inr (hp.standsBefore (Table.depends_of_mem_fields hop hreads))
    · exact .inl rfl
  | fill s => exact .inl h

/-- It is not written in a later turn, nor by a selector of the same turn. -/
theorem Follows.not_restsOn (hp : Follows p t) (hop : op.Of t) (hlater : later.Of t)
    (h : Graph.StandsBefore p.order op.field later.field ∨
      op.field = later.field ∧ ∃ s, later = .fill s) (hwrites : later.Writes name) :
    ¬ op.RestsOn name := by
  intro hrests
  have hbefore : Graph.StandsBefore p.order op.field name := by
    cases later with
    | calculate k =>
      rcases h with h | ⟨-, s, ⟨⟩⟩
      exact hwrites ▸ h
    | fill s =>
      obtain ⟨copy, hcopy, rfl⟩ := hwrites
      have hs := hp.standsBefore (Table.depends_of_mem_copies hlater hcopy)
      rcases h with h | ⟨heq, -⟩
      · exact h.trans hp.nodup hs
      · exact heq ▸ hs
  rcases hp.upto_of_restsOn hop hrests with rfl | hupto
  · exact Graph.not_standsBefore_self hp.nodup _ hbefore
  · exact Graph.not_standsBefore_self hp.nodup _ (hupto.trans hp.nodup hbefore)

/-- An operation does not write what it reads. -/
theorem Follows.not_reads (hp : Follows p t) (hop : op.Of t) (hwrites : op.Writes name) :
    ¬ op.Reads name := by
  intro hreads
  cases op with
  | calculate k =>
    obtain rfl : name = k.target := hwrites
    exact Graph.not_standsBefore_self hp.nodup _
      (hp.standsBefore (Table.depends_of_mem_fields hop hreads))
  | fill s => exact hp.not_restsOn hop hop (.inr ⟨rfl, s, rfl⟩) hwrites hreads

/-- What is done in the turns of the fields, in the order of the plan, is in order. -/
theorem orderly_flatMap (hp : Follows p t) {inTurn : String → List Operation}
    (h : ∀ field, InTurn t field (inTurn field)) : Orderly t (p.order.flatMap inTurn) where
  of op hop := by
    obtain ⟨field, -, hop⟩ := List.mem_flatMap.1 hop
    exact ((h field).of op hop).1
  rests := by
    refine List.pairwise_flatMap.2 ⟨fun field _ => ?_, ?_⟩
    · refine (h field).fills.imp_of_mem fun {op later} hop hlater hfill name hwrites => ?_
      obtain ⟨hop, hfield⟩ := (h field).of op hop
      obtain ⟨hlater, hfield'⟩ := (h field).of later hlater
      exact hp.not_restsOn hop hlater (.inr ⟨hfield.trans hfield'.symm, hfill⟩) hwrites
    · refine (Graph.pairwise_standsBefore p.order).imp
        fun {a b} hab op hop later hlater name hwrites => ?_
      obtain ⟨hof, rfl⟩ := (h a).of op hop
      obtain ⟨hofLater, rfl⟩ := (h b).of later hlater
      exact hp.not_restsOn hof hofLater (.inl hab) hwrites

/-! ## The outcome of a run -/

variable {ops before after : List Operation} {start : Pass}

/-- The working copy after a run of operations. -/
def valuesAfter (lookups : Lookups) (start : Pass) (ops : List Operation) : Record :=
  (ops.foldl (perform lookups) start).working

theorem valuesAfter_concat (lookups : Lookups) (start : Pass) (ops : List Operation)
    (op : Operation) : valuesAfter lookups start (ops ++ [op]) =
      (perform lookups (ops.foldl (perform lookups) start) op).working := by
  rw [valuesAfter, List.foldl_append, List.foldl_cons, List.foldl_nil]

/-- A field that the outcome of an operation rests on is not written after it. -/
theorem Orderly.lookup_restsOn (hp : Follows p t) (ht : t.Distinct) (h : Orderly t ops)
    (hsplit : ops = before ++ op :: after) (hname : t.HasField name) (hrests : op.RestsOn name) :
    (valuesAfter lookups start ops).lookup name =
      (valuesAfter lookups start (before ++ [op])).lookup name := by
  subst hsplit
  have hafter := (List.pairwise_cons.1 (List.pairwise_append.1 h.rests).2.1).1
  have hof : ∀ later ∈ after, later.Of t := fun later hlater => h.of later (by simp [hlater])
  have hkept := lookup_run hp ht hof hname
    (fun later hlater hwrites => hafter later hlater name hwrites hrests) lookups
    ((before ++ [op]).foldl (perform lookups) start)
  rw [valuesAfter, valuesAfter, ← hkept, ← List.foldl_append, List.append_assoc]
  rfl

/-- What an operation reads reads the same at the end of the run as when it was read. -/
theorem Orderly.lookup_reads (hp : Follows p t) (ht : t.Distinct) (h : Orderly t ops)
    (hsplit : ops = before ++ op :: after) (hreads : op.Reads name) :
    (valuesAfter lookups start ops).lookup name =
      (valuesAfter lookups start before).lookup name := by
  have hop : op.Of t := h.of op (by simp [hsplit])
  have hname := hp.hasField_of_reads hop hreads
  rw [h.lookup_restsOn hp ht hsplit hname hreads.restsOn, valuesAfter_concat]
  exact lookup_perform hp ht hop hname (fun hwrites => hp.not_reads hop hwrites hreads) _

/-- So does a calculation come to the same on the values at the end of the run. -/
theorem Orderly.calculatedValue_eq (hp : Follows p t) (ht : t.Distinct) (h : Orderly t ops)
    {k : Calculated} (hsplit : ops = before ++ .calculate k :: after) :
    calculatedValue k.formula (valuesAfter lookups start ops) =
      calculatedValue k.formula (valuesAfter lookups start before) :=
  calculatedValue_congr fun _ hname => h.lookup_reads hp ht hsplit hname

/-- The calculations that were made are up to date at the end of the run. -/
theorem Orderly.current (hp : Follows p t) (ht : t.Distinct) (h : Orderly t ops) {k : Calculated}
    (hk : .calculate k ∈ ops) : Current (valuesAfter lookups start ops) k := by
  obtain ⟨before, after, hsplit⟩ := List.append_of_mem hk
  have hname : t.HasField k.target := (hp.known k (h.of _ hk)).target
  rw [Current, h.calculatedValue_eq hp ht hsplit,
    h.lookup_restsOn hp ht hsplit hname (.inr rfl), valuesAfter_concat]
  exact lookup_calculate_self _ k

/-- The failures that are noted in the run are those of its calculations on the final values. -/
theorem Orderly.errors_run (hp : Follows p t) (ht : t.Distinct) (h : Orderly t ops) :
    (ops.foldl (perform lookups) start).result.errors = start.result.errors ++
      (evaluated ops).filterMap (failure? (valuesAfter lookups start ops)) := by
  have upto : ∀ before after, ops = before ++ after →
      (before.foldl (perform lookups) start).result.errors = start.result.errors ++
        (evaluated before).filterMap (failure? (valuesAfter lookups start ops)) := by
    intro before
    induction before using List.reverseRecOn with
    | nil => intro _ _; exact (List.append_nil _).symm
    | append_singleton before op ih =>
      intro after hsplit
      have hsplit' : ops = before ++ op :: after := by simpa using hsplit
      -- the calculation, if the operation is one, comes to the same on the final values
      have hsame : (evaluated [op]).filterMap (failure? (valuesAfter lookups start before)) =
          (evaluated [op]).filterMap (failure? (valuesAfter lookups start ops)) := by
        cases op with
        | calculate k =>
          simp only [evaluated, Operation.calculation?, List.filterMap_cons, List.filterMap_nil,
            failure?, h.calculatedValue_eq hp ht hsplit']
        | fill s => rfl
      rw [List.foldl_append, List.foldl_cons, List.foldl_nil, errors_perform,
        ih (op :: after) hsplit', evaluated_append, List.filterMap_append, List.append_assoc,
        ← hsame]
      rfl
  exact upto ops [] (List.append_nil _).symm

/-- No field is calculated twice in the run. -/
theorem Orderly.nodup_targets (h : Orderly t ops) : ((evaluated ops).map (·.target)).Nodup := by
  refine List.pairwise_map.2 (List.Pairwise.filterMap Operation.calculation? ?_ h.rests)
  intro op later hrests k hk k' hk' heq
  cases op with
  | fill s => cases hk
  | calculate c =>
    cases later with
    | fill s => cases hk'
    | calculate c' =>
      obtain rfl : c = k := Option.some.inj hk
      obtain rfl : c' = k' := Option.some.inj hk'
      exact hrests c'.target rfl (.inr heq.symm)

end Plan

end RecordDesk
