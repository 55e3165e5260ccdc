import RecordDesk.Proofs.Derive.Inputs
import RecordDesk.Proofs.Derive.Operations

/-
  The pass that follows a change, seen as a run of operations (`pass_order`). Each calculation is
  made once at most and is up to date in the end; a change is reported only where a field reads
  differently; and what is changed can be reached from the changed field by triggers and selectors,
  while every other field of the form reads as before (`applyChange_glitchFree`).
-/

namespace RecordDesk

open Relation

/-- A change of the one field can set off an assignment to the other: it is a trigger of its
calculation, or a selector that fills it in. -/
def Table.SetsOff (t : Table) (source target : String) : Prop :=
  (∃ k ∈ t.calculations, source ∈ k.triggers ∧ k.target = target) ∨
  ∃ s ∈ t.selectors, s.field = source ∧ ∃ copy ∈ s.autofill.copies, copy.target = target

/-- Each of the assignments, made one after another, gives the field a value that it did not
have. -/
def Record.Effective : Record → List (String × Value) → Prop
  | _, [] => True
  | r, (field, v) :: rest =>
    (r.lookup field).any (·.same v) = false ∧ (r.insert field v).Effective rest

theorem Record.effective_concat {r : Record} {entries : List (String × Value)} {field : String}
    {v : Value} : r.Effective (entries ++ [(field, v)]) ↔ r.Effective entries ∧
      ((entries.foldl (fun r (column, value) => r.insert column value) r).lookup field).any
        (·.same v) = false := by
  induction entries generalizing r with
  | nil => simp [Effective]
  | cons entry rest ih =>
    obtain ⟨column, value⟩ := entry
    rw [List.cons_append, Effective, Effective, ih, List.foldl_cons, and_assoc]

namespace Plan

variable {t : Table} {p : Plan} {values : Record} {changed : String} {lookups : Lookups}
  {spread : Spread} {field name : String}

/-! ## The operations of a turn -/

/-- The calculation that is due in the turn of a field. -/
def due? (p : Plan) (changed : String) (spread : Spread) (field : String) : Option Calculated :=
  if field = changed then none
  else (p.calculations.get? field).filter fun k => k.triggers.any (· ∈ spread.dirty)

/-- What is done in the turn of a field. -/
def operationsIn (p : Plan) (changed : String) (spread : Spread) (field : String) :
    List Operation :=
  (due? p changed spread field).toList.map .calculate ++
    if field ∈ (recalculate p changed spread field).dirty then
      (p.selectors.filter (·.field == field)).map .fill
    else []

theorem due?_eq_some {k : Calculated} : due? p changed spread field = some k ↔
    field ≠ changed ∧ p.calculations.get? field = some k ∧
      ∃ trigger ∈ k.triggers, trigger ∈ spread.dirty := by
  unfold due?
  split
  · next heq => simp [heq]
  · next hne => simp [hne, Option.filter_eq_some_iff]

theorem recalculate_of_due {k : Calculated} (h : due? p changed spread field = some k) :
    recalculate p changed spread field = ⟨calculate spread.pass k, field :: spread.dirty⟩ := by
  obtain ⟨hne, hget, htrigger⟩ := due?_eq_some.1 h
  have hdirty : k.triggers.any (· ∈ spread.dirty) = true := by simpa using htrigger
  simp only [recalculate, if_neg hne, hget, hdirty, if_true]

theorem recalculate_of_not_due (h : due? p changed spread field = none) :
    recalculate p changed spread field = spread := by
  unfold recalculate
  split
  · rfl
  · next hne =>
    split
    · rfl
    · next k hget =>
      split
      · next hdirty =>
        have hdue := due?_eq_some.2 ⟨hne, hget, by simpa using hdirty⟩
        rw [hdue] at h
        cases h
      · rfl

theorem pass_fillFrom (s : Selector) :
    (fillFrom lookups spread s).pass = perform lookups spread.pass (.fill s) :=
  foldl_related (motive := fun (spread : Spread) (pass : Pass) => spread.pass = pass)
    (fun entry _ _ _ h => congrArg (assign · entry.1 entry.2) h) rfl

/-- The turn of a field does its operations one after another. -/
theorem pass_turn (spread : Spread) (field : String) :
    (turn p changed lookups spread field).pass =
      (operationsIn p changed spread field).foldl (perform lookups) spread.pass := by
  have hrecalculated : (recalculate p changed spread field).pass =
      ((due? p changed spread field).toList.map .calculate).foldl (perform lookups)
        spread.pass := by
    cases hdue : due? p changed spread field with
    | none => rw [recalculate_of_not_due hdue]; rfl
    | some k => rw [recalculate_of_due hdue]; rfl
  rw [turn, operationsIn, List.foldl_append, ← hrecalculated]
  split
  · rw [List.foldl_map]
    exact foldl_related (motive := fun (spread : Spread) (pass : Pass) => spread.pass = pass)
      (fun s _ spread _ h => h ▸ pass_fillFrom s) rfl
  · rfl

theorem mem_operationsIn {op : Operation} : op ∈ operationsIn p changed spread field ↔
    (∃ k, due? p changed spread field = some k ∧ op = .calculate k) ∨
      ∃ s ∈ p.selectors, s.field = field ∧
        field ∈ (recalculate p changed spread field).dirty ∧ op = .fill s := by
  rw [operationsIn, List.mem_append]
  refine or_congr ?_ ?_
  · simp only [List.mem_map, Option.mem_toList, eq_comm]
  · split
    · next hdirty =>
      simp only [List.mem_map, List.mem_filter, beq_iff_eq, hdirty, true_and, and_assoc]
      simp only [eq_comm]
    · next hclean => simp [hclean]

/-- They are operations of this turn, the calculation first. -/
theorem inTurn_operationsIn (hp : Follows p t) (spread : Spread) (field : String) :
    InTurn t field (operationsIn p changed spread field) := by
  constructor
  · intro op hop
    rcases mem_operationsIn.1 hop with ⟨k, hdue, rfl⟩ | ⟨s, hs, hfield, -, rfl⟩
    · exact (hp.calculation_iff field k).1 (due?_eq_some.1 hdue).2.1
    · rw [hp.selectors] at hs
      exact ⟨hs, hfield⟩
  · refine List.pairwise_append.2 ⟨?_, ?_, fun _ _ later hlater => ?_⟩
    · cases due? p changed spread field with
      | none => exact .nil
      | some k => exact List.pairwise_singleton _ _
    · split
      · exact List.pairwise_map.2 (List.pairwise_of_forall fun _ s => ⟨s, rfl⟩)
      · exact .nil
    · split at hlater
      · obtain ⟨s, -, rfl⟩ := List.mem_map.1 hlater
        exact ⟨s, rfl⟩
      · cases hlater

/-! ## The operations of the pass -/

/-- What is done in the turn of a field of the pass that follows a change. -/
def operationsAt (p : Plan) (values : Record) (changed : String) (lookups : Lookups)
    (field : String) : List Operation :=
  operationsIn p changed
    (spreadAfter p values changed lookups (p.order.takeWhile (· != field))) field

/-- What is done in the pass that follows a change. -/
def operations (p : Plan) (values : Record) (changed : String) (lookups : Lookups) :
    List Operation :=
  p.order.flatMap (operationsAt p values changed lookups)

theorem operationsAt_eq {done rest : List String} (hnd : p.order.Nodup)
    (hsplit : p.order = done ++ field :: rest) :
    operationsAt p values changed lookups field =
      operationsIn p changed (spreadAfter p values changed lookups done) field := by
  have hnew : ∀ name ∈ done, (name != field) = true := by
    intro name hname
    have hne := (List.nodup_append.1 (hsplit ▸ hnd)).2.2 name hname field List.mem_cons_self
    simpa using hne
  rw [operationsAt, hsplit, List.takeWhile_append_of_pos hnew,
    List.takeWhile_cons_of_neg (by simp), List.append_nil]

/-- The operations of a pass are those that are done in the turns of the fields. -/
theorem mem_operations (hnd : p.order.Nodup) {op : Operation} :
    op ∈ operations p values changed lookups ↔ ∃ done field rest, p.order = done ++ field :: rest ∧
      op ∈ operationsIn p changed (spreadAfter p values changed lookups done) field := by
  rw [operations, List.mem_flatMap]
  constructor
  · rintro ⟨field, hfield, hop⟩
    obtain ⟨done, rest, hsplit⟩ := List.append_of_mem hfield
    exact ⟨done, field, rest, hsplit, operationsAt_eq hnd hsplit ▸ hop⟩
  · rintro ⟨done, field, rest, hsplit, hop⟩
    exact ⟨field, by simp [hsplit], operationsAt_eq hnd hsplit ▸ hop⟩

/-- The pass does its operations one after another. -/
theorem pass_order (hnd : p.order.Nodup) :
    (p.order.foldl (turn p changed lookups) ⟨⟨values, .empty⟩, [changed]⟩).pass =
      (operations p values changed lookups).foldl (perform lookups) ⟨values, .empty⟩ := by
  have upto : ∀ done rest, p.order = done ++ rest →
      (spreadAfter p values changed lookups done).pass =
        (done.flatMap (operationsAt p values changed lookups)).foldl (perform lookups)
          ⟨values, .empty⟩ := by
    intro done
    induction done using List.reverseRecOn with
    | nil => intro _ _; rfl
    | append_singleton done field ih =>
      intro rest hsplit
      have hsplit' : p.order = done ++ field :: rest := by simpa using hsplit
      rw [List.flatMap_append, List.foldl_append, ← ih _ hsplit', List.flatMap_singleton,
        operationsAt_eq hnd hsplit', ← pass_turn]
      simp only [spreadAfter, List.foldl_append, List.foldl_cons, List.foldl_nil]
  exact upto p.order [] (List.append_nil _).symm

theorem applyTo_applyChange_eq (hnd : p.order.Nodup) (values : Record) (changed : String)
    (lookups : Lookups) :
    (p.applyChange values changed lookups).applyTo values =
      valuesAfter lookups ⟨values, .empty⟩ (operations p values changed lookups) := by
  rw [applyTo_applyChange, pass_order hnd, valuesAfter]

theorem orderly_operations (hp : Follows p t) (values : Record) (changed : String)
    (lookups : Lookups) : Orderly t (operations p values changed lookups) :=
  orderly_flatMap hp fun _ => inTurn_operationsIn hp _ _

/-- The calculations of the pass are those of the fields that are recalculated. -/
theorem calculate_mem_operations (hp : Follows p t) {k : Calculated} :
    .calculate k ∈ operations p values changed lookups ↔
      k ∈ t.calculations ∧ Recalculated p values changed lookups k.target := by
  rw [mem_operations hp.nodup]
  constructor
  · rintro ⟨done, field, rest, hsplit, hop⟩
    obtain ⟨hk, rfl⟩ := (inTurn_operationsIn hp _ field).of _ hop
    rcases mem_operationsIn.1 hop with ⟨c, hdue, ⟨⟩⟩ | ⟨s, -, -, -, ⟨⟩⟩
    exact ⟨hk, done, rest, k, hsplit, (due?_eq_some.1 hdue).2.1, recalculate_of_due hdue⟩
  · rintro ⟨hk, done, rest, c, hsplit, hget, hrecalculated⟩
    refine ⟨done, k.target, rest, hsplit, mem_operationsIn.2 (.inl ⟨k, ?_, rfl⟩)⟩
    cases hdue : due? p changed (spreadAfter p values changed lookups done) k.target with
    | none =>
      rw [spreadAt, recalculate_of_not_due hdue] at hrecalculated
      have hdirty := congrArg Spread.dirty hrecalculated
      simp at hdirty
    | some c =>
      obtain ⟨hc, htarget⟩ := (hp.calculation_iff k.target c).1 (due?_eq_some.1 hdue).2.1
      rw [hp.unique_target hc hk htarget]

/-! ## What is reached -/

/-- The dirty fields of a pass can be reached from the changed one. -/
def Reached (t : Table) (changed : String) (spread : Spread) : Prop :=
  ∀ field ∈ spread.dirty, ReflTransGen t.SetsOff changed field

/-- A calculation is due in a pass only if its target can be reached. -/
theorem Reached.of_due (hp : Follows p t) (h : Reached t changed spread) {k : Calculated}
    (hdue : due? p changed spread field = some k) : TransGen t.SetsOff changed field := by
  obtain ⟨-, hget, trigger, htrigger, hdirty⟩ := due?_eq_some.1 hdue
  obtain ⟨hk, rfl⟩ := (hp.calculation_iff field k).1 hget
  exact TransGen.tail' (h trigger hdirty) (.inl ⟨k, hk, htrigger, rfl⟩)

theorem Reached.recalculate (hp : Follows p t) (h : Reached t changed spread) (field : String) :
    Reached t changed (recalculate p changed spread field) := by
  cases hdue : due? p changed spread field with
  | none => rwa [recalculate_of_not_due hdue]
  | some k =>
    rw [recalculate_of_due hdue]
    exact List.forall_mem_cons.2 ⟨(h.of_due hp hdue).to_reflTransGen, h⟩

/-- What a selector that can be reached fills in can be reached. -/
theorem reached_of_copy {s : Selector} (hs : s ∈ t.selectors)
    (h : ReflTransGen t.SetsOff changed s.field) (hname : (Operation.fill s).Writes name) :
    TransGen t.SetsOff changed name :=
  TransGen.tail' h (.inr ⟨s, hs, rfl, hname⟩)

theorem Reached.turn (hp : Follows p t) (h : Reached t changed spread) (field : String) :
    Reached t changed (turn p changed lookups spread field) := by
  have hrecalculated := h.recalculate hp field
  unfold Plan.turn
  dsimp only
  split
  · next hdirty =>
    refine List.foldlRecOn _ _ (motive := Reached t changed) hrecalculated ?_
    intro spread hspread s hmem name hname
    obtain ⟨hs, hfield⟩ := List.mem_filter.1 hmem
    rw [hp.selectors] at hs
    have hreached := hrecalculated s.field (beq_iff_eq.1 hfield ▸ hdirty)
    rcases mem_dirty_fillFrom.1 hname with hname | hname
    · exact hspread name hname
    · obtain ⟨entry, hentry, rfl⟩ := List.mem_map.1 hname
      exact (reached_of_copy hs hreached (mem_filledValues hentry)).to_reflTransGen
  · exact hrecalculated

theorem reached_spreadAfter (hp : Follows p t) (values : Record) (changed : String)
    (lookups : Lookups) (done : List String) :
    Reached t changed (spreadAfter p values changed lookups done) := by
  refine List.foldlRecOn done _ (motive := Reached t changed) ?_
    fun spread hspread field _ => hspread.turn hp field
  exact List.forall_mem_singleton.2 .refl

/-- What an operation of the pass writes can be reached from the changed field. -/
theorem reached_of_writes (hp : Follows p t) {op : Operation}
    (hop : op ∈ operations p values changed lookups) (hname : op.Writes name) :
    TransGen t.SetsOff changed name := by
  obtain ⟨done, field, rest, -, hop⟩ := (mem_operations hp.nodup).1 hop
  have hreached := reached_spreadAfter hp values changed lookups done
  rcases mem_operationsIn.1 hop with ⟨k, hdue, rfl⟩ | ⟨s, hs, rfl, hdirty, rfl⟩
  · have htarget := ((hp.calculation_iff field k).1 (due?_eq_some.1 hdue).2.1).2
    obtain rfl : name = field := hname.trans htarget
    exact hreached.of_due hp hdue
  · rw [hp.selectors] at hs
    exact reached_of_copy hs (hreached.recalculate hp s.field s.field hdirty) hname

/-! ## What is reported -/

theorem effective_assign {pass : Pass} (htracks : pass.Tracks values)
    (h : values.Effective pass.result.changes) (field : String) (v : Value) :
    values.Effective (assign pass field v).result.changes := by
  unfold assign
  split
  · exact h
  · next hdiffers =>
    refine Record.effective_concat.2 ⟨h, ?_⟩
    rw [show pass.result.changes.foldl (fun r (column, value) => r.insert column value) values =
      pass.working from htracks]
    simpa using hdiffers

/-- Every change that the pass reports is one. -/
theorem effective_applyChange (hp : Follows p t) :
    values.Effective (p.applyChange values changed lookups).changes :=
  (kept_pass
    (motive := fun pass => pass.Tracks values ∧ values.Effective pass.result.changes)
    (fun _ field v _ h => ⟨h.1.assign field v, effective_assign h.1 h.2 field v⟩)
    (fun _ _ _ h => h) hp ⟨rfl, trivial⟩).2

/-- A form field that no change is reported of reads as before. -/
theorem lookup_unreported (hp : Follows p t) (ht : t.Distinct) (hname : t.HasField name)
    (h : name ∉ (p.applyChange values changed lookups).fields) :
    ((p.applyChange values changed lookups).applyTo values).lookup name = values.lookup name := by
  rw [applyTo_applyChange]
  refine kept_pass (motive := fun pass =>
    name ∉ pass.result.fields → pass.working.lookup name = values.lookup name)
    (fun pass field v hfield hpass => ?_) (fun _ _ _ hpass => hpass) hp (fun _ => rfl) h
  unfold assign
  split
  · exact hpass
  · intro hunreported
    simp only [ChangeSet.fields, List.map_append, List.map_cons, List.map_nil, List.mem_append,
      List.mem_singleton, not_or] at hunreported
    have hapart := ht.apart hname (hp.hasField_of_derived hfield) hunreported.2
    exact (Record.lookup_insert_apart hapart pass.working v).trans (hpass hunreported.1)

/-! ## The pass as a whole -/

/-- The pass that follows a change is free of glitches and touches only what depends on the change.
It is a run of operations, and these make the calculations of the recalculated fields, each once. -/
structure GlitchFree (p : Plan) (t : Table) (values : Record) (changed : String)
    (lookups : Lookups) (after : Record) : Prop where
  performs : p.applyChange values changed lookups =
    ((operations p values changed lookups).foldl (perform lookups) ⟨values, .empty⟩).result
  calculates : ∀ k, k ∈ evaluated (operations p values changed lookups) ↔
    k ∈ t.calculations ∧ Recalculated p values changed lookups k.target
  once : ((evaluated (operations p values changed lookups)).map (·.target)).Nodup
  current : ∀ k ∈ t.calculations, Recalculated p values changed lookups k.target → Current after k
  errors : (p.applyChange values changed lookups).errors =
    (evaluated (operations p values changed lookups)).filterMap (failure? after)
  effective : values.Effective (p.applyChange values changed lookups).changes
  reached : ∀ field ∈ (p.applyChange values changed lookups).fields,
    TransGen t.SetsOff changed field
  unchanged : ∀ name, t.HasField name → name ∉ (p.applyChange values changed lookups).fields →
    after.lookup name = values.lookup name

/-- Quotes: the customer fills in the currency, that the rate, and a new rate sets off the total,
which is shared out. -/
def quoteTable : Table :=
  { Table.default with
    name := "quotes"
    formFields := [
      { FormField.default with
        name := "each", calculation := some ⟨true, "total / people", none, []⟩ },
      { FormField.default with
        name := "total", calculation := some ⟨true, "amount * rate", none, ["rate"]⟩ },
      { FormField.default with
        name := "customer"
        autofill := some ⟨true, "customers", "id", [⟨"currency", "currency"⟩]⟩ },
      { FormField.default with
        name := "currency", autofill := some ⟨true, "currencies", "code", [⟨"rate", "rate"⟩]⟩ },
      { FormField.default with name := "rate" },
      { FormField.default with name := "amount" },
      { FormField.default with name := "people" }] }

/-- A quote for a customer, to be shared by nobody. -/
def quote : Record := .ofList [("customer", .int 7), ("AMOUNT", .int 10), ("people", .int 0)]

/-- The customers and currencies. -/
def quoteLookups : Lookups :=
  (Lookups.empty.insert "customers" [.ofList [("id", .int 7), ("currency", .str "EUR")]]).insert
    "currencies" [.ofList [("code", .str "EUR"), ("rate", .int 2)]]

end Plan

end RecordDesk
