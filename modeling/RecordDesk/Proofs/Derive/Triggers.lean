import RecordDesk.Proofs.Derive.Order
import RecordDesk.Proofs.Derive.Pass

/-
  Triggers. A calculation may name the fields that set it off, and these need not be the ones that
  it reads; they are no dependencies, so one of them may come after it in the order. In the pass
  after a change a calculation is made exactly if one of its triggers was touched before its turn
  (`recalculated_iff`). So nothing is lost exactly if each calculation with a touched trigger has
  one that was touched in time, as is the case where every trigger stands before its target
  (`nothingLost_iff`).
-/

namespace RecordDesk

/-- The field is calculated or filled in. -/
def Table.Derived (t : Table) (name : String) : Prop :=
  (∃ k ∈ t.calculations, k.target = name) ∨
    ∃ s ∈ t.selectors, ∃ copy ∈ s.autofill.copies, copy.target = name

namespace Plan

/-! ## What a pass touches -/

section

variable (p : Plan) (values : Record) (changed : String) (lookups : Lookups)

/-- The pass after a change when the turns of some fields are over. -/
def spreadAfter (done : List String) : Spread :=
  done.foldl (turn p changed lookups) ⟨⟨values, .empty⟩, [changed]⟩

/-- The pass in the turn of a field, after its own calculation. -/
def spreadAt (done : List String) (field : String) : Spread :=
  recalculate p changed (spreadAfter p values changed lookups done) field

/-- The field is recalculated during the pass: in its turn its calculation is made. -/
def Recalculated (field : String) : Prop :=
  ∃ done rest k, p.order = done ++ field :: rest ∧ p.calculations.get? field = some k ∧
    spreadAt p values changed lookups done field =
      ⟨calculate (spreadAfter p values changed lookups done).pass k,
        field :: (spreadAfter p values changed lookups done).dirty⟩

/-- The selectors of a dirty field fill in fields one after another; this one then gives a value to
the field. -/
def Fills (s : Selector) (field : String) : Prop :=
  ∃ done rest, p.order = done ++ s.field :: rest ∧
    s.field ∈ (spreadAt p values changed lookups done s.field).dirty ∧
    ∃ before after, p.selectors.filter (·.field == s.field) = before ++ s :: after ∧
      field ∈ (filledValues s (before.foldl (fillFrom lookups)
        (spreadAt p values changed lookups done s.field)).pass.working lookups).map Prod.fst

/-- The field is the changed one, or is recalculated or filled in during the pass. -/
def Touched (field : String) : Prop :=
  field = changed ∨ Recalculated p values changed lookups field ∨
    ∃ s, Fills p values changed lookups s field

/-- The field is touched before the turn of another one. -/
def TouchedBefore (target field : String) : Prop :=
  field = changed ∨
    (Recalculated p values changed lookups field ∧ Graph.StandsBefore p.order field target) ∨
    ∃ s, Fills p values changed lookups s field ∧ Graph.StandsBefore p.order s.field target

/-- Every calculation with a touched trigger is made, unless its target is the changed field. -/
def NothingLost (t : Table) : Prop :=
  ∀ k ∈ t.calculations, k.target ≠ changed →
    (∃ trigger ∈ k.triggers, Touched p values changed lookups trigger) →
    Recalculated p values changed lookups k.target

end

variable {p : Plan} {values : Record} {changed : String} {lookups : Lookups}

theorem mem_dirty_fillFrom {spread : Spread} {s : Selector} {field : String} :
    field ∈ (fillFrom lookups spread s).dirty ↔ field ∈ spread.dirty ∨
      field ∈ (filledValues s spread.pass.working lookups).map Prod.fst := by
  unfold fillFrom
  generalize filledValues s spread.pass.working lookups = entries
  induction entries generalizing spread with
  | nil => simp
  | cons entry rest ih =>
    rw [List.foldl_cons, ih]
    simp only [List.mem_cons, List.map_cons]
    tauto

/-- Selectors one after another: a field becomes dirty when one of them gives it a value. -/
theorem mem_dirty_fillAll {selectors : List Selector} {spread : Spread} {field : String} :
    field ∈ (selectors.foldl (fillFrom lookups) spread).dirty ↔ field ∈ spread.dirty ∨
      ∃ s before after, selectors = before ++ s :: after ∧
        field ∈ (filledValues s (before.foldl (fillFrom lookups) spread).pass.working
          lookups).map Prod.fst := by
  induction selectors generalizing spread with
  | nil => simp
  | cons first rest ih =>
    rw [List.foldl_cons, ih, mem_dirty_fillFrom, or_assoc]
    refine or_congr_right ⟨?_, ?_⟩
    · rintro (hfirst | ⟨s, before, after, rfl, hs⟩)
      · exact ⟨first, [], rest, rfl, hfirst⟩
      · exact ⟨s, first :: before, after, rfl, hs⟩
    · rintro ⟨s, before, after, hsplit, hs⟩
      cases before with
      | nil =>
        obtain ⟨rfl, rfl⟩ := List.cons.inj hsplit
        exact .inl hs
      | cons other before =>
        obtain ⟨rfl, rfl⟩ := List.cons.inj hsplit
        exact .inr ⟨s, before, after, rfl, hs⟩

/-- In its turn a field is left alone, or its calculation is made and it becomes dirty. -/
theorem recalculate_cases (spread : Spread) (field : String) :
    recalculate p changed spread field = spread ∨
      ∃ k, p.calculations.get? field = some k ∧
        recalculate p changed spread field = ⟨calculate spread.pass k, field :: spread.dirty⟩ := by
  unfold recalculate
  split
  · exact .inl rfl
  · split
    · exact .inl rfl
    · next k hk =>
      split
      · exact .inr ⟨k, hk, rfl⟩
      · exact .inl rfl

/-- A calculation is made in its turn if one of its triggers is dirty by then. -/
theorem dirty_recalculate_iff {spread : Spread} {field : String} (hne : field ≠ changed)
    {k : Calculated} (hk : p.calculations.get? field = some k) :
    (recalculate p changed spread field).dirty = field :: spread.dirty ↔
      ∃ trigger ∈ k.triggers, trigger ∈ spread.dirty := by
  have hlonger : spread.dirty ≠ field :: spread.dirty := by simp
  simp only [recalculate, if_neg hne, hk]
  split
  · next h => simpa using h
  · next h => simpa [hlonger] using h

variable {done rest : List String}

theorem recalculated_at (hnd : p.order.Nodup) {field : String}
    (hsplit : p.order = done ++ field :: rest) :
    Recalculated p values changed lookups field ↔
      (spreadAt p values changed lookups done field).dirty =
        field :: (spreadAfter p values changed lookups done).dirty := by
  constructor
  · rintro ⟨done', rest', k, hsplit', -, h⟩
    rw [Graph.eq_of_split (hsplit ▸ hnd) (hsplit.symm.trans hsplit'), h]
  · intro h
    rcases recalculate_cases (spreadAfter p values changed lookups done) field with
      hsame | ⟨k, hk, hmade⟩
    · rw [spreadAt, hsame] at h
      simp at h
    · exact ⟨done, rest, k, hsplit, hk, hmade⟩

theorem fills_at (hnd : p.order.Nodup) {s : Selector} {field : String}
    (hsplit : p.order = done ++ s.field :: rest) :
    Fills p values changed lookups s field ↔
      s.field ∈ (spreadAt p values changed lookups done s.field).dirty ∧
      ∃ before after, p.selectors.filter (·.field == s.field) = before ++ s :: after ∧
        field ∈ (filledValues s (before.foldl (fillFrom lookups)
          (spreadAt p values changed lookups done s.field)).pass.working lookups).map Prod.fst := by
  constructor
  · rintro ⟨done', rest', hsplit', h⟩
    rwa [Graph.eq_of_split (hsplit ▸ hnd) (hsplit.symm.trans hsplit')]
  · intro h; exact ⟨done, rest, hsplit, h⟩

theorem mem_dirty_spreadAt (hnd : p.order.Nodup) {name : String}
    (hsplit : p.order = done ++ name :: rest) (field : String) :
    field ∈ (spreadAt p values changed lookups done name).dirty ↔
      field ∈ (spreadAfter p values changed lookups done).dirty ∨
      (Recalculated p values changed lookups field ∧ field = name) := by
  rcases recalculate_cases (spreadAfter p values changed lookups done) name with h | ⟨k, hk, h⟩
  · have hnot : ¬ Recalculated p values changed lookups name := by
      rw [recalculated_at hnd hsplit, spreadAt, h]
      simp
    rw [spreadAt, h]
    constructor
    · exact .inl
    · rintro (hold | ⟨hrecalculated, rfl⟩)
      · exact hold
      · exact absurd hrecalculated hnot
  · have hrecalculated : Recalculated p values changed lookups name :=
      ⟨done, rest, k, hsplit, hk, h⟩
    rw [spreadAt, h, List.mem_cons, or_comm]
    refine or_congr_right ⟨?_, fun hname => hname.2⟩
    rintro rfl
    exact ⟨hrecalculated, rfl⟩

/-- What the turn of a field makes dirty: the field, if it is recalculated, and what it fills in. -/
theorem mem_dirty_turn (hnd : p.order.Nodup) {name : String}
    (hsplit : p.order = done ++ name :: rest) (field : String) :
    field ∈ (spreadAfter p values changed lookups (done ++ [name])).dirty ↔
      field ∈ (spreadAfter p values changed lookups done).dirty ∨
      (Recalculated p values changed lookups field ∧ field = name) ∨
      ∃ s, Fills p values changed lookups s field ∧ s.field = name := by
  have hturn : spreadAfter p values changed lookups (done ++ [name]) =
      if name ∈ (spreadAt p values changed lookups done name).dirty then
        (p.selectors.filter (·.field == name)).foldl (fillFrom lookups)
          (spreadAt p values changed lookups done name)
      else spreadAt p values changed lookups done name := by
    simp only [spreadAfter, List.foldl_append, List.foldl_cons, List.foldl_nil]
    rfl
  rw [hturn, ← or_assoc, ← mem_dirty_spreadAt hnd hsplit field]
  split
  · next hdirty =>
    rw [mem_dirty_fillAll]
    refine or_congr_right ⟨?_, ?_⟩
    · rintro ⟨s, before, after, hfilter, hs⟩
      have hmem : s ∈ p.selectors.filter (·.field == name) := by simp [hfilter]
      obtain rfl : s.field = name := by simpa using (List.mem_filter.1 hmem).2
      exact ⟨s, (fills_at hnd hsplit).2 ⟨hdirty, before, after, hfilter, hs⟩, rfl⟩
    · rintro ⟨s, hfills, rfl⟩
      obtain ⟨-, before, after, hfilter, hs⟩ := (fills_at hnd hsplit).1 hfills
      exact ⟨s, before, after, hfilter, hs⟩
  · next hclean =>
    constructor
    · exact .inl
    · rintro (hold | ⟨s, hfills, rfl⟩)
      · exact hold
      · exact absurd ((fills_at hnd hsplit).1 hfills).1 hclean

/-- The dirty fields at some point of the pass are those that were touched up to there. -/
theorem mem_dirty_spreadAfter (hnd : p.order.Nodup) (hsplit : p.order = done ++ rest)
    (field : String) :
    field ∈ (spreadAfter p values changed lookups done).dirty ↔ field = changed ∨
      (Recalculated p values changed lookups field ∧ field ∈ done) ∨
      ∃ s, Fills p values changed lookups s field ∧ s.field ∈ done := by
  induction done using List.reverseRecOn generalizing rest with
  | nil => simp [spreadAfter]
  | append_singleton done name ih =>
    have hsplit' : p.order = done ++ name :: rest := by simpa using hsplit
    rw [mem_dirty_turn hnd hsplit', ih hsplit']
    simp only [List.mem_append, List.mem_singleton, and_or_left, exists_or]
    rw [or_assoc, or_or_or_comm]

/-- Touched before the turn of a field means dirty by then. -/
theorem touchedBefore_iff (hnd : p.order.Nodup) {target : String}
    (hsplit : p.order = done ++ target :: rest) (field : String) :
    TouchedBefore p values changed lookups target field ↔
      field ∈ (spreadAfter p values changed lookups done).dirty := by
  rw [mem_dirty_spreadAfter hnd hsplit, TouchedBefore]
  simp only [Graph.standsBefore_iff hnd hsplit]

/-- A calculation is made in the pass exactly if one of its triggers was touched before its turn. -/
theorem recalculated_iff {t : Table} (hp : Follows p t) {k : Calculated} (hk : k ∈ t.calculations)
    (hne : k.target ≠ changed) : Recalculated p values changed lookups k.target ↔
      ∃ trigger ∈ k.triggers, TouchedBefore p values changed lookups k.target trigger := by
  obtain ⟨done, rest, hsplit⟩ := List.append_of_mem
    ((hp.mem_order k.target).2 (.inl ⟨k, hk, .inl rfl⟩))
  rw [recalculated_at hp.nodup hsplit, spreadAt,
    dirty_recalculate_iff hne ((hp.calculation_iff k.target k).2 ⟨hk, rfl⟩)]
  simp only [touchedBefore_iff hp.nodup hsplit]

/-! ## Lost calculations -/

variable {t : Table}

theorem exists_calculation_of_recalculated (hp : Follows p t) {field : String}
    (h : Recalculated p values changed lookups field) : ∃ k ∈ t.calculations, k.target = field := by
  obtain ⟨-, -, k, -, hk, -⟩ := h
  exact ⟨k, (hp.calculation_iff field k).1 hk⟩

theorem exists_copy_of_fills (hp : Follows p t) {s : Selector} {field : String}
    (h : Fills p values changed lookups s field) :
    s ∈ t.selectors ∧ ∃ copy ∈ s.autofill.copies, copy.target = field := by
  obtain ⟨done, rest, -, -, before, after, hfilter, hfield⟩ := h
  have hmem : s ∈ p.selectors.filter (·.field == s.field) := by simp [hfilter]
  obtain ⟨entry, hentry, rfl⟩ := List.mem_map.1 hfield
  exact ⟨hp.selectors ▸ (List.mem_filter.1 hmem).1, mem_filledValues hentry⟩

/-- Nothing is lost where a trigger that is derived stands before the target or is the target. -/
theorem nothingLost_of_before (hp : Follows p t)
    (hbefore : ∀ k ∈ t.calculations, ∀ trigger ∈ k.triggers, t.Derived trigger →
      trigger = k.target ∨ Graph.StandsBefore p.order trigger k.target) :
    NothingLost p values changed lookups t := by
  rintro k hk hne ⟨trigger, htrigger, htouched⟩
  rcases htouched with hchanged | hrecalculated | ⟨s, hfills⟩
  · exact (recalculated_iff hp hk hne).2 ⟨trigger, htrigger, .inl hchanged⟩
  · have hderived : t.Derived trigger :=
      .inl (exists_calculation_of_recalculated hp hrecalculated)
    rcases hbefore k hk trigger htrigger hderived with rfl | hplace
    · exact hrecalculated
    · exact (recalculated_iff hp hk hne).2 ⟨trigger, htrigger, .inr (.inl ⟨hrecalculated, hplace⟩)⟩
  · obtain ⟨hs, copy, hcopy, rfl⟩ := exists_copy_of_fills hp hfills
    -- the trigger may be the target itself, but the selector that fills it in stands before
    have hselector : Graph.StandsBefore p.order s.field copy.target :=
      hp.standsBefore (.inr ⟨s, hs, rfl, copy, hcopy, rfl⟩)
    have hplace : Graph.StandsBefore p.order s.field k.target := by
      rcases hbefore k hk copy.target htrigger (.inr ⟨s, hs, copy, hcopy, rfl⟩) with heq | hplace
      · exact heq ▸ hselector
      · exact hselector.trans hp.nodup hplace
    exact (recalculated_iff hp hk hne).2 ⟨copy.target, htrigger, .inr (.inr ⟨s, hfills, hplace⟩)⟩

/-- No calculation is lost in a pass exactly if each one with a touched trigger has one that is
touched before its turn: one that is the changed field, or that is recalculated or filled in from a
place before its target in the order. That is so in every pass where the triggers that are derived
stand before the target. -/
theorem nothingLost_iff (h : ofTable t = .ok p) :
    (∀ values changed lookups, NothingLost p values changed lookups t ↔
      ∀ k ∈ t.calculations, k.target ≠ changed →
        (∃ trigger ∈ k.triggers, Touched p values changed lookups trigger) →
        ∃ trigger ∈ k.triggers, TouchedBefore p values changed lookups k.target trigger) ∧
    ((∀ k ∈ t.calculations, ∀ trigger ∈ k.triggers, t.Derived trigger →
        trigger = k.target ∨ Graph.StandsBefore p.order trigger k.target) →
      ∀ values changed lookups, NothingLost p values changed lookups t) := by
  have hp := follows_of_ofTable h
  refine ⟨fun values changed lookups => ?_, fun hbefore _ _ _ => nothingLost_of_before hp hbefore⟩
  constructor
  · intro hnothing k hk hne htouched
    exact (recalculated_iff hp hk hne).1 (hnothing k hk hne htouched)
  · intro hinTime k hk hne htouched
    exact (recalculated_iff hp hk hne).2 (hinTime k hk hne htouched)

/-- A chain of changes from `y` to `b`, and a calculation of `z` that is set off by `b`. -/
def triggerTable (formula : String) : Table :=
  { Table.default with
    name := "t"
    formFields := [
      { FormField.default with name := "x" },
      { FormField.default with name := "y" },
      { FormField.default with
        name := "b", calculation := some ⟨true, "y * 2", none, []⟩ },
      { FormField.default with
        name := "z", calculation := some ⟨true, formula, none, ["b"]⟩ }] }

/-- Where `z` is calculated from its trigger, nothing is lost. -/
theorem nothingLost_triggerTable :
    ∃ p, ofTable (triggerTable "b + 1") = .ok p ∧ ∀ values changed lookups,
      NothingLost p values changed lookups (triggerTable "b + 1") := by
  obtain ⟨p, h⟩ := exists_of_isOk (x := ofTable (triggerTable "b + 1")) (by decide +kernel)
  refine ⟨p, h, (nothingLost_iff h).2 fun k hk trigger htrigger _ => .inr ?_⟩
  have hread : ∀ k ∈ (triggerTable "b + 1").calculations, ∀ trigger ∈ k.triggers,
      trigger ∈ k.formula.fields := by
    decide +kernel
  exact (follows_of_ofTable h).standsBefore (.inl ⟨k, hk, hread k hk trigger htrigger, rfl⟩)

/-- Where `z` is calculated from `x` alone, it comes before its trigger in the order, and a change
of `y` recalculates `b` but not `z`. -/
theorem lost_triggerTable :
    ∃ p, ofTable (triggerTable "x + 1") = .ok p ∧
      ¬ NothingLost p (.ofList [("x", .int 1), ("y", .int 3)]) "y" .empty
        (triggerTable "x + 1") := by
  obtain ⟨p, h⟩ := exists_of_isOk (x := ofTable (triggerTable "x + 1")) (by decide +kernel)
  let values : Record := .ofList [("x", .int 1), ("y", .int 3)]
  have hrun : (ofTable (triggerTable "x + 1")).toOption.all fun p =>
      p.order = ["x", "z", "y", "b"] ∧
      (spreadAt p values "y" .empty ["x", "z", "y"] "b").dirty =
        "b" :: (spreadAfter p values "y" .empty ["x", "z", "y"]).dirty ∧
      (spreadAt p values "y" .empty ["x"] "z").dirty ≠
        "z" :: (spreadAfter p values "y" .empty ["x"]).dirty := by
    decide +kernel
  rw [h] at hrun
  obtain ⟨horder, hb, hz⟩ := of_decide_eq_true hrun
  have hnd := (follows_of_ofTable h).nodup
  refine ⟨p, h, fun hnothing => ?_⟩
  obtain ⟨k, hk, htarget, htrigger⟩ : ∃ k ∈ (triggerTable "x + 1").calculations,
      k.target = "z" ∧ "b" ∈ k.triggers := by
    decide +kernel
  have hlast : p.order = ["x", "z", "y"] ++ "b" :: [] := by simp [horder]
  have hsecond : p.order = ["x"] ++ "z" :: ["y", "b"] := by simp [horder]
  have htouched : Touched p values "y" .empty "b" := .inr (.inl ((recalculated_at hnd hlast).2 hb))
  have hrecalculated := hnothing k hk (by simp [htarget]) ⟨"b", htrigger, htouched⟩
  rw [htarget] at hrecalculated
  exact hz ((recalculated_at hnd hsecond).1 hrecalculated)

end Plan

end RecordDesk
