import Mathlib
import RecordDesk.Proofs.Decimal.Order
import RecordDesk.Proofs.Listing.Sort
import RecordDesk.Proofs.Value.Agreement

/-
  The order that lists are sorted in. Numbers compare by size and everything else by the texts that
  are shown, so the order of a column is a preorder unless a text stands between the texts of two
  numbers that these put the other way round (`compareCells_trans_iff`). Without such a conflict the
  rows of a list are the records found, in order, and there is one way to arrange them
  (`sorts_visible`).
-/

namespace RecordDesk

namespace Value

open Decimal (isFinite valueOf)

/-- A value of a document: its doubles are finite and its integers have 64 bits. -/
structure IsPlain (v : Value) : Prop where
  finite : v.IsFinite
  range : ∀ n, v = .int n → -2 ^ 63 ≤ n ∧ n < 2 ^ 64

theorem isPlain_int {n : Int} (h : -2 ^ 63 ≤ n ∧ n < 2 ^ 64) : (int n).IsPlain :=
  ⟨nofun, fun m hm => by cases hm; exact h⟩

theorem isPlain_str (s : String) : (str s).IsPlain := ⟨nofun, nofun⟩

/-- The value is a number. -/
def isNumber : Value → Bool
  | int _ | float _ => true
  | _ => false

/-- The double of a number. -/
def double : Value → Float
  | int n => Float.ofInt n
  | float x => x
  | _ => 0

/-- The number that the double of a value is. -/
def size (v : Value) : ℚ := valueOf v.double.toModel.unpack

variable {a b c x y z : Value}

theorem IsPlain.isFinite_double (h : a.IsPlain) : isFinite a.double = true := by
  cases a with
  | int n =>
    obtain ⟨hlow, hhigh⟩ := h.range n rfl
    exact Decimal.isFinite_ofInt (by omega)
  | float x => exact h.finite x rfl
  | null | bool | str | arr | obj =>
    change isFinite 0 = true
    decide +kernel

/-- Numbers compare by size. -/
theorem compareCells_of_number (ha : a.IsPlain) (hb : b.IsPlain) (hnum : a.isNumber = true)
    (hnum' : b.isNumber = true) : a.compareCells b = compare a.size b.size := by
  have hdouble : a.compareCells b = compareFloat a.double b.double := by
    cases a <;> cases hnum <;> cases b <;> cases hnum' <;> rfl
  rw [hdouble]
  exact Decimal.compareFloat_eq ha.isFinite_double hb.isFinite_double

theorem compareCells_bool (x y : Bool) :
    (bool x).compareCells (bool y) = compare (bool x).display (bool y).display := by
  cases x <;> cases y <;> decide +kernel

/-- Other pairs compare by the texts that are shown. -/
theorem compareCells_of_not_number (h : ¬ (a.isNumber = true ∧ b.isNumber = true)) :
    a.compareCells b = compare a.display b.display := by
  cases a with
  | int | float =>
    cases b with
    | int | float => exact absurd ⟨rfl, rfl⟩ h
    | null | bool | str | arr | obj => rfl
  | bool x =>
    cases b with
    | bool y => exact compareCells_bool x y
    | null | int | float | str | arr | obj => rfl
  | null | str | arr | obj => cases b <;> rfl

theorem compareCells_self (ha : a.IsPlain) : a.compareCells a = .eq := by
  by_cases h : a.isNumber = true ∧ a.isNumber = true
  · rw [compareCells_of_number ha ha h.1 h.2, compare_eq_iff_eq]
  · rw [compareCells_of_not_number h, compare_eq_iff_eq]

theorem compareCells_swap (ha : a.IsPlain) (hb : b.IsPlain) :
    b.compareCells a = (a.compareCells b).swap := by
  by_cases h : a.isNumber = true ∧ b.isNumber = true
  · rw [compareCells_of_number ha hb h.1 h.2, compareCells_of_number hb ha h.2 h.1]
    exact Std.OrientedCmp.eq_swap
  · rw [compareCells_of_not_number h, compareCells_of_not_number fun h' => h h'.symm]
    exact Std.OrientedCmp.eq_swap

theorem not_gt_iff_size (ha : a.IsPlain) (hb : b.IsPlain) (hnum : a.isNumber = true)
    (hnum' : b.isNumber = true) : a.compareCells b ≠ .gt ↔ a.size ≤ b.size := by
  rw [compareCells_of_number ha hb hnum hnum', compare_le_iff_le]

theorem not_gt_iff_display (h : a.isNumber = false ∨ b.isNumber = false) :
    a.compareCells b ≠ .gt ↔ a.display ≤ b.display := by
  have hnot : ¬ (a.isNumber = true ∧ b.isNumber = true) := by
    rintro ⟨ha, hb⟩
    simp [ha, hb] at h
  rw [compareCells_of_not_number hnot, compare_le_iff_le]

theorem number?_of_number (h : a.isNumber = true) : a.number? = some a.double := by
  cases a <;> cases h <;> rfl

theorem size_eq_of_same (hnum : a.isNumber = true) (h : a.same b = true) : a.size = b.size := by
  cases a with
  | int n =>
    cases b with
    | int m =>
      rw [same, beq_iff_eq] at h
      rw [h]
    | null | bool | float | str | arr | obj => simp [same] at h
  | float x =>
    cases b with
    | float y => exact Decimal.valueOf_eq_of_beq h
    | null | bool | int | str | arr | obj => simp [same] at h
  | null | bool | str | arr | obj => cases hnum

/-- Numbers that are shown as the same text are of the same size. -/
theorem size_eq_of_display_eq (ha : a.IsPlain) (hb : b.IsPlain) (hnum : a.isNumber = true)
    (hnum' : b.isNumber = true) (h : a.display = b.display) : a.size = b.size := by
  rcases same_or_beq_of_display_eq ha.finite hb.finite h (number?_of_number hnum)
    (number?_of_number hnum') with hsame | hbeq
  · exact size_eq_of_same hnum hsame
  · exact Decimal.valueOf_eq_of_beq hbeq

/-! ## Where the order is one -/

/-- A text stands between the texts of two numbers that these put the other way round. -/
structure Conflict (x y z : Value) : Prop where
  number : x.isNumber = true
  number' : y.isNumber = true
  text : z.isNumber = false
  bySize : x.compareCells y ≠ .gt
  byText : y.display < x.display
  low : y.display ≤ z.display
  high : z.display ≤ x.display

/-- Without a conflict the order is transitive. -/
theorem compareCells_trans (ha : a.IsPlain) (hb : b.IsPlain) (hc : c.IsPlain)
    (hab : a.compareCells b ≠ .gt) (hbc : b.compareCells c ≠ .gt)
    (hfree : ¬ Conflict a b c ∧ ¬ Conflict b c a ∧ ¬ Conflict c a b) :
    a.compareCells c ≠ .gt := by
  obtain ⟨habc, hbca, hcab⟩ := hfree
  cases hbnum : b.isNumber with
  | false =>
    have hab' := (not_gt_iff_display (.inr hbnum)).1 hab
    have hbc' := (not_gt_iff_display (.inl hbnum)).1 hbc
    by_cases h : a.isNumber = true ∧ c.isNumber = true
    · obtain ⟨hanum, hcnum⟩ := h
      rw [not_gt_iff_size ha hc hanum hcnum]
      by_contra hlt
      have hca : c.compareCells a ≠ .gt :=
        (not_gt_iff_size hc ha hcnum hanum).2 (not_le.1 hlt).le
      have hne : a.display ≠ c.display := fun heq =>
        hlt (size_eq_of_display_eq ha hc hanum hcnum heq).le
      exact hcab ⟨hcnum, hanum, hbnum, hca, lt_of_le_of_ne (hab'.trans hbc') hne, hab', hbc'⟩
    · rw [compareCells_of_not_number h, compare_le_iff_le]
      exact hab'.trans hbc'
  | true =>
    cases hanum : a.isNumber with
    | true =>
      cases hcnum : c.isNumber with
      | true =>
        rw [not_gt_iff_size ha hb hanum hbnum] at hab
        rw [not_gt_iff_size hb hc hbnum hcnum] at hbc
        exact (not_gt_iff_size ha hc hanum hcnum).2 (hab.trans hbc)
      | false =>
        rw [not_gt_iff_display (.inr hcnum)] at hbc ⊢
        by_contra hlt
        have hca := not_le.1 hlt
        exact habc ⟨hanum, hbnum, hcnum, hab, hbc.trans_lt hca, hbc, hca.le⟩
    | false =>
      rw [not_gt_iff_display (.inl hanum)] at hab ⊢
      cases hcnum : c.isNumber with
      | true =>
        by_contra hlt
        have hca := not_le.1 hlt
        exact hbca ⟨hbnum, hcnum, hanum, hbc, hca.trans_le hab, hca.le, hab⟩
      | false => exact hab.trans ((not_gt_iff_display (.inr hcnum)).1 hbc)

/-- The order of values is transitive exactly where no text is in conflict with two numbers. -/
theorem compareCells_trans_iff {p : Value → Prop} (hplain : ∀ v, p v → v.IsPlain) :
    (∀ a b c, p a → p b → p c → a.compareCells b ≠ .gt → b.compareCells c ≠ .gt →
      a.compareCells c ≠ .gt) ↔ ∀ x y z, p x → p y → p z → ¬ Conflict x y z := by
  constructor
  · intro htrans x y z hx hy hz h
    have hyz := (not_gt_iff_display (.inr h.text)).2 h.low
    have hzx := (not_gt_iff_display (.inl h.text)).2 h.high
    have hxz := (not_gt_iff_display (.inr h.text)).1 (htrans x y z hx hy hz h.bySize hyz)
    have hzy := (not_gt_iff_display (.inl h.text)).1 (htrans z x y hz hx hy hzx h.bySize)
    exact absurd (hxz.trans hzy) (not_le.2 h.byText)
  · intro hfree a b c ha hb hc hab hbc
    exact compareCells_trans (hplain a ha) (hplain b hb) (hplain c hc) hab hbc
      ⟨hfree a b c ha hb hc, hfree b c a hb hc ha, hfree c a b hc ha hb⟩

theorem isPreorderOn_compareCells {p : Value → Prop} (hplain : ∀ v, p v → v.IsPlain)
    (hfree : ∀ x y z, p x → p y → p z → ¬ Conflict x y z) : IsPreorderOn compareCells p :=
  ⟨fun a b ha hb => compareCells_swap (hplain a ha) (hplain b hb),
    (compareCells_trans_iff hplain).2 hfree⟩

end Value

/-! ## Lists -/

namespace SortState

variable {s : SortState} {records : List Record}

/-- Records are ordered as the values of the column are, those without a value last. -/
theorem isPreorderOn_compareRecords
    (h : IsPreorderOn Value.compareCells (· ∈ records.filterMap s.sortValue?)) :
    IsPreorderOn s.compareRecords (· ∈ records) := by
  have hmem : ∀ {r x}, r ∈ records → s.sortValue? r = some x → x ∈ records.filterMap s.sortValue? :=
    fun hr hx => List.mem_filterMap.2 ⟨_, hr, hx⟩
  constructor
  · intro a b ha hb
    cases hx : s.sortValue? a with
    | none => cases hy : s.sortValue? b <;> simp [compareRecords, hx, hy]
    | some x =>
      cases hy : s.sortValue? b with
      | none => simp [compareRecords, hx, hy]
      | some y =>
        have hswap := h.swap x y (hmem ha hx) (hmem hb hy)
        simp only [compareRecords, hx, hy]
        cases s.direction with
        | ascending => exact hswap
        | descending => exact congrArg Ordering.swap hswap
  · intro a b c ha hb hc hab hbc
    cases hz : s.sortValue? c with
    | none => cases hx : s.sortValue? a <;> simp [compareRecords, hx, hz]
    | some z =>
      cases hy : s.sortValue? b with
      | none => simp [compareRecords, hy, hz] at hbc
      | some y =>
        cases hx : s.sortValue? a with
        | none => simp [compareRecords, hx, hy] at hab
        | some x =>
          simp only [compareRecords, hx, hy, hz] at hab hbc ⊢
          have hx := hmem ha hx
          have hy := hmem hb hy
          have hz := hmem hc hz
          cases hdirection : s.direction with
          | ascending =>
            simp only [hdirection] at hab hbc ⊢
            exact h.trans x y z hx hy hz hab hbc
          | descending =>
            simp only [hdirection] at hab hbc ⊢
            rw [← h.swap x y hx hy] at hab
            rw [← h.swap y z hy hz] at hbc
            rw [← h.swap x z hx hz]
            exact h.trans z y x hz hy hx hbc hab

end SortState

namespace Listing

open Value (IsPlain Conflict)

variable {l : Listing} {s : SortState}

/-- The values of the column that a list is sorted by, as far as its records have one. -/
def sortValues (l : Listing) (s : SortState) : List Value := l.found.filterMap s.sortValue?

/-- A list shows the records found, in order, and there is one way to arrange them. -/
theorem sorts_visible (hs : l.sort = some s) (hplain : ∀ v ∈ l.sortValues s, v.IsPlain)
    (hfree : ∀ x y z, x ∈ l.sortValues s → y ∈ l.sortValues s → z ∈ l.sortValues s →
      ¬ Conflict x y z) :
    Sorts s.compareRecords l.found l.visible ∧
      ∀ shown, Sorts s.compareRecords l.found shown → shown = l.visible := by
  have horder := s.isPreorderOn_compareRecords (Value.isPreorderOn_compareCells hplain hfree)
  have hvisible : Sorts s.compareRecords l.found l.visible := by
    rw [visible, hs]
    exact sorts_stableSort horder
  exact ⟨hvisible, fun shown hshown => hshown.unique horder hvisible⟩

/-- The order of values is reflexive, turns round with its sides, and is transitive exactly where
no text is in conflict with two numbers. Where there is no conflict among the values of the column
that a list is sorted by, its rows are those of the records found, none greater than a later one
and equal ones as they stood, and no other arrangement is like that. -/
theorem compareCells_preorder_rows_sorted :
    (∀ a : Value, a.IsPlain → a.compareCells a = .eq) ∧
    (∀ a b : Value, a.IsPlain → b.IsPlain → b.compareCells a = (a.compareCells b).swap) ∧
    (∀ p : Value → Prop, (∀ v, p v → v.IsPlain) →
      ((∀ a b c, p a → p b → p c → a.compareCells b ≠ .gt → b.compareCells c ≠ .gt →
        a.compareCells c ≠ .gt) ↔ ∀ x y z, p x → p y → p z → ¬ Conflict x y z)) ∧
    ∀ (l : Listing) (s : SortState), l.sort = some s → (∀ v ∈ l.sortValues s, v.IsPlain) →
      (∀ x y z, x ∈ l.sortValues s → y ∈ l.sortValues s → z ∈ l.sortValues s →
        ¬ Conflict x y z) →
      ∃ shown, l.rows = shown.map l.row ∧ Sorts s.compareRecords l.found shown ∧
        ∀ other, Sorts s.compareRecords l.found other → other = shown := by
  refine ⟨fun a => Value.compareCells_self, fun a b => Value.compareCells_swap,
    fun p => Value.compareCells_trans_iff, ?_⟩
  intro l s hs hplain hfree
  obtain ⟨hsorts, honly⟩ := sorts_visible hs hplain hfree
  exact ⟨l.visible, rfl, hsorts, honly⟩

/-- Three amounts, the last of them missing, in order. -/
def amountList : Listing :=
  let amount := { ListColumn.default with name := "amount", sortable := true }
  (ofRecords { Table.default with name := "stock", listColumns := [amount] }
    [.ofList [("amount", .int 10)], .ofList [("amount", .int 9)], .ofList [("amount", .null)]]
    .empty "en" "en").toggleSort "amount"

theorem compareCells_preorder_rows_sorted_amountList :
    amountList.sort = some ⟨"amount", .ascending⟩ ∧
      amountList.sortValues ⟨"amount", .ascending⟩ = [.int 10, .int 9] ∧
      ∃ shown, amountList.rows = shown.map amountList.row ∧
        Sorts (SortState.compareRecords ⟨"amount", .ascending⟩) amountList.found shown ∧
        ∀ other, Sorts (SortState.compareRecords ⟨"amount", .ascending⟩) amountList.found other →
          other = shown := by
  have hsort : amountList.sort = some ⟨"amount", .ascending⟩ := by rfl
  have hvalues : amountList.sortValues ⟨"amount", .ascending⟩ = [.int 10, .int 9] := by rfl
  refine ⟨hsort, hvalues, compareCells_preorder_rows_sorted.2.2.2 amountList _ hsort ?_ ?_⟩
  · intro v hv
    rw [hvalues] at hv
    rcases List.mem_pair.1 hv with rfl | rfl <;> exact Value.isPlain_int (by decide)
  · -- there is no text among the amounts
    rw [hvalues]
    intro x y z _ _ hz hconflict
    have htext := hconflict.text
    rcases List.mem_pair.1 hz with rfl | rfl <;> cases htext

/-- The order is not transitive on all values: `9` is below `10`, which is below the text `5`, which
is below `9`. -/
theorem not_compareCells_trans_nine :
    ¬ ∀ a b c : Value, a.IsPlain → b.IsPlain → c.IsPlain → a.isNull = false → b.isNull = false →
      c.isNull = false → a.compareCells b ≠ .gt → b.compareCells c ≠ .gt →
      a.compareCells c ≠ .gt := by
  intro h
  have hnine : (Value.int 9).IsPlain := Value.isPlain_int (by decide)
  have hten : (Value.int 10).IsPlain := Value.isPlain_int (by decide)
  have hle : (Value.int 9).compareCells (.int 10) ≠ .gt := by decide +kernel
  have hle' : (Value.int 10).compareCells (.str "5") ≠ .gt := by decide +kernel
  have hgt : (Value.int 9).compareCells (.str "5") = .gt := by decide +kernel
  exact h _ _ _ hnine hten (Value.isPlain_str "5") rfl rfl rfl hle hle' hgt

end Listing

end RecordDesk
