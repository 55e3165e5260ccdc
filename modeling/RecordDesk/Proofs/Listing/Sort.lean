import RecordDesk.Listing.View
import RecordDesk.Proofs.Steps

/-
  The stable sort. Where an order of items is a preorder, the items are put in order, equal ones as
  they stood (`sorts_stableSort`), and this arrangement is the only one (`Sorts.unique`).
-/

namespace RecordDesk

variable {α : Type} {order : α → α → Ordering} {p : α → Prop} {items xs ys : List α} {x : α}

/-- The order is a preorder of the items that have a property: turned round it is the other way
round, and it is transitive. -/
structure IsPreorderOn (order : α → α → Ordering) (p : α → Prop) : Prop where
  swap : ∀ a b, p a → p b → order b a = (order a b).swap
  trans : ∀ a b c, p a → p b → p c → order a b ≠ .gt → order b c ≠ .gt → order a c ≠ .gt

/-- The list holds the items in order, equal ones as they stood. -/
structure Sorts (order : α → α → Ordering) (items sorted : List α) : Prop where
  perm : sorted.Perm items
  ordered : sorted.Pairwise fun a b => order a b ≠ .gt
  stable : ∀ a ∈ items, sorted.filter (order a · == .eq) = items.filter (order a · == .eq)

namespace IsPreorderOn

theorem refl (h : IsPreorderOn order p) {a : α} (ha : p a) : order a a = .eq := by
  have hswap := h.swap a a ha ha
  cases horder : order a a <;> simp_all

theorem eq_symm (h : IsPreorderOn order p) {a b : α} (ha : p a) (hb : p b)
    (hab : order a b = .eq) : order b a = .eq := by
  rw [h.swap a b ha hb, hab]
  rfl

theorem antisymm (h : IsPreorderOn order p) {a b : α} (ha : p a) (hb : p b)
    (hab : order a b ≠ .gt) (hba : order b a ≠ .gt) : order a b = .eq := by
  rw [h.swap a b ha hb] at hba
  cases hcompare : order a b <;> simp_all

/-- Items that are equal to one item are equal to each other. -/
theorem eq_of_eq (h : IsPreorderOn order p) {a b c : α} (ha : p a) (hb : p b) (hc : p c)
    (hab : order a b = .eq) (hac : order a c = .eq) : order b c = .eq :=
  h.antisymm hb hc
    (h.trans b a c hb ha hc (by simp [h.eq_symm ha hb hab]) (by simp [hac]))
    (h.trans c a b hc ha hb (by simp [h.eq_symm ha hc hac]) (by simp [hab]))

/-- What comes first is not greater than anything in the list. -/
theorem first (h : IsPreorderOn order p) {a b : α} (hb : p b)
    (hfirst : ∀ c ∈ xs, order a c ≠ .gt) (hmem : b ∈ a :: xs) : order a b ≠ .gt := by
  rcases List.mem_cons.1 hmem with rfl | hmem
  · simp [h.refl hb]
  · exact hfirst b hmem

theorem total (h : IsPreorderOn order p) {a b : α} (ha : p a) (hb : p b) (hab : order a b ≠ .lt) :
    order b a ≠ .gt := by
  rw [h.swap a b ha hb]
  cases horder : order a b <;> simp_all

end IsPreorderOn

/-! ## Inserting -/

theorem insertLast_perm : (insertLast order x xs).Perm (x :: xs) := by
  induction xs with
  | nil => exact .refl _
  | cons y ys ih =>
    rw [insertLast]
    split
    · exact (ih.cons y).trans (.swap x y ys)
    · exact .refl _

theorem mem_insertLast {y : α} : y ∈ insertLast order x xs ↔ y = x ∨ y ∈ xs := by
  rw [insertLast_perm.mem_iff, List.mem_cons]

/-- A list that is sorted from the back still is when an item is put in. -/
theorem insertLast_ordered (h : IsPreorderOn order p) (hx : p x) (hxs : ∀ y ∈ xs, p y)
    (hordered : xs.Pairwise fun a b => order b a ≠ .gt) :
    (insertLast order x xs).Pairwise fun a b => order b a ≠ .gt := by
  induction xs with
  | nil => exact List.pairwise_singleton _ x
  | cons y ys ih =>
    obtain ⟨hy, hys⟩ := List.pairwise_cons.1 hordered
    have hpy := hxs y List.mem_cons_self
    have hpys := fun z hz => hxs z (List.mem_cons_of_mem y hz)
    rw [insertLast]
    split
    · next hlt =>
      refine List.pairwise_cons.2 ⟨fun z hz => ?_, ih hpys hys⟩
      rcases mem_insertLast.1 hz with rfl | hz
      · rw [hlt]
        decide
      · exact hy z hz
    · next hnot =>
      have hyx := h.total hx hpy hnot
      refine List.pairwise_cons.2 ⟨fun z hz => ?_, hordered⟩
      rcases List.mem_cons.1 hz with rfl | hz
      · exact hyx
      · exact h.trans z y x (hpys z hz) hpy hx (hy z hz) hyx

/-- An item is put before those that it is equal to. -/
theorem filter_insertLast {q : α → Bool}
    (hq : ∀ y ∈ xs, q x = true → q y = true → order x y ≠ .lt) :
    (insertLast order x xs).filter q = (x :: xs).filter q := by
  induction xs with
  | nil => rfl
  | cons y ys ih =>
    rw [insertLast]
    split
    · next hlt =>
      rw [List.filter_cons, ih fun z hz => hq z (List.mem_cons_of_mem y hz)]
      have hnot : q x = true → q y = false := fun hqx =>
        Bool.eq_false_iff.2 fun hqy => hq y List.mem_cons_self hqx hqy hlt
      cases hqx : q x
      · simp [List.filter_cons, hqx]
      · simp [hqx, hnot hqx]
    · rfl

/-! ## Sorting -/

/-- The first of the items, sorted from the back. -/
structure SortsBack (order : α → α → Ordering) (items done sorted : List α) : Prop where
  perm : sorted.Perm done
  ordered : sorted.Pairwise fun a b => order b a ≠ .gt
  stable : ∀ q : α → Bool, (∀ a ∈ items, ∀ b ∈ items, q a = true → q b = true → order a b ≠ .lt) →
    sorted.reverse.filter q = done.filter q

theorem SortsBack.insert {done rest sorted : List α} (h : IsPreorderOn order (· ∈ items))
    (hitems : items = done ++ x :: rest) (hs : SortsBack order items done sorted) :
    SortsBack order items (done ++ [x]) (insertLast order x sorted) := by
  have hx : x ∈ items := by simp [hitems]
  have hsorted : ∀ y ∈ sorted, y ∈ items := fun y hy => by simp [hitems, hs.perm.mem_iff.1 hy]
  refine ⟨?_, insertLast_ordered h hx hsorted hs.ordered, fun q hq => ?_⟩
  · exact insertLast_perm.trans
      ((hs.perm.cons x).trans (List.perm_append_singleton x done).symm)
  · have hinsert := filter_insertLast fun y hy => hq x hx y (hsorted y hy)
    have hdone := hs.stable q hq
    rw [List.filter_reverse] at hdone ⊢
    rw [hinsert, List.filter_append, ← hdone, List.filter_cons, List.filter_cons]
    split <;> simp

theorem sortsBack_foldl (h : IsPreorderOn order (· ∈ items)) :
    SortsBack order items items (items.foldl (fun done x => insertLast order x done) []) :=
  foldl_done (motive := SortsBack order items) (fun _ _ _ _ hitems hs => hs.insert h hitems)
    ⟨.refl [], .nil, fun _ _ => rfl⟩

/-- Items that the order is a preorder of are put in order, equal ones as they stood. -/
theorem sorts_stableSort (h : IsPreorderOn order (· ∈ items)) :
    Sorts order items (stableSort order items) := by
  have hs := sortsBack_foldl h
  refine ⟨(List.reverse_perm _).trans hs.perm, List.pairwise_reverse.2 hs.ordered, fun a ha => ?_⟩
  refine hs.stable _ fun b hb c hc hab hac => ?_
  rw [h.eq_of_eq ha hb hc (beq_iff_eq.1 hab) (beq_iff_eq.1 hac)]
  decide

/-! ## The only arrangement -/

theorem mem_iff_of_class (h : IsPreorderOn order p) {a : α} (ha : p a)
    (hclass : xs.filter (order a · == .eq) = ys.filter (order a · == .eq)) : a ∈ xs ↔ a ∈ ys := by
  have hmem : a ∈ xs.filter (order a · == .eq) ↔ a ∈ ys.filter (order a · == .eq) := by rw [hclass]
  simpa [List.mem_filter, h.refl ha] using hmem

/-- Lists in order are the same if they have the same items of each class, in the same order. -/
theorem eq_of_ordered (h : IsPreorderOn order p) (hxs : ∀ a ∈ xs, p a) (hys : ∀ a ∈ ys, p a)
    (hx : xs.Pairwise fun a b => order a b ≠ .gt) (hy : ys.Pairwise fun a b => order a b ≠ .gt)
    (hclass : ∀ a, p a → xs.filter (order a · == .eq) = ys.filter (order a · == .eq)) :
    xs = ys := by
  induction xs generalizing ys with
  | nil =>
    refine (List.eq_nil_iff_forall_not_mem.2 fun y hmem => ?_).symm
    exact List.not_mem_nil ((mem_iff_of_class h (hys y hmem) (hclass y (hys y hmem))).2 hmem)
  | cons x xs ih =>
    have hpx := hxs x List.mem_cons_self
    cases ys with
    | nil =>
      exact absurd ((mem_iff_of_class h hpx (hclass x hpx)).1 List.mem_cons_self) List.not_mem_nil
    | cons y ys =>
      have hpy := hys y List.mem_cons_self
      obtain ⟨hxfirst, hxrest⟩ := List.pairwise_cons.1 hx
      obtain ⟨hyfirst, hyrest⟩ := List.pairwise_cons.1 hy
      -- each of the first items is in the other list, so neither is greater
      have hymem := (mem_iff_of_class h hpy (hclass y hpy)).2 List.mem_cons_self
      have hxmem := (mem_iff_of_class h hpx (hclass x hpx)).1 List.mem_cons_self
      have heq := h.antisymm hpx hpy (h.first hpy hxfirst hymem) (h.first hpx hyfirst hxmem)
      obtain rfl : x = y := by
        have hfirst := hclass x hpx
        rw [List.filter_cons_of_pos (by simp [h.refl hpx]),
          List.filter_cons_of_pos (by simp [heq])] at hfirst
        exact (List.cons.inj hfirst).1
      rw [ih (fun a ha => hxs a (List.mem_cons_of_mem x ha))
        (fun a ha => hys a (List.mem_cons_of_mem x ha)) hxrest hyrest fun a ha => ?_]
      have hrest := hclass a ha
      rw [List.filter_cons, List.filter_cons] at hrest
      split at hrest
      · exact (List.cons.inj hrest).2
      · exact hrest

/-- Items that the order is a preorder of are sorted in one way only. -/
theorem Sorts.unique (h : IsPreorderOn order (· ∈ items)) (hx : Sorts order items xs)
    (hy : Sorts order items ys) : xs = ys :=
  eq_of_ordered h (fun _ ha => hx.perm.mem_iff.1 ha) (fun _ ha => hy.perm.mem_iff.1 ha)
    hx.ordered hy.ordered fun a ha => (hx.stable a ha).trans (hy.stable a ha).symm

end RecordDesk
