import Mathlib.Data.List.Chain
import RecordDesk.Proofs.Graph.Cycle

/-
  The order of a graph. Where an order is given, every node stands in it once and each edge leads
  forward (`order_ok`); where none is given, the answer is a cycle (`order_error`). An order is
  given exactly if no node is reached from itself (`exists_order`, `exists_cycle`).
-/

namespace RecordDesk.Graph

open Relation

/-- Every step of a relation leads forward in the order: whatever leads to a member stands before
it. -/
def Forward (step : String → String → Prop) (order : List String) : Prop :=
  ∀ before v after, order = before ++ v :: after → ∀ u, step u v → u ∈ before

/-- Ways lead forward too. -/
theorem Forward.transGen {step : String → String → Prop} {order : List String}
    (h : Forward step order) : Forward (TransGen step) order := by
  intro before v after hsplit u huv
  induction huv generalizing before after with
  | single hu => exact h before _ after hsplit u hu
  | tail _ hstep ih =>
    obtain ⟨front, mid, rfl⟩ := List.append_of_mem (h before _ after hsplit _ hstep)
    have := ih front (mid ++ _ :: after) (by simpa using hsplit)
    exact List.mem_append_left _ this

/-- Nothing in an order leads back to itself. -/
theorem Forward.acyclic {step : String → String → Prop} {order : List String}
    (h : Forward step order) (hnd : order.Nodup) {v : String} (hv : v ∈ order) :
    ¬ TransGen step v v := by
  intro hc
  obtain ⟨before, after, rfl⟩ := List.append_of_mem hv
  have hmem : v ∈ before := h.transGen before v after rfl v hc
  exact (List.nodup_append.1 hnd).2.2 v hmem v List.mem_cons_self rfl

/-! ## Places in an order -/

/-- The one name stands before the other in an order. -/
def StandsBefore (order : List String) (a b : String) : Prop :=
  ∃ done rest, order = done ++ b :: rest ∧ a ∈ done

/-- In an order without repetition a name has one place. -/
theorem eq_of_split {done done' rest rest' : List String} {name : String}
    (hnd : (done ++ name :: rest).Nodup) (h : done ++ name :: rest = done' ++ name :: rest') :
    done = done' := by
  induction done generalizing done' with
  | nil =>
    cases done' with
    | nil => rfl
    | cons first tail =>
      obtain ⟨rfl, hrest⟩ := List.cons.inj h
      have hnew := (List.nodup_cons.1 hnd).1
      exact absurd (hrest ▸ List.mem_append_right tail List.mem_cons_self) hnew
  | cons first tail ih =>
    obtain ⟨hnew, hnd⟩ := List.nodup_cons.1 hnd
    cases done' with
    | nil =>
      obtain ⟨rfl, -⟩ := List.cons.inj h
      exact absurd (List.mem_append_right tail List.mem_cons_self) hnew
    | cons first' tail' =>
      obtain ⟨rfl, htail⟩ := List.cons.inj h
      rw [ih hnd htail]

theorem standsBefore_iff {order done rest : List String} {a b : String} (hnd : order.Nodup)
    (hsplit : order = done ++ b :: rest) : StandsBefore order a b ↔ a ∈ done := by
  constructor
  · rintro ⟨done', rest', hsplit', hmem⟩
    rw [eq_of_split (hsplit ▸ hnd) (hsplit.symm.trans hsplit')]
    exact hmem
  · intro hmem; exact ⟨done, rest, hsplit, hmem⟩

theorem StandsBefore.trans {order : List String} {a b c : String} (hnd : order.Nodup)
    (hab : StandsBefore order a b) (hbc : StandsBefore order b c) : StandsBefore order a c := by
  obtain ⟨done, rest, rfl, hb⟩ := hbc
  obtain ⟨before, after, rfl⟩ := List.append_of_mem hb
  have hsplit : before ++ b :: after ++ c :: rest = before ++ b :: (after ++ c :: rest) := by simp
  exact ⟨_, rest, rfl, List.mem_append_left _ ((standsBefore_iff hnd hsplit).1 hab)⟩

/-- What leads to a member of the front of an order along a relation is in that front. -/
theorem Forward.mem_front {step : String → String → Prop} {order front back : List String}
    (h : Forward step order) (hsplit : order = front ++ back) {u v : String} (hv : v ∈ front)
    (huv : step u v) : u ∈ front := by
  obtain ⟨before, after, rfl⟩ := List.append_of_mem hv
  have hmem : u ∈ before := h before v (after ++ back) (by simpa using hsplit) u huv
  exact List.mem_append_left _ hmem

/-- In an order along a relation, what leads to a member stands before it. -/
theorem Forward.standsBefore {step : String → String → Prop} {order : List String}
    (h : Forward step order) {a b : String} (hb : b ∈ order) (hab : step a b) :
    StandsBefore order a b := by
  obtain ⟨before, after, rfl⟩ := List.append_of_mem hb
  exact ⟨before, after, rfl, h before b after rfl a hab⟩

/-! ## Edges that lead back -/

/-- No edge leads back: each predecessor of a node is the node itself or stands before it. -/
theorem backSource?_none {g : Graph} {nodes : List String} :
    ∀ {seen : List String}, g.backSource? seen nodes = none →
      ∀ before v after, nodes = before ++ v :: after →
        ∀ u, g.Edge u v → u = v ∨ u ∈ before ∨ u ∈ seen := by
  induction nodes with
  | nil => intro _ _ before v after hsplit; simp at hsplit
  | cons node rest ih =>
    intro seen h before v after hsplit u hu
    rw [backSource?] at h
    split at h
    · cases h
    · next hnone =>
      cases before with
      | nil =>
        obtain ⟨rfl, rfl⟩ := List.cons.inj hsplit
        have := List.find?_eq_none.1 hnone u (by simpa using mem_predecessors.2 hu)
        simp only [List.mem_cons, not_or, decide_eq_true_eq, not_and, not_not] at this
        tauto
      | cons w before =>
        obtain ⟨rfl, rfl⟩ := List.cons.inj hsplit
        have := ih h before v after rfl u hu
        simp only [List.mem_cons] at this ⊢
        tauto

/-- The source that is named has an edge to a node and stands neither there nor before. -/
theorem backSource?_some {g : Graph} {nodes : List String} :
    ∀ {seen : List String} {source : String}, g.backSource? seen nodes = some source →
      ∃ before v after, nodes = before ++ v :: after ∧ g.Edge source v ∧ source ≠ v ∧
        source ∉ before ∧ source ∉ seen := by
  induction nodes with
  | nil => intro _ _ h; simp [backSource?] at h
  | cons node rest ih =>
    intro seen source h
    rw [backSource?] at h
    split at h
    · next found hfound =>
      obtain rfl := Option.some.inj h
      have hmem := List.mem_of_find?_eq_some hfound
      have hnew := List.find?_some hfound
      simp only [List.mem_cons, not_or, decide_eq_true_eq] at hnew
      exact ⟨[], node, rest, rfl, mem_predecessors.1 (by simpa using hmem), hnew.1, by simp,
        hnew.2⟩
    · obtain ⟨before, v, after, rfl, hedge, hne, hbefore, hseen⟩ := ih h
      simp only [List.mem_cons, not_or] at hseen
      exact ⟨node :: before, v, after, rfl, hedge, hne, by simp [hseen.1, hbefore], hseen.2⟩

/-! ## The order -/

/-- An order holds every node once and leads along the edges. -/
theorem order_ok {g : Graph} (hg : g.WellFormed) {order : List String} (h : g.order = .ok order) :
    order.Nodup ∧ (∀ v, v ∈ order ↔ v ∈ g.nodes) ∧ Forward g.Edge order := by
  have hs := search_sound hg
  rw [Graph.order] at h
  split at h
  · cases h
  · next hloop =>
    split at h
    · cases h
    · next hback =>
      obtain rfl := Except.ok.inj h
      refine ⟨hs.1.nodup_finished, mem_finished_search hg, ?_⟩
      intro before v after hsplit u hu
      rcases backSource?_none hback before v after hsplit u hu with rfl | hmem | hmem
      · have hfound := hs.2 u (hg.source_mem _ _ hu)
        exact absurd (hasLoop_iff.2 hu) (List.find?_eq_none.1 hloop u (by simpa using hfound))
      · exact hmem
      · exact absurd hmem List.not_mem_nil

/-- The source of an edge that leads back lies on a cycle: the target was not finished before the
source, so it leads to it. -/
theorem cycle_of_backSource {g : Graph} (hg : g.WellFormed) {node : String}
    (h : g.backSource? [] g.search.finished = some node) :
    node ∈ g.nodes ∧ TransGen g.Edge node node := by
  obtain ⟨before, v, after, hsplit, hedge, hne, hbefore, _⟩ := backSource?_some h
  obtain ⟨hsound, _⟩ := search_sound hg
  have hn : node ∈ g.nodes := hg.source_mem _ _ hedge
  have hfin : node ∈ g.search.finished := (mem_finished_search hg node).2 hn
  have hafter : node ∈ after := by
    rw [hsplit] at hfin
    simpa [hbefore, hne] using hfin
  obtain ⟨mid, older, rfl⟩ := List.append_of_mem hafter
  refine ⟨hn, ?_⟩
  rcases hsound.back (before ++ v :: mid) node older (by simpa using hsplit) v hedge with hold | hr
  · have hnd := hsound.nodup_finished
    rw [hsplit] at hnd
    have hv : v ∉ mid ++ node :: older := (List.nodup_cons.1 (List.nodup_append.1 hnd).2.1).1
    exact absurd (List.mem_append_right _ (List.mem_cons_of_mem _ hold)) hv
  · exact .head' hedge hr

/-- Where no order is given, the answer is a cycle. -/
theorem order_error {g : Graph} (hg : g.WellFormed) {cycle : List String}
    (h : g.order = .error cycle) : ClosedWalk g.Edge cycle := by
  rw [Graph.order] at h
  split at h
  · next node hloop =>
    obtain rfl := Except.error.inj h
    have hedge : g.Edge node node := hasLoop_iff.1 (List.find?_some hloop)
    exact closedWalk_cycleThrough hg (hg.source_mem _ _ hedge) (.single hedge)
  · split at h
    · next node hback =>
      obtain rfl := Except.error.inj h
      obtain ⟨hn, hc⟩ := cycle_of_backSource hg hback
      exact closedWalk_cycleThrough hg hn hc
    · cases h

/-- A closed walk leads back to its first node. -/
theorem ClosedWalk.cyclic {step : String → String → Prop} {walk : List String}
    (h : ClosedWalk step walk) : ∃ v, TransGen step v v := by
  match walk, h with
  | [], h => exact absurd h.two_le (by simp)
  | [_], h => exact absurd h.two_le (by simp)
  | first :: second :: rest, h =>
    obtain ⟨hstep, hrest⟩ := List.isChain_cons_cons.1 h.steps
    have hlast : (second :: rest).getLast (by simp) = first := by
      have hclose : some first = (second :: rest).getLast? := h.closes
      rw [List.getLast?_eq_some_getLast (by simp)] at hclose
      exact (Option.some.inj hclose).symm
    have hback : ReflTransGen step second first :=
      List.relationReflTransGen_of_exists_isChain_cons rest hrest hlast
    exact ⟨first, .head' hstep hback⟩

/-- A graph without cycles has an order. -/
theorem exists_order {g : Graph} (hg : g.WellFormed) (h : ∀ v, ¬ TransGen g.Edge v v) :
    ∃ order, g.order = .ok order := by
  cases hord : g.order with
  | ok order => exact ⟨order, rfl⟩
  | error cycle =>
    obtain ⟨v, hv⟩ := (order_error hg hord).cyclic
    exact absurd hv (h v)

/-- A graph with a cycle has none. -/
theorem exists_cycle {g : Graph} (hg : g.WellFormed) {v : String} (hv : TransGen g.Edge v v) :
    ∃ cycle, g.order = .error cycle := by
  cases hord : g.order with
  | error cycle => exact ⟨cycle, rfl⟩
  | ok order =>
    obtain ⟨hnd, hmem, hfwd⟩ := order_ok hg hord
    have hn : v ∈ g.nodes := by
      obtain ⟨w, hw, _⟩ := TransGen.head'_iff.1 hv
      exact hg.source_mem _ _ hw
    exact absurd hv (hfwd.acyclic hnd ((hmem v).2 hn))

end RecordDesk.Graph
