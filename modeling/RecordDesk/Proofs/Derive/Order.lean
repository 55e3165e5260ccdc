import RecordDesk.Proofs.Derive.Collect

/-
  The order of a plan. The graph that a plan is made from has exactly the dependencies of the table,
  so a table whose dependencies form no circle gets an order that leads along them, and any other
  table is refused with a circle of them (`ofTable_order_or_cycle`).
-/

namespace RecordDesk

open Relation

namespace Table

/-- One field is derived from the other: the formula of the target refers to the source, or the
source is a selector that fills the target in. -/
def Depends (t : Table) (source target : String) : Prop :=
  (∃ k ∈ t.calculations, source ∈ k.formula.fields ∧ k.target = target) ∨
  ∃ s ∈ t.selectors, s.field = source ∧ ∃ copy ∈ s.autofill.copies, copy.target = target

/-- The field takes part in a derivation. -/
def TakesPart (t : Table) (name : String) : Prop :=
  (∃ k ∈ t.calculations, k.target = name ∨ name ∈ k.formula.fields) ∨
  ∃ s ∈ t.selectors, s.field = name ∨ ∃ copy ∈ s.autofill.copies, copy.target = name

theorem depends_of_mem_fields {t : Table} {k : Calculated} (hk : k ∈ t.calculations)
    {name : String} (hname : name ∈ k.formula.fields) : t.Depends name k.target :=
  .inl ⟨k, hk, hname, rfl⟩

theorem depends_of_mem_copies {t : Table} {s : Selector} (hs : s ∈ t.selectors)
    {copy : ColumnCopy} (hcopy : copy ∈ s.autofill.copies) : t.Depends s.field copy.target :=
  .inr ⟨s, hs, rfl, copy, hcopy, rfl⟩

end Table

namespace Graph

variable {α : Type}

/-! ## Graphs grown step by step -/

/-- A step adds to a graph just these edges and these nodes, whatever the graph. -/
structure Adds (step : Graph → α → Graph) (edges : α → String → String → Prop)
    (nodes : α → String → Prop) : Prop where
  edge : ∀ g x a b, (step g x).Edge a b ↔ g.Edge a b ∨ edges x a b
  node : ∀ g x v, v ∈ (step g x).nodes ↔ v ∈ g.nodes ∨ nodes x v
  nodup : ∀ g x, g.nodes.Nodup → (step g x).nodes.Nodup

/-- Steps one after another add what each of them adds. -/
theorem Adds.foldl {step : Graph → α → Graph} {edges : α → String → String → Prop}
    {nodes : α → String → Prop} (h : Adds step edges nodes) :
    Adds (fun g (items : List α) => items.foldl step g) (fun items a b => ∃ x ∈ items, edges x a b)
      (fun items v => ∃ x ∈ items, nodes x v) where
  edge g items a b := by
    induction items generalizing g with
    | nil => simp
    | cons x rest ih => rw [List.foldl_cons, ih, h.edge]; simp [or_assoc]
  node g items v := by
    induction items generalizing g with
    | nil => simp
    | cons x rest ih => rw [List.foldl_cons, ih, h.node]; simp [or_assoc]
  nodup g items hg := by
    induction items generalizing g with
    | nil => exact hg
    | cons x rest ih => exact ih _ (h.nodup g x hg)

/-- Mentioning a node and adding an edge. -/
theorem adds_link (node source target : α → String) :
    Adds (fun g x => (g.addNode (node x)).addEdge (source x) (target x))
      (fun x a b => source x = a ∧ target x = b) (fun x v => node x = v) where
  edge g x a b := by simp [Edge, mem_addEdge, eq_comm]
  node g x v := by simp [mem_addNode, eq_comm]
  nodup g x hg := by rw [addEdge_nodes]; exact nodup_addNode _ hg

end Graph

namespace Plan

theorem adds_calculationEdges :
    Graph.Adds calculationEdges (fun c a b => a ∈ c.formula.fields ∧ c.target = b)
      (fun c v => c.target = v ∨ v ∈ c.formula.fields) := by
  have hlinks := fun target : String => (Graph.adds_link id id (fun _ => target)).foldl
  refine ⟨fun g c a b => ?_, fun g c v => ?_, fun g c hg => ?_⟩
  · refine ((hlinks c.target).edge (g.addNode c.target) c.formula.fields a b).trans ?_
    simp [Graph.Edge]
  · refine ((hlinks c.target).node (g.addNode c.target) c.formula.fields v).trans ?_
    simp [Graph.mem_addNode, or_assoc, eq_comm]
  · exact (hlinks c.target).nodup _ c.formula.fields (Graph.nodup_addNode _ hg)

theorem adds_selectorEdges :
    Graph.Adds selectorEdges
      (fun s a b => s.field = a ∧ ∃ copy ∈ s.autofill.copies, copy.target = b)
      (fun s v => s.field = v ∨ ∃ copy ∈ s.autofill.copies, copy.target = v) := by
  have hlinks := fun field : String =>
    (Graph.adds_link ColumnCopy.target (fun _ => field) ColumnCopy.target).foldl
  refine ⟨fun g s a b => ?_, fun g s v => ?_, fun g s hg => ?_⟩
  · refine ((hlinks s.field).edge (g.addNode s.field) s.autofill.copies a b).trans ?_
    simp only [Graph.Edge, Graph.addNode_edges]
    tauto
  · refine ((hlinks s.field).node (g.addNode s.field) s.autofill.copies v).trans ?_
    simp [Graph.mem_addNode, or_assoc, eq_comm]
  · exact (hlinks s.field).nodup _ s.autofill.copies (Graph.nodup_addNode _ hg)

/-! ## The graph of a table -/

theorem mem_values_iff {t : Table} {draft : Draft} (h : collect t = .ok draft) (k : Calculated) :
    k ∈ draft.calculations.values ↔ k ∈ t.calculations := by
  rw [Dict.mem_values]
  have hget := (collect_ok h).1.get?_iff
  constructor
  · rintro ⟨target, hk⟩; exact ((hget target k).1 hk).1
  · intro hk; exact ⟨k.target, (hget k.target k).2 ⟨hk, rfl⟩⟩

/-- The edges of the graph are the dependencies of the table. -/
theorem edge_dependencies {t : Table} {draft : Draft} (h : collect t = .ok draft)
    (a b : String) : (dependencies draft).Edge a b ↔ t.Depends a b := by
  rw [dependencies, adds_selectorEdges.foldl.edge, adds_calculationEdges.foldl.edge]
  simp only [mem_values_iff h, (collect_ok h).2.eq]
  simp [Table.Depends, Table.selectors, Graph.Edge, Graph.empty]

/-- The nodes of the graph are the fields that take part in a derivation. -/
theorem mem_dependencies {t : Table} {draft : Draft} (h : collect t = .ok draft) (v : String) :
    v ∈ (dependencies draft).nodes ↔ t.TakesPart v := by
  rw [dependencies, adds_selectorEdges.foldl.node, adds_calculationEdges.foldl.node]
  simp only [mem_values_iff h, (collect_ok h).2.eq]
  simp [Table.TakesPart, Table.selectors, Graph.empty]

theorem wellFormed_dependencies {t : Table} {draft : Draft} (h : collect t = .ok draft) :
    (dependencies draft).WellFormed where
  nodup := adds_selectorEdges.foldl.nodup _ _ (adds_calculationEdges.foldl.nodup _ _ .nil)
  source_mem a b hab := by
    rw [mem_dependencies h]
    rcases (edge_dependencies h a b).1 hab with ⟨k, hk, hf, -⟩ | ⟨s, hs, hf, -⟩
    · exact .inl ⟨k, hk, .inr hf⟩
    · exact .inr ⟨s, hs, .inl hf⟩
  target_mem a b hab := by
    rw [mem_dependencies h]
    rcases (edge_dependencies h a b).1 hab with ⟨k, hk, -, ht⟩ | ⟨s, hs, -, ht⟩
    · exact .inl ⟨k, hk, .inl ht⟩
    · exact .inr ⟨s, hs, .inr ht⟩

/-! ## The order of a plan -/

/-- What a plan of a table is: the table's derivations, and an order of the fields that take part
in them along their dependencies. -/
structure Follows (p : Plan) (t : Table) : Prop where
  table : p.table = t.name
  calculation_iff : ∀ target k, p.calculations.get? target = some k ↔
    k ∈ t.calculations ∧ k.target = target
  known : ∀ k ∈ t.calculations, Known t k
  selectors : p.selectors = t.selectors
  targets : ∀ s ∈ t.selectors, ∀ copy ∈ s.autofill.copies, t.HasField copy.target
  nodup : p.order.Nodup
  mem_order : ∀ name, name ∈ p.order ↔ t.TakesPart name
  forward : Graph.Forward t.Depends p.order

theorem depends_eq {t : Table} {draft : Draft} (h : collect t = .ok draft) :
    (dependencies draft).Edge = t.Depends :=
  funext fun a => funext fun b => propext (edge_dependencies h a b)

theorem ofTable_of_order {t : Table} {draft : Draft} (h : collect t = .ok draft)
    {order : List String} (hord : (dependencies draft).order = .ok order) :
    ofTable t = .ok ⟨t.name, order, draft.calculations, draft.selectors⟩ := by
  simp only [ofTable, h, bind, Except.bind, hord]
  rfl

theorem ofTable_of_cycle {t : Table} {draft : Draft} (h : collect t = .ok draft)
    {cycle : List String} (hord : (dependencies draft).order = .error cycle) :
    ofTable t = .error (.cyclicDependency t.name cycle) := by
  simp only [ofTable, h, bind, Except.bind, hord]

/-- A plan that is made follows its table. -/
theorem follows_of_order {t : Table} {draft : Draft} (h : collect t = .ok draft)
    {order : List String} (hord : (dependencies draft).order = .ok order) :
    Follows ⟨t.name, order, draft.calculations, draft.selectors⟩ t := by
  obtain ⟨hcalc, hsel⟩ := collect_ok h
  obtain ⟨hnd, hmem, hfwd⟩ := Graph.order_ok (wellFormed_dependencies h) hord
  exact {
    table := rfl
    calculation_iff := hcalc.get?_iff
    known := hcalc.known
    selectors := hsel.eq
    targets := fun s hs => hsel.targets s (hsel.eq ▸ hs)
    nodup := hnd
    mem_order := fun name => (hmem name).trans (mem_dependencies h name)
    forward := depends_eq h ▸ hfwd }

theorem follows_of_ofTable {t : Table} {p : Plan} (h : ofTable t = .ok p) : Follows p t := by
  cases hcollect : collect t with
  | error e => rw [ofTable, hcollect] at h; cases h
  | ok draft =>
    cases hord : (dependencies draft).order with
    | error cycle => rw [ofTable_of_cycle hcollect hord] at h; cases h
    | ok order =>
      rw [ofTable_of_order hcollect hord] at h
      obtain rfl := Except.ok.inj h
      exact follows_of_order hcollect hord

/-- A table that passes the checks of its fields, formulas and targets gets a plan exactly if its
dependencies form no circle. The order of the plan holds every field that takes part once, and the
source of each dependency before its target; and a table that is refused is told with a circle of
dependencies. -/
theorem ofTable_order_or_cycle (t : Table) (hchecks : ∃ draft, collect t = .ok draft) :
    ((∀ name, ¬ TransGen t.Depends name name) →
      ∃ p, ofTable t = .ok p ∧ p.order.Nodup ∧ (∀ name, name ∈ p.order ↔ t.TakesPart name) ∧
        Graph.Forward t.Depends p.order) ∧
    ((∃ name, TransGen t.Depends name name) →
      ∃ cycle, ofTable t = .error (.cyclicDependency t.name cycle) ∧
        Graph.ClosedWalk t.Depends cycle) := by
  obtain ⟨draft, h⟩ := hchecks
  have hg := wellFormed_dependencies h
  constructor
  · intro hacyclic
    obtain ⟨order, hord⟩ := Graph.exists_order hg (by rwa [depends_eq h])
    have hp := follows_of_order h hord
    exact ⟨_, ofTable_of_order h hord, hp.nodup, hp.mem_order, hp.forward⟩
  · rintro ⟨name, hcyclic⟩
    obtain ⟨cycle, hord⟩ := Graph.exists_cycle hg (by rwa [depends_eq h])
    exact ⟨cycle, ofTable_of_cycle h hord, depends_eq h ▸ Graph.order_error hg hord⟩

/-- Three fields in a chain, `total` calculated from `net` and that from `price`; a formula of
`price` may close the chain to a circle. -/
def chainTable (price : Option Calculation) : Table :=
  { Table.default with
    name := "orders"
    formFields := [
      { FormField.default with
        name := "total", calculation := some ⟨true, "net * 2", none, []⟩ },
      { FormField.default with
        name := "net", calculation := some ⟨true, "price - 1", none, []⟩ },
      { FormField.default with name := "price", calculation := price }] }

/-- The chain has an order, and the circle is told. -/
theorem ofTable_order_or_cycle_chainTable :
    (∃ p, ofTable (chainTable none) = .ok p ∧ p.order.Nodup ∧
      (∀ name, name ∈ p.order ↔ (chainTable none).TakesPart name) ∧
      Graph.Forward (chainTable none).Depends p.order) ∧
    ∃ cycle, ofTable (chainTable (some ⟨true, "total", none, []⟩)) =
        .error (.cyclicDependency "orders" cycle) ∧
      Graph.ClosedWalk (chainTable (some ⟨true, "total", none, []⟩)).Depends cycle := by
  constructor
  · have hchecks := exists_of_isOk (x := collect (chainTable none)) (by decide +kernel)
    refine (ofTable_order_or_cycle _ hchecks).1 fun name hcyclic => ?_
    obtain ⟨cycle, hcycle, -⟩ := (ofTable_order_or_cycle _ hchecks).2 ⟨name, hcyclic⟩
    have hok : (ofTable (chainTable none)).isOk = true := by decide +kernel
    rw [hcycle] at hok
    cases hok
  · let t := chainTable (some ⟨true, "total", none, []⟩)
    have hchecks := exists_of_isOk (x := collect t) (by decide +kernel)
    have hprice : t.Depends "total" "price" := .inl (by decide +kernel)
    have hnet : t.Depends "price" "net" := .inl (by decide +kernel)
    have htotal : t.Depends "net" "total" := .inl (by decide +kernel)
    exact (ofTable_order_or_cycle t hchecks).2
      ⟨"total", .head hprice (.head hnet (.single htotal))⟩

/-! ## Along the order -/

variable {t : Table} {p : Plan}

/-- A field has at most one calculation. -/
theorem Follows.unique_target (hp : Follows p t) {k c : Calculated} (hk : k ∈ t.calculations)
    (hc : c ∈ t.calculations) (h : k.target = c.target) : k = c := by
  have hget := (hp.calculation_iff c.target k).2 ⟨hk, h⟩
  rw [(hp.calculation_iff c.target c).2 ⟨hc, rfl⟩] at hget
  exact (Option.some.inj hget).symm

theorem Follows.ne_of_get?_none (hp : Follows p t) {field : String}
    (h : p.calculations.get? field = none) : ∀ k ∈ t.calculations, k.target ≠ field := by
  intro k hk hfield
  rw [(hp.calculation_iff field k).2 ⟨hk, hfield⟩] at h
  cases h

/-- Every calculated field stands in the order. -/
theorem Follows.target_mem (hp : Follows p t) {k : Calculated} (hk : k ∈ t.calculations) :
    k.target ∈ p.order :=
  (hp.mem_order k.target).2 (.inl ⟨k, hk, .inl rfl⟩)

theorem Follows.not_mem_done (hp : Follows p t) {done rest : List String} {field : String}
    (hsplit : p.order = done ++ field :: rest) : field ∉ done := by
  have hnd := hp.nodup
  rw [hsplit] at hnd
  intro h
  exact (List.nodup_append.1 hnd).2.2 field h field List.mem_cons_self rfl

/-- What a field depends on stands before it in the order. -/
theorem Follows.standsBefore (hp : Follows p t) {a b : String}
    (h : t.Depends a b) : Graph.StandsBefore p.order a b := by
  refine hp.forward.standsBefore ((hp.mem_order b).2 ?_) h
  rcases h with ⟨k, hk, -, rfl⟩ | ⟨s, hs, -, hcopy⟩
  · exact .inl ⟨k, hk, .inl rfl⟩
  · exact .inr ⟨s, hs, .inr hcopy⟩

end Plan

end RecordDesk
