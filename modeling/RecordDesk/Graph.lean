/-
  Dependency graphs: named nodes in the order of their first mention, and edges between them,
  newest first. An order of the nodes is found depth first; it is an order of dependencies exactly
  if no edge leads back in it, and otherwise some node on a cycle is named.
-/

namespace RecordDesk

/-- Nodes in the order of first mention, and edges from source to target, newest first. -/
structure Graph where
  nodes : List String
  edges : List (String × String)
deriving DecidableEq, Repr

namespace Graph

/-- No nodes. -/
def empty : Graph := ⟨[], []⟩

/-- Mentions a node. -/
def addNode (g : Graph) (node : String) : Graph :=
  if node ∈ g.nodes then g else { g with nodes := g.nodes ++ [node] }

/-- Adds an edge between mentioned nodes, once. -/
def addEdge (g : Graph) (source target : String) : Graph :=
  if (source, target) ∈ g.edges then g else { g with edges := (source, target) :: g.edges }

/-- The targets of edges from a node, newest edge first. -/
def successors (g : Graph) (node : String) : List String :=
  g.edges.filterMap fun (source, target) => if source = node then some target else none

/-- The sources of edges to a node, newest edge first. -/
def predecessors (g : Graph) (node : String) : List String :=
  g.edges.filterMap fun (source, target) => if target = node then some source else none

/-- An edge leads from the node to itself. -/
def hasLoop (g : Graph) (node : String) : Bool := (node, node) ∈ g.edges

/-- An edge leads from the one node to the other. -/
def Edge (g : Graph) (source target : String) : Prop := (source, target) ∈ g.edges

theorem mem_addNode {g : Graph} {node v : String} :
    v ∈ (g.addNode node).nodes ↔ v ∈ g.nodes ∨ v = node := by
  unfold addNode
  split
  · next h => exact ⟨.inl, fun hv => hv.elim id (fun e => e ▸ h)⟩
  · simp

theorem mem_addEdge {g : Graph} {source target : String} {e : String × String} :
    e ∈ (g.addEdge source target).edges ↔ e ∈ g.edges ∨ e = (source, target) := by
  unfold addEdge
  split
  · next h => exact ⟨.inl, fun he => he.elim id (fun e' => e' ▸ h)⟩
  · simp [or_comm]

@[simp] theorem addNode_edges (g : Graph) (node : String) : (g.addNode node).edges = g.edges := by
  unfold addNode; split <;> rfl

@[simp] theorem addEdge_nodes (g : Graph) (source target : String) :
    (g.addEdge source target).nodes = g.nodes := by
  unfold addEdge; split <;> rfl

theorem nodup_addNode {g : Graph} (node : String) (h : g.nodes.Nodup) :
    (g.addNode node).nodes.Nodup := by
  unfold addNode
  split
  · exact h
  · next hn => exact List.nodup_append.2 ⟨h, by simp, fun a ha b hb e =>
      hn (by simp at hb; exact hb ▸ e ▸ ha)⟩

theorem mem_successors {g : Graph} {a b : String} : b ∈ g.successors a ↔ g.Edge a b := by
  simp [successors, Edge]

theorem mem_predecessors {g : Graph} {a b : String} : a ∈ g.predecessors b ↔ g.Edge a b := by
  simp only [predecessors, Edge, List.mem_filterMap, Prod.exists, Option.ite_none_right_eq_some,
    Option.some.injEq]
  constructor
  · rintro ⟨_, _, h, rfl, rfl⟩; exact h
  · intro h; exact ⟨a, b, h, rfl, rfl⟩

theorem hasLoop_iff {g : Graph} {node : String} : g.hasLoop node = true ↔ g.Edge node node := by
  simp [hasLoop, Edge]

/-! ## Depth-first order -/

/-- A depth-first search: the nodes found so far, newest first, and those whose successors are all
done, newest first. -/
structure Search where
  found : List String
  finished : List String

/-- Visits a node and whatever can be reached from it, along the oldest edge first. `depth` bounds
the length of a path. -/
def visit (g : Graph) : (depth : Nat) → Search → String → Search
  | 0, s, _ => s
  | depth + 1, s, node =>
    if node ∈ s.found then s
    else
      let inner := (g.successors node).reverse.foldl (visit g depth)
        ⟨node :: s.found, s.finished⟩
      ⟨inner.found, node :: inner.finished⟩

/-- The search from every node in turn. -/
def search (g : Graph) : Search := g.nodes.foldl (visit g (g.nodes.length + 1)) ⟨[], []⟩

/-- The source of the oldest edge that leads back to the first node which has one: `before` holds
the nodes up to that point. -/
def backSource? (g : Graph) (before : List String) : List String → Option String
  | [] => none
  | node :: rest =>
    let seen := node :: before
    match (g.predecessors node).reverse.find? (· ∉ seen) with
    | some source => some source
    | none => backSource? g seen rest

/-! ## Cycles -/

/-- A search for a way back: the way if it is found, and the nodes that were seen. -/
abbrev Way := Option (List String) × List String

/-- The nodes between `node` and a way back to `goal`, along the newest edge first. -/
def wayBack (g : Graph) (goal : String) : (depth : Nat) → String → List String → Way
  | 0, _, seen => (none, seen)
  | depth + 1, node, seen =>
    (g.successors node).foldl (fun way next =>
      match way with
      | (some found, seen) => (some found, seen)
      | (none, seen) =>
        if next = goal then (some [], seen)
        else if next ∈ seen then (none, seen)
        else
          let (inner, seen) := wayBack g goal depth next (next :: seen)
          (inner.map (next :: ·), seen)) (none, seen)

/-- A cycle through a node, which stands at either end. -/
def cycleThrough (g : Graph) (node : String) : List String :=
  let way := (wayBack g node (g.nodes.length + 1) node [node]).1.getD []
  node :: (way ++ [node])

/-- The nodes ordered so that every edge leads forward, or a cycle. -/
def order (g : Graph) : Except (List String) (List String) :=
  let s := g.search
  match s.found.reverse.find? g.hasLoop with
  | some node => .error (g.cycleThrough node)
  | none =>
    match g.backSource? [] s.finished with
    | some node => .error (g.cycleThrough node)
    | none => .ok s.finished

end Graph

end RecordDesk
