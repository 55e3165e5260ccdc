import RecordDesk.Proofs.Graph.Search

/-
  The search for a way back to a node. It never enters a node twice, so what it finds has no
  repetition (`wayBack_sound`); and where it gives up, the nodes that it saw are closed under the
  edges and have no edge to the goal. So a node on a cycle is always named with a cycle through it
  (`closedWalk_cycleThrough`).
-/

namespace RecordDesk.Graph

open Relation

/-- A walk that ends where it began and repeats no other node: `f₀, …, fₙ` with `n ≥ 1`, `f₀ = fₙ`,
`f₀, …, fₙ₋₁` pairwise distinct, and a step of the relation from each to the next. -/
structure ClosedWalk (step : String → String → Prop) (walk : List String) : Prop where
  two_le : 2 ≤ walk.length
  closes : walk.head? = walk.getLast?
  distinct : walk.dropLast.Nodup
  steps : walk.IsChain step

/-- What the search for a way to `goal` knows at `node`, with the targets in `done` behind it: a
way through nodes that were not seen before; or else that none of these targets is the goal, and
that the nodes seen since lead to seen nodes only, and not to the goal. -/
structure Way.Sound (g : Graph) (goal node : String) (seen done : List String) (way : Way) :
    Prop where
  grows : seen ⊆ way.2
  nodup : way.2.Nodup
  subset : way.2 ⊆ g.nodes
  found : ∀ between, way.1 = some between →
    between.Nodup ∧ (∀ v ∈ between, v ∉ seen) ∧ (node :: (between ++ [goal])).IsChain g.Edge
  targets : way.1 = none → ∀ v ∈ done, v ≠ goal ∧ v ∈ way.2
  missed : way.1 = none → ∀ u ∈ way.2, u ∉ seen → ∀ v, g.Edge u v → v ≠ goal ∧ v ∈ way.2

/-- The turn of one target in the search for a way back. -/
def wayOver (g : Graph) (goal : String) (depth : Nat) (way : Way) (next : String) : Way :=
  match way with
  | (some found, seen) => (some found, seen)
  | (none, seen) =>
    if next = goal then (some [], seen)
    else if next ∈ seen then (none, seen)
    else
      let (inner, seen) := wayBack g goal depth next (next :: seen)
      (inner.map (next :: ·), seen)

theorem wayBack_succ (g : Graph) (goal : String) (depth : Nat) (node : String)
    (seen : List String) :
    wayBack g goal (depth + 1) node seen =
      (g.successors node).foldl (wayOver g goal depth) (none, seen) := rfl

/-- A target that was not seen is searched from, and what that search knows is taken over. -/
theorem Way.Sound.enter {g : Graph} {goal node next : String} {seen done now : List String}
    {inner : Way} (h : Way.Sound g goal node seen done (none, now)) (he : g.Edge node next)
    (hgoal : next ≠ goal) (hnew : next ∉ now)
    (hi : Way.Sound g goal next (next :: now) (g.successors next) inner) :
    Way.Sound g goal node seen (next :: done) (inner.1.map (next :: ·), inner.2) where
  grows v hv := hi.grows (List.mem_cons_of_mem _ (h.grows hv))
  nodup := hi.nodup
  subset := hi.subset
  found between hb := by
    obtain ⟨rest, hrest, rfl⟩ := Option.map_eq_some_iff.1 hb
    obtain ⟨hnd, hfresh, hchain⟩ := hi.found rest hrest
    refine ⟨List.nodup_cons.2 ⟨fun hm => hfresh next hm List.mem_cons_self, hnd⟩, ?_,
      List.isChain_cons_cons.2 ⟨he, hchain⟩⟩
    intro v hv hseen
    rcases List.mem_cons.1 hv with rfl | hv
    · exact hnew (h.grows hseen)
    · exact hfresh v hv (List.mem_cons_of_mem _ (h.grows hseen))
  targets hnone v hv := by
    rcases List.mem_cons.1 hv with rfl | hv
    · exact ⟨hgoal, hi.grows List.mem_cons_self⟩
    · obtain ⟨hne, hmem⟩ := h.targets rfl v hv
      exact ⟨hne, hi.grows (List.mem_cons_of_mem _ hmem)⟩
  missed hnone u hu hseen v hv := by
    have hnone' : inner.1 = none := Option.map_eq_none_iff.1 hnone
    by_cases hnow : u ∈ now
    · obtain ⟨hne, hmem⟩ := h.missed rfl u hnow hseen v hv
      exact ⟨hne, hi.grows (List.mem_cons_of_mem _ hmem)⟩
    · by_cases hnext : u = next
      · exact hi.targets hnone' v (mem_successors.2 (hnext ▸ hv))
      · exact hi.missed hnone' u hu (by simp [hnext, hnow]) v hv

/-- The turn of one target adds it to those that are done with. -/
theorem wayOver_sound {g : Graph} (hg : g.WellFormed) {goal node next : String} {depth : Nat}
    {seen done : List String} {way : Way} (h : Way.Sound g goal node seen done way)
    (he : g.Edge node next)
    (hinner : ∀ now, seen ⊆ now → next ∉ now → (next :: now).Nodup → (next :: now) ⊆ g.nodes →
      Way.Sound g goal next (next :: now) (g.successors next)
        (wayBack g goal depth next (next :: now))) :
    Way.Sound g goal node seen (next :: done) (wayOver g goal depth way next) := by
  obtain ⟨found, now⟩ := way
  cases found with
  | some between =>
    exact ⟨h.grows, h.nodup, h.subset, h.found, nofun, nofun⟩
  | none =>
    simp only [wayOver]
    split
    · next hgoal =>
      refine ⟨h.grows, h.nodup, h.subset, ?_, nofun, nofun⟩
      intro between hb
      obtain rfl : [] = between := Option.some.inj hb
      exact ⟨.nil, by simp, by simpa using hgoal ▸ he⟩
    · next hgoal =>
      split
      · next hseen =>
        refine ⟨h.grows, h.nodup, h.subset, h.found, ?_, h.missed⟩
        intro _ v hv
        rcases List.mem_cons.1 hv with rfl | hv
        · exact ⟨hgoal, hseen⟩
        · exact h.targets rfl v hv
      · next hnew =>
        exact h.enter he hgoal hnew (hinner now h.grows hnew
          (List.nodup_cons.2 ⟨hnew, h.nodup⟩)
          (List.cons_subset.2 ⟨hg.target_mem _ _ he, h.subset⟩))

/-- The turns of targets one after another. -/
theorem foldl_wayOver_sound {g : Graph} (hg : g.WellFormed) {goal node : String} {depth : Nat}
    {seen : List String}
    (hinner : ∀ next now, seen ⊆ now → next ∉ now → (next :: now).Nodup →
      (next :: now) ⊆ g.nodes → Way.Sound g goal next (next :: now) (g.successors next)
        (wayBack g goal depth next (next :: now)))
    (targets : List String) :
    ∀ (done : List String) (way : Way), (∀ t ∈ targets, g.Edge node t) →
      Way.Sound g goal node seen done way →
      Way.Sound g goal node seen (targets.reverse ++ done)
        (targets.foldl (wayOver g goal depth) way) := by
  induction targets with
  | nil => exact fun _ _ _ h => h
  | cons t rest ih =>
    intro done way hedges h
    have hstep := wayOver_sound hg h (hedges t List.mem_cons_self) (hinner t)
    have := ih (t :: done) _ (fun v hv => hedges v (List.mem_cons_of_mem _ hv)) hstep
    simpa using this

/-- The search from a node. The induction is on the depth that is left: each node seen makes up
for one step of it. -/
theorem wayBack_sound {g : Graph} (hg : g.WellFormed) (goal : String) (depth : Nat) :
    ∀ (node : String) (seen : List String), seen.Nodup → seen ⊆ g.nodes →
      g.nodes.length < depth + seen.length →
      Way.Sound g goal node seen (g.successors node) (wayBack g goal depth node seen) := by
  induction depth with
  | zero =>
    intro node seen hnd hsub hd
    have := (hnd.subperm hsub).length_le
    omega
  | succ depth ih =>
    intro node seen hnd hsub hd
    have hstart : Way.Sound g goal node seen [] (none, seen) :=
      ⟨fun _ h => h, hnd, hsub, nofun, by simp, fun _ u hu hn => absurd hu hn⟩
    have hinner : ∀ next now, seen ⊆ now → next ∉ now → (next :: now).Nodup →
        (next :: now) ⊆ g.nodes → Way.Sound g goal next (next :: now) (g.successors next)
          (wayBack g goal depth next (next :: now)) := by
      intro next now hgrows _ hnd' hsub'
      have hlen : seen.length ≤ now.length := (hnd.subperm hgrows).length_le
      exact ih next (next :: now) hnd' hsub' (by simp only [List.length_cons]; omega)
    have hall := foldl_wayOver_sound hg hinner (g.successors node) [] (none, seen)
      (fun t ht => mem_successors.1 ht) hstart
    rw [wayBack_succ]
    exact ⟨hall.grows, hall.nodup, hall.subset, hall.found,
      fun hn v hv => hall.targets hn v (by simpa using hv), hall.missed⟩

/-- From a node on a cycle the search finds a way back. -/
theorem exists_wayBack {g : Graph} (hg : g.WellFormed) {node : String} (hn : node ∈ g.nodes)
    (hc : TransGen g.Edge node node) :
    ∃ between, (wayBack g node (g.nodes.length + 1) node [node]).1 = some between := by
  have h := wayBack_sound hg node (g.nodes.length + 1) node [node] (by simp) (by simpa using hn)
    (by simp only [List.length_singleton]; omega)
  cases hway : (wayBack g node (g.nodes.length + 1) node [node]).1 with
  | some between => exact ⟨between, rfl⟩
  | none =>
    -- all that is reached from the node was seen and is not the node, although the node is reached
    have hclosed : ∀ v, TransGen g.Edge node v →
        v ≠ node ∧ v ∈ (wayBack g node (g.nodes.length + 1) node [node]).2 := by
      intro v hv
      induction hv with
      | single he => exact h.targets hway _ (mem_successors.2 he)
      | tail _ he ih => exact h.missed hway _ ih.2 (by simpa using ih.1) _ he
    exact absurd rfl (hclosed node hc).1

/-- The cycle named for a node on a cycle is one. -/
theorem closedWalk_cycleThrough {g : Graph} (hg : g.WellFormed) {node : String}
    (hn : node ∈ g.nodes) (hc : TransGen g.Edge node node) :
    ClosedWalk g.Edge (g.cycleThrough node) := by
  obtain ⟨between, hway⟩ := exists_wayBack hg hn hc
  obtain ⟨hnd, hfresh, hchain⟩ := (wayBack_sound hg node (g.nodes.length + 1) node [node] (by simp)
    (by simpa using hn) (by simp only [List.length_singleton]; omega)).found between hway
  have heq : g.cycleThrough node = (node :: between) ++ [node] := by
    simp [cycleThrough, hway]
  rw [heq]
  refine ⟨by simp, by rw [List.getLast?_concat]; rfl, ?_, hchain⟩
  rw [List.dropLast_concat]
  exact List.nodup_cons.2 ⟨fun hm => hfresh node hm (by simp), hnd⟩

end RecordDesk.Graph
