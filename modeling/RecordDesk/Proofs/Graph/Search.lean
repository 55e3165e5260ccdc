import Mathlib.Data.List.Perm.Subperm
import Mathlib.Logic.Relation
import RecordDesk.Graph

/-
  The depth-first search. A search that starts with nothing found comes to every node once, and
  when a node is finished each of its successors is finished before it or leads back to it
  (`search_sound`, `mem_finished_search`). The bound on the depth is never met: on the way from a
  node that is being visited to the next one the found nodes grow, and they are all nodes of the
  graph.
-/

namespace RecordDesk.Graph

open Relation

/-- Nodes are named once, and edges lead between nodes. -/
structure WellFormed (g : Graph) : Prop where
  nodup : g.nodes.Nodup
  source_mem : ∀ a b, g.Edge a b → a ∈ g.nodes
  target_mem : ∀ a b, g.Edge a b → b ∈ g.nodes

/-- A way leads from the one node to the other, possibly of no edge at all. -/
abbrev Reaches (g : Graph) (a b : String) : Prop := ReflTransGen g.Edge a b

/-- What holds of a search between two visits, where `pending` are the nodes whose visit is not
over: those are found and the others are finished, and a successor of a finished node was finished
before it (it stands further back) or leads back to it. -/
structure Search.Sound (g : Graph) (pending : List String) (s : Search) : Prop where
  mem_found : ∀ v, v ∈ s.found ↔ v ∈ s.finished ∨ v ∈ pending
  not_pending : ∀ v ∈ s.finished, v ∉ pending
  nodup_found : s.found.Nodup
  nodup_finished : s.finished.Nodup
  subset : s.found ⊆ g.nodes
  back : ∀ newer u older, s.finished = newer ++ u :: older →
    ∀ v, g.Edge u v → v ∈ older ∨ g.Reaches v u

/-- A visit keeps the search sound, loses nothing that was found, and finds its node. -/
structure Search.Visited (g : Graph) (pending : List String) (node : String) (s s' : Search) :
    Prop where
  sound : Search.Sound g pending s'
  grows : s.found ⊆ s'.found
  mem : node ∈ s'.found

theorem Search.Sound.length_le {g : Graph} {pending : List String} {s : Search}
    (h : Search.Sound g pending s) : s.found.length ≤ g.nodes.length :=
  (h.nodup_found.subperm h.subset).length_le

theorem Search.sound_start (g : Graph) : Search.Sound g [] ⟨[], []⟩ where
  mem_found := by simp
  not_pending := by simp
  nodup_found := .nil
  nodup_finished := .nil
  subset := by simp
  back := by simp

/-- A node that was not found is opened. -/
theorem Search.Sound.enter {g : Graph} {pending : List String} {s : Search} {node : String}
    (h : Search.Sound g pending s) (hn : node ∈ g.nodes) (hf : node ∉ s.found) :
    Search.Sound g (node :: pending) ⟨node :: s.found, s.finished⟩ where
  mem_found v := by
    have := h.mem_found v
    simp only [List.mem_cons]
    tauto
  not_pending v hv := by
    have hfound : v ∈ s.found := (h.mem_found v).2 (.inl hv)
    simp only [List.mem_cons, not_or]
    exact ⟨fun e => hf (e ▸ hfound), h.not_pending v hv⟩
  nodup_found := List.nodup_cons.2 ⟨hf, h.nodup_found⟩
  nodup_finished := h.nodup_finished
  subset := List.cons_subset.2 ⟨hn, h.subset⟩
  back := h.back

/-- An open node whose successors are all found is finished. Those that are not finished are open,
so they lead to it. -/
theorem Search.Sound.leave {g : Graph} {pending : List String} {s : Search} {node : String}
    (h : Search.Sound g (node :: pending) s) (hpend : node ∉ pending)
    (hreach : ∀ v ∈ pending, g.Reaches v node) (hsucc : ∀ v, g.Edge node v → v ∈ s.found) :
    Search.Sound g pending ⟨s.found, node :: s.finished⟩ where
  mem_found v := by
    have := h.mem_found v
    simp only [List.mem_cons] at this ⊢
    tauto
  not_pending v hv := by
    rcases List.mem_cons.1 hv with rfl | hv
    · exact hpend
    · exact fun ho => h.not_pending v hv (List.mem_cons_of_mem _ ho)
  nodup_found := h.nodup_found
  nodup_finished :=
    List.nodup_cons.2 ⟨fun hm => h.not_pending node hm List.mem_cons_self, h.nodup_finished⟩
  subset := h.subset
  back newer u older hsplit v hv := by
    cases newer with
    | nil =>
      obtain ⟨rfl, rfl⟩ := List.cons.inj hsplit
      rcases (h.mem_found v).1 (hsucc v hv) with hfin | hop
      · exact .inl hfin
      · rcases List.mem_cons.1 hop with rfl | hop
        · exact .inr .refl
        · exact .inr (hreach v hop)
    | cons w newer =>
      exact h.back newer u older (List.cons.inj hsplit).2 v hv

/-- Visiting nodes in turn, where a visit of each one alone does what it should. -/
theorem foldl_visit_sound {g : Graph} {pending : List String} {depth : Nat} (targets : List String)
    (hvisit : ∀ s, ∀ t ∈ targets, Search.Sound g pending s →
      g.nodes.length < depth + s.found.length →
      Search.Visited g pending t s (visit g depth s t)) :
    ∀ s, Search.Sound g pending s → g.nodes.length < depth + s.found.length →
      Search.Sound g pending (targets.foldl (visit g depth) s) ∧
      s.found ⊆ (targets.foldl (visit g depth) s).found ∧
      ∀ t ∈ targets, t ∈ (targets.foldl (visit g depth) s).found := by
  induction targets with
  | nil => exact fun s hs _ => ⟨hs, fun _ h => h, by simp⟩
  | cons t rest ih =>
    intro s hs hd
    have ht := hvisit s t List.mem_cons_self hs hd
    have hlen : s.found.length ≤ (visit g depth s t).found.length :=
      (hs.nodup_found.subperm ht.grows).length_le
    obtain ⟨hsound, hgrows, hall⟩ := ih (fun s v hv => hvisit s v (List.mem_cons_of_mem _ hv))
      (visit g depth s t) ht.sound (by omega)
    refine ⟨hsound, fun v hv => hgrows (ht.grows hv), fun v hv => ?_⟩
    rcases List.mem_cons.1 hv with rfl | hv
    · exact hgrows ht.mem
    · exact hall v hv

/-- A visit of a node that every open node leads to. The induction is on the depth that is left:
each node found makes up for one step of it. -/
theorem visit_sound {g : Graph} (hg : g.WellFormed) (depth : Nat) :
    ∀ (pending : List String) (s : Search) (node : String), Search.Sound g pending s →
      (∀ v ∈ pending, g.Reaches v node) → node ∈ g.nodes →
      g.nodes.length < depth + s.found.length →
      Search.Visited g pending node s (visit g depth s node) := by
  induction depth with
  | zero =>
    intro pending s node hs _ _ hd
    have := hs.length_le
    omega
  | succ depth ih =>
    intro pending s node hs hreach hn hd
    rw [visit]
    split
    · next hf => exact ⟨hs, fun _ h => h, hf⟩
    · next hf =>
      have hpend : node ∉ pending := fun ho => hf ((hs.mem_found node).2 (.inr ho))
      -- every open node leads to the successors, this one by an edge
      have hreach' : ∀ b, g.Edge node b → ∀ v ∈ node :: pending, g.Reaches v b := by
        intro b hb v hv
        rcases List.mem_cons.1 hv with rfl | hv
        · exact .single hb
        · exact (hreach v hv).tail hb
      obtain ⟨hsound, hgrows, hall⟩ := foldl_visit_sound (g.successors node).reverse
        (fun s' t ht hs' hd' => ih (node :: pending) s' t hs'
          (hreach' t (mem_successors.1 (List.mem_reverse.1 ht)))
          (hg.target_mem _ _ (mem_successors.1 (List.mem_reverse.1 ht))) hd')
        ⟨node :: s.found, s.finished⟩ (hs.enter hn hf) (by simp only [List.length_cons]; omega)
      have hsucc : ∀ v, g.Edge node v → v ∈ ((g.successors node).reverse.foldl (visit g depth)
          ⟨node :: s.found, s.finished⟩).found :=
        fun v hv => hall v (List.mem_reverse.2 (mem_successors.2 hv))
      exact ⟨hsound.leave hpend hreach hsucc, fun v hv => hgrows (List.mem_cons_of_mem _ hv),
        hgrows List.mem_cons_self⟩

/-- The search from every node in turn, with no node left open. -/
theorem search_sound {g : Graph} (hg : g.WellFormed) :
    Search.Sound g [] g.search ∧ ∀ v ∈ g.nodes, v ∈ g.search.found := by
  obtain ⟨hsound, _, hall⟩ := foldl_visit_sound g.nodes
    (fun s t ht hs hd => visit_sound hg (g.nodes.length + 1) [] s t hs (by simp) ht hd)
    ⟨[], []⟩ (Search.sound_start g) (by simp)
  exact ⟨hsound, hall⟩

/-- Every node is finished, and nothing else. -/
theorem mem_finished_search {g : Graph} (hg : g.WellFormed) (v : String) :
    v ∈ g.search.finished ↔ v ∈ g.nodes := by
  obtain ⟨hsound, hall⟩ := search_sound hg
  have hfound : v ∈ g.search.found ↔ v ∈ g.search.finished := by simp [hsound.mem_found v]
  rw [← hfound]
  exact ⟨fun h => hsound.subset h, hall v⟩

end RecordDesk.Graph
