import Dialogue.Proofs.Layout.Heading
import Mathlib.Order.Bounds.Basic
import Mathlib.Order.Nat

/-! The rank of a node is the length of the longest path that ends in it. Every rank below one that
is in use is in use too, and so no layer is empty. -/

namespace Dialogue.Layout

variable {d : Digraph} {order path : List String} {ranks : List (String × Nat)}
  {nodes : List String} {v : String} {k r s : Nat}

lemma exists_of_rankAbove (h : rankAbove ranks nodes = k + 1) :
    ∃ u ∈ nodes, (ranks.lookup u).getD 0 = k := by
  by_contra! none
  have low : rankAbove ranks nodes ≤ k := by
    refine foldl_max_le_iff.mpr ⟨Nat.zero_le k, fun x hx => ?_⟩
    obtain ⟨u, hu, rfl⟩ := List.mem_map.mp hx
    have above := lt_rankAbove ranks hu
    have other := none u hu
    omega
  omega

lemma keys_ranksAlong (d : Digraph) (order : List String) :
    (ranksAlong d order).map Prod.fst = order.reverse := by
  induction order using List.reverseRecOn with
  | nil => rfl
  | append_singleton order v ih => rw [ranksAlong_concat, List.map_cons, ih, List.reverse_concat]

lemma length_layersOf (d : Digraph) (ranks : List (String × Nat)) :
    (layersOf d ranks).length = (ranks.map (·.2 + 1)).foldl max 0 := by
  simp [layersOf]

namespace Digraph

structure IsPath (d : Digraph) (path : List String) : Prop where
  distinct : path.Nodup
  joined : path.IsChain d.Arc

def IsHeight (d : Digraph) (v : String) (k : Nat) : Prop :=
  IsGreatest {k | ∃ path, d.IsPath (path ++ [v]) ∧ path.length = k} k

namespace IsOrder

lemma mem_of_lookup (h : d.IsOrder order) (hr : (ranksAlong d order).lookup v = some r) :
    v ∈ d.nodes :=
  (h.mem v).mp (mem_of_lookup_ranksAlong hr)

lemma lookup_of_notMem (h : d.IsOrder order) (absent : v ∉ d.nodes) :
    (ranksAlong d order).lookup v = none :=
  Option.eq_none_iff_forall_ne_some.mpr fun _ hr => absent (h.mem_of_lookup hr)

lemma lookup_of_mem (h : d.IsOrder order) (hv : (v, r) ∈ ranksAlong d order) :
    (ranksAlong d order).lookup v = some r := by
  refine Dialogue.lookup_of_mem ?_ hv
  rw [keys_ranksAlong]
  exact List.nodup_reverse.mpr h.distinct

lemma distinct_of_chain (h : d.IsOrder order) (chain : path.IsChain d.Arc) : path.Nodup := by
  have onward : path.IsChain fun u v => order.idxOf u < order.idxOf v :=
    chain.imp fun _ _ arc => idxOf_lt_of_pair h.distinct (h.forward arc)
  have : IsTrans String fun u v => order.idxOf u < order.idxOf v := ⟨fun _ _ _ => Nat.lt_trans⟩
  exact onward.pairwise.imp fun {u v} lt (same : u = v) => Nat.lt_irrefl _ (same ▸ lt)

lemma length_le_rank (h : d.IsOrder order) (hr : (ranksAlong d order).lookup v = some r)
    (chain : (path ++ [v]).IsChain d.Arc) : path.length ≤ r := by
  -- the rank grows along every arc of the path, by one at least
  induction path using List.reverseRecOn generalizing v r with
  | nil => exact Nat.zero_le r
  | append_singleton path u ih =>
    have arc : d.Arc u v := by
      rw [List.append_assoc] at chain
      exact List.isChain_pair.mp chain.right_of_append
    obtain ⟨s, r', hs, hr', lt⟩ := h.rank_lt arc
    obtain rfl := Option.some.inj (hr.symm.trans hr')
    rw [List.length_append]
    exact Nat.lt_of_le_of_lt (ih hs chain.left_of_append) lt

lemma exists_below (h : d.IsOrder order) (hr : (ranksAlong d order).lookup v = some (k + 1)) :
    ∃ u, d.Arc u v ∧ (ranksAlong d order).lookup u = some k := by
  rw [h.lookup_eq (h.mem_of_lookup hr)] at hr
  obtain ⟨u, hu, below⟩ := exists_of_rankAbove (Option.some.inj hr)
  have arc := mem_predecessors.mp hu
  obtain ⟨s, -, hs, -, -⟩ := h.rank_lt arc
  rw [hs, Option.getD_some] at below
  exact ⟨u, arc, below ▸ hs⟩

lemma exists_chain (h : d.IsOrder order) (hr : (ranksAlong d order).lookup v = some r) :
    ∃ path, (path ++ [v]).IsChain d.Arc ∧ path.length = r := by
  induction r generalizing v with
  | zero => exact ⟨[], List.isChain_singleton v, rfl⟩
  | succ k ih =>
    obtain ⟨u, arc, hu⟩ := h.exists_below hr
    obtain ⟨path, chain, rfl⟩ := ih hu
    refine ⟨path ++ [u], ?_, by simp⟩
    exact chain.append_overlap (List.isChain_pair.mpr arc) (List.cons_ne_nil u [])

lemma isHeight_rank (h : d.IsOrder order) (hr : (ranksAlong d order).lookup v = some r) :
    d.IsHeight v r := by
  refine ⟨?_, ?_⟩
  · obtain ⟨path, chain, length⟩ := h.exists_chain hr
    exact ⟨path, ⟨h.distinct_of_chain chain, chain⟩, length⟩
  · rintro _ ⟨path, path', rfl⟩
    exact h.length_le_rank hr path'.joined

lemma lookup_congr {order' : List String} (h : d.IsOrder order) (h' : d.IsOrder order')
    (v : String) : (ranksAlong d order).lookup v = (ranksAlong d order').lookup v := by
  by_cases hv : v ∈ d.nodes
  · obtain ⟨r, hr⟩ := h.exists_rank hv
    obtain ⟨s, hs⟩ := h'.exists_rank hv
    rw [hr, hs, (h.isHeight_rank hr).unique (h'.isHeight_rank hs)]
  · rw [h.lookup_of_notMem hv, h'.lookup_of_notMem hv]

lemma exists_rank_of_le (h : d.IsOrder order) (hr : (ranksAlong d order).lookup v = some r)
    (le : s ≤ r) : ∃ u, (ranksAlong d order).lookup u = some s := by
  induction r generalizing v with
  | zero => exact ⟨v, Nat.le_zero.mp le ▸ hr⟩
  | succ k ih =>
    rcases Nat.le_or_eq_of_le_succ le with lower | rfl
    · obtain ⟨u, -, hu⟩ := h.exists_below hr
      exact ih hu lower
    · exact ⟨v, hr⟩

lemma exists_rank_iff (h : d.IsOrder order) : (∃ v, (ranksAlong d order).lookup v = some r) ↔
    r < (layersOf d (ranksAlong d order)).length := by
  rw [length_layersOf]
  refine ⟨fun ⟨v, hr⟩ => lt_height hr, fun lt => ?_⟩
  by_contra none
  refine Nat.not_le_of_lt lt (foldl_max_le_iff.mpr ⟨Nat.zero_le r, fun x hx => ?_⟩)
  obtain ⟨⟨v, s⟩, hs, rfl⟩ := List.mem_map.mp hx
  by_contra high
  exact none (h.exists_rank_of_le (h.lookup_of_mem hs) (by omega))

lemma exists_rank_mem_iff (h : d.IsOrder order) :
    (∃ v ∈ d.nodes, (ranksAlong d order).lookup v = some r) ↔
      r < (layersOf d (ranksAlong d order)).length := by
  rw [← h.exists_rank_iff]
  exact ⟨fun ⟨v, _, hr⟩ => ⟨v, hr⟩, fun ⟨v, hr⟩ => ⟨v, h.mem_of_lookup hr, hr⟩⟩

lemma layer_ne_nil (h : d.IsOrder order) {row : List String}
    (hrow : row ∈ layersOf d (ranksAlong d order)) : row ≠ [] := by
  obtain ⟨r, hr⟩ := List.mem_iff_getElem?.mp hrow
  obtain ⟨v, hv, rank⟩ := h.exists_rank_mem_iff.mpr (List.getElem?_eq_some_iff.mp hr).1
  rw [getElem?_layersOf hr]
  exact List.ne_nil_of_mem (List.mem_filter.mpr ⟨hv, decide_eq_true rank⟩)

lemma layersOf_congr {order' : List String} (h : d.IsOrder order) (h' : d.IsOrder order') :
    layersOf d (ranksAlong d order) = layersOf d (ranksAlong d order') := by
  have height : (layersOf d (ranksAlong d order)).length =
      (layersOf d (ranksAlong d order')).length := by
    refine eq_of_forall_lt_iff fun r => ?_
    rw [← h.exists_rank_iff, ← h'.exists_rank_iff]
    simp only [h.lookup_congr h']
  rw [length_layersOf, length_layersOf] at height
  simp only [layersOf, height, h.lookup_congr h']

end IsOrder

end Digraph

/-- The rank of a step in the digraph without cycles is the length of the longest path that ends in
it, whatever the order in which the ranks are given. The ranks in use have no gap, no layer is empty,
and these are the layers that are put in order. -/
theorem ranks_are_longest_paths (g : Flow) :
    let d := (Digraph.ofFlow g).acyclic
    d.IsOrder (Digraph.ofFlow g).order ∧
    ∀ order, d.IsOrder order →
      (∀ v ∈ d.nodes, ∃ r, (ranksAlong d order).lookup v = some r ∧ d.IsHeight v r) ∧
      (∀ v ∉ d.nodes, (ranksAlong d order).lookup v = none) ∧
      (∀ r, (∃ v ∈ d.nodes, (ranksAlong d order).lookup v = some r) ↔
        r < (layersOf d (ranksAlong d order)).length) ∧
      (∀ row ∈ layersOf d (ranksAlong d order), row ≠ []) ∧
      layers (Digraph.ofFlow g) = layersOf d (ranksAlong d order) := by
  intro d
  have usual := Digraph.isOrder_order (Digraph.simple_ofFlow g)
  refine ⟨usual, fun order h => ⟨fun v hv => ?_, fun v absent => h.lookup_of_notMem absent,
    fun r => h.exists_rank_mem_iff, fun row hrow => h.layer_ne_nil hrow, usual.layersOf_congr h⟩⟩
  obtain ⟨r, hr⟩ := h.exists_rank hv
  exact ⟨r, hr, h.isHeight_rank hr⟩

def forked : Flow where
  nodes := [
    Flow.step "start-1" 0.0 0.0 "Call Starts" .start,
    Flow.step "message-1" 0.0 100.0 "Greeting" (.message none),
    Flow.step "message-2" 200.0 100.0 "Notice" (.message none),
    Flow.step "end-1" 0.0 200.0 "End Call" (.ending none none)]
  edges := [
    Flow.arrow "e1" "start-1" "message-1" none,
    Flow.arrow "e2" "start-1" "message-2" none,
    Flow.arrow "e3" "message-1" "end-1" none,
    Flow.arrow "e4" "message-2" "end-1" none,
    Flow.arrow "e5" "end-1" "start-1" none]

theorem ranks_are_longest_paths_forked :
    let d := (Digraph.ofFlow forked).acyclic
    let other := ["start-1", "message-1", "message-2", "end-1"]
    (Digraph.ofFlow forked).order ≠ other ∧ d.IsOrder other ∧ d.Arc "start-1" "end-1" ∧
    (ranksAlong d other).lookup "end-1" = some 2 ∧ d.IsHeight "end-1" 2 := by
  intro d other
  have nodes : d.nodes = other := by decide +kernel
  have arcs : d.arcs = [("start-1", "message-1"), ("start-1", "message-2"),
      ("message-1", "end-1"), ("message-2", "end-1"), ("start-1", "end-1")] := by decide +kernel
  have order : d.IsOrder other := by
    refine ⟨by decide, fun v => by rw [nodes], fun {u v} arc => ?_⟩
    rw [Digraph.Arc, arcs] at arc
    simp only [List.mem_cons, Prod.mk.injEq, List.not_mem_nil, or_false] at arc
    rcases arc with ⟨rfl, rfl⟩ | ⟨rfl, rfl⟩ | ⟨rfl, rfl⟩ | ⟨rfl, rfl⟩ | ⟨rfl, rfl⟩ <;> decide
  obtain ⟨-, ranked⟩ := ranks_are_longest_paths forked
  obtain ⟨heights, -⟩ := ranked other order
  obtain ⟨r, hr, height⟩ := heights "end-1" (by rw [nodes]; decide)
  have two : (ranksAlong d other).lookup "end-1" = some 2 := by decide +kernel
  obtain rfl := Option.some.inj (hr.symm.trans two)
  exact ⟨by decide +kernel, order, by simp [Digraph.Arc, arcs], two, height⟩

end Dialogue.Layout
