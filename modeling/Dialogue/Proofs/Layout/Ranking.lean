import Dialogue.Flow.Template
import Dialogue.Layout.Ordering
import Dialogue.Proofs.Layout.Turning

/-! Ranks along an order of a digraph without cycles: a node stands above the highest of those that
lead to it, whatever the order. The connections of a flow hence join different ranks, and they lead
to higher ones where the flow itself has no cycle. -/

namespace Dialogue.Layout

open Relation (TransGen)

lemma foldl_max_le_iff {xs : List Nat} {low n : Nat} :
    xs.foldl max low ≤ n ↔ low ≤ n ∧ ∀ x ∈ xs, x ≤ n := by
  induction xs generalizing low with
  | nil => simp
  | cons x rest ih => simp only [List.foldl_cons, ih, Nat.max_le, List.forall_mem_cons, and_assoc]

variable {d : Digraph} {ranks : List (String × Nat)} {u v : String} {nodes order : List String}

lemma lt_rankAbove (ranks : List (String × Nat)) (hu : u ∈ nodes) :
    (ranks.lookup u).getD 0 < rankAbove ranks nodes :=
  (foldl_max_le_iff.mp (Nat.le_refl _)).2 _ (List.mem_map_of_mem hu)

lemma rankAbove_eq_zero_iff : rankAbove ranks nodes = 0 ↔ nodes = [] := by
  constructor
  · intro none
    refine List.eq_nil_iff_forall_not_mem.mpr fun u hu => ?_
    exact Nat.not_lt_zero _ (none ▸ lt_rankAbove ranks hu)
  · rintro rfl
    rfl

lemma rankAbove_congr {ranks' : List (String × Nat)}
    (same : ∀ u ∈ nodes, ranks.lookup u = ranks'.lookup u) :
    rankAbove ranks nodes = rankAbove ranks' nodes := by
  rw [rankAbove, rankAbove, List.map_congr_left fun u hu => by rw [same u hu]]

lemma ranksAlong_concat (d : Digraph) (order : List String) (v : String) :
    ranksAlong d (order ++ [v]) =
      (v, rankAbove (ranksAlong d order) (d.predecessors v)) :: ranksAlong d order :=
  List.foldl_concat ..

lemma lookup_ranksAlong_append {before after : List String} (later : v ∉ after) :
    (ranksAlong d (before ++ after)).lookup v = (ranksAlong d before).lookup v := by
  induction after using List.reverseRecOn with
  | nil => rw [List.append_nil]
  | append_singleton after x ih =>
    rw [List.mem_append, List.mem_singleton, not_or] at later
    have apart : (v == x) = false := by simpa using later.2
    rw [← List.append_assoc, ranksAlong_concat, List.lookup_cons, apart, ih later.1]

lemma mem_of_pair {before after : List String} (distinct : (before ++ v :: after).Nodup)
    (h : [u, v].Sublist (before ++ v :: after)) : u ∈ before := by
  have new : v ∉ before := fun old => (List.nodup_append.mp distinct).2.2 v old v (by simp) rfl
  have earlier := idxOf_lt_of_pair distinct h
  rw [List.idxOf_append_of_notMem new, List.idxOf_cons_self] at earlier
  by_contra absent
  rw [List.idxOf_append_of_notMem absent] at earlier
  omega

namespace Digraph.IsOrder

lemma lookup_eq (h : d.IsOrder order) (hv : v ∈ d.nodes) : (ranksAlong d order).lookup v =
    some (rankAbove (ranksAlong d order) (d.predecessors v)) := by
  obtain ⟨before, after, rfl⟩ := List.append_of_mem ((h.mem v).mpr hv)
  have last : v ∉ after := (List.nodup_cons.mp (List.nodup_append.mp h.distinct).2.1).1
  -- when a node gets its rank, those that lead to it have theirs for good
  have behind : ∀ u ∈ d.predecessors v, (ranksAlong d before).lookup u =
      (ranksAlong d (before ++ v :: after)).lookup u := by
    intro u hu
    have earlier : u ∈ before := mem_of_pair h.distinct (h.forward (mem_predecessors.mp hu))
    refine (lookup_ranksAlong_append fun later => ?_).symm
    exact (List.nodup_append.mp h.distinct).2.2 u earlier u later rfl
  calc (ranksAlong d (before ++ v :: after)).lookup v
      = (ranksAlong d (before ++ [v])).lookup v := by
        rw [List.append_cons, lookup_ranksAlong_append last]
    _ = some (rankAbove (ranksAlong d before) (d.predecessors v)) := by
        rw [ranksAlong_concat, List.lookup_cons_self]
    _ = _ := by rw [rankAbove_congr behind]

lemma exists_rank (h : d.IsOrder order) (hv : v ∈ d.nodes) :
    ∃ r, (ranksAlong d order).lookup v = some r := ⟨_, h.lookup_eq hv⟩

lemma rank_lt (h : d.IsOrder order) (arc : d.Arc u v) :
    ∃ r s, (ranksAlong d order).lookup u = some r ∧ (ranksAlong d order).lookup v = some s ∧
      r < s := by
  have known : ∀ x ∈ [u, v], x ∈ d.nodes := fun x hx => (h.mem x).mp ((h.forward arc).subset hx)
  obtain ⟨r, hr⟩ := h.exists_rank (known u (by simp))
  refine ⟨r, _, hr, h.lookup_eq (known v (by simp)), ?_⟩
  have above := lt_rankAbove (ranksAlong d order) (mem_predecessors.mpr arc)
  rwa [hr, Option.getD_some] at above

lemma rank_ne (h : d.IsOrder order) (joined : d.Arc u v ∨ d.Arc v u) :
    ∃ r s, (ranksAlong d order).lookup u = some r ∧ (ranksAlong d order).lookup v = some s ∧
      r ≠ s ∧ (d.Arc u v → r < s) := by
  by_cases onward : d.Arc u v
  · obtain ⟨r, s, hr, hs, lt⟩ := h.rank_lt onward
    exact ⟨r, s, hr, hs, Nat.ne_of_lt lt, fun _ => lt⟩
  · obtain ⟨s, r, hs, hr, gt⟩ := h.rank_lt (joined.resolve_left onward)
    exact ⟨r, s, hr, hs, Nat.ne_of_gt gt, fun arc => absurd arc onward⟩

lemma rank_eq_zero_iff (h : d.IsOrder order) (hv : v ∈ d.nodes) :
    (ranksAlong d order).lookup v = some 0 ↔ ∀ u, ¬ d.Arc u v := by
  rw [h.lookup_eq hv, Option.some_inj, rankAbove_eq_zero_iff, List.eq_nil_iff_forall_not_mem]
  exact forall_congr' fun u => not_congr mem_predecessors

end Digraph.IsOrder

/-- Once the arcs that lead back are turned, one after another, there is no cycle and so no arc to be
taken out. What the flow connects is joined by an arc one way or the other, and so differs in rank,
whatever the order of the nodes; where the flow has no cycle the rank grows along it. -/
theorem cycles_are_broken (g : Flow) :
    let d := Digraph.ofFlow g
    (∃ t, (∀ e, d.Turns d.walk.back e ↔ e = t) ∧ t.nodes = d.nodes ∧
      t.arcs.Perm d.acyclic.arcs ∧ t.IsAcyclic ∧ ∀ pick e, Digraph.Opens pick t e ↔ e = t) ∧
    d.acyclic.IsAcyclic ∧ d.acyclic.IsOrder d.order ∧
    ∀ u v, g.Connects u v → u ≠ v →
      (d.acyclic.Arc u v ∨ d.acyclic.Arc v u) ∧
      ∀ order, d.acyclic.IsOrder order →
        ∃ r s, (ranksAlong d.acyclic order).lookup u = some r ∧
          (ranksAlong d.acyclic order).lookup v = some s ∧ r ≠ s ∧
          ((∀ a, ¬ TransGen (fun a b => g.Connects a b ∧ a ≠ b) a a) → r < s) := by
  intro d
  have simple := Digraph.simple_ofFlow g
  have acyclic := (Digraph.isOrder_order simple).isAcyclic
  refine ⟨?_, acyclic, Digraph.isOrder_order simple, fun u v drawn apart => ?_⟩
  · obtain ⟨t, turns, nodes, same⟩ := Digraph.exists_turns_acyclic simple
    have opened := Digraph.isAcyclic_of_perm same acyclic
    exact ⟨t, turns, nodes, same, opened, fun _ _ => Digraph.opens_iff opened⟩
  · have arc : d.Arc u v := Digraph.arc_ofFlow.mpr ⟨drawn, apart⟩
    have joined := Digraph.arc_acyclic_or arc
    refine ⟨joined, fun order h => ?_⟩
    obtain ⟨r, s, hr, hs, ne, lt⟩ := h.rank_ne joined
    refine ⟨r, s, hr, hs, ne, fun free => lt ?_⟩
    refine Digraph.arc_acyclic_of_isAcyclic simple (fun a way => free a ?_) arc
    exact TransGen.mono (fun _ _ => Digraph.arc_ofFlow.mp) a a way

def recurring : Flow where
  nodes := [
    Flow.step "message-1" 0.0 100.0 "Greeting" (.message none),
    Flow.step "start-1" 0.0 0.0 "Call Starts" .start,
    Flow.step "end-1" 0.0 200.0 "End Call" (.ending none none)]
  edges := [
    Flow.arrow "e1" "start-1" "message-1" none,
    Flow.arrow "e2" "message-1" "start-1" none,
    Flow.arrow "e3" "message-1" "end-1" none,
    Flow.arrow "e4" "start-1" "end-1" none]

theorem cycles_are_broken_recurring :
    let d := Digraph.ofFlow recurring
    recurring.Connects "message-1" "start-1" ∧ recurring.Connects "start-1" "message-1" ∧
    ∃ r s, (ranksAlong d.acyclic d.order).lookup "message-1" = some r ∧
      (ranksAlong d.acyclic d.order).lookup "start-1" = some s ∧ r ≠ s := by
  intro d
  have back : recurring.Connects "message-1" "start-1" := by
    simp [Flow.Connects, Flow.Leads, Flow.ids, recurring, Flow.step, Flow.arrow]
  have on : recurring.Connects "start-1" "message-1" := by
    simp [Flow.Connects, Flow.Leads, Flow.ids, recurring, Flow.step, Flow.arrow]
  obtain ⟨-, -, order, ranked⟩ := cycles_are_broken recurring
  obtain ⟨r, s, hr, hs, apart, -⟩ := (ranked _ _ back (by decide)).2 _ order
  exact ⟨back, on, r, s, hr, hs, apart⟩

end Dialogue.Layout
