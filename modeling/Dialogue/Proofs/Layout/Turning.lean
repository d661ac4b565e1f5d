import Dialogue.Proofs.Flow.Soundness
import Dialogue.Proofs.Layout.Descending
import Dialogue.Proofs.Layout.Placing

/-! The digraph of a flow has no cycle once the arcs that lead back into the open path of the walk are
turned around, and the walk leaves its nodes in an order in which every arc leads onward. -/

namespace Dialogue

def Flow.Connects (g : Flow) (a b : String) : Prop := g.Leads a b ∧ a ∈ g.ids ∧ b ∈ g.ids

namespace Layout

open Relation (ReflTransGen TransGen)

namespace Digraph

variable {g : Flow} {d t e : Digraph} {u v : String} {a : String × String}
  {back : List (String × String)} {order : List String}

def IsAcyclic (d : Digraph) : Prop := ∀ v, ¬ TransGen d.Arc v v

structure IsOrder (d : Digraph) (order : List String) : Prop where
  distinct : order.Nodup
  mem : ∀ v, v ∈ order ↔ v ∈ d.nodes
  forward : ∀ {u v}, d.Arc u v → [u, v].Sublist order

lemma IsOrder.isAcyclic (h : d.IsOrder order) : d.IsAcyclic := by
  have onward {u v : String} (way : TransGen d.Arc u v) : order.idxOf u < order.idxOf v := by
    induction way with
    | single arc => exact idxOf_lt_of_pair h.distinct (h.forward arc)
    | tail _ arc ih => exact ih.trans (idxOf_lt_of_pair h.distinct (h.forward arc))
  exact fun v way => Nat.lt_irrefl _ (onward way)

lemma mem_nodes_ofFlow : v ∈ (ofFlow g).nodes ↔ v ∈ g.ids := by
  have start : v ∈ g.start?.toList.map (·.id) → v ∈ g.ids := by
    rw [List.mem_map]
    rintro ⟨n, hn, rfl⟩
    exact List.mem_map_of_mem (List.mem_of_find?_eq_some (Option.mem_toList.mp hn))
  rw [ofFlow, List.mem_eraseDups, List.mem_append]
  exact ⟨fun h => h.elim start id, .inr⟩

lemma arc_ofFlow : (ofFlow g).Arc u v ↔ g.Connects u v ∧ u ≠ v := by
  have ends (v : String) : (ofFlow g).nodes.contains v = true ↔ v ∈ g.ids := by
    rw [List.contains_iff_mem, mem_nodes_ofFlow]
  have drawn : (u, v) ∈ g.edges.map (fun e => (e.source, e.target)) ↔ g.Leads u v := by
    simp [Flow.Leads]
  have arcs : (ofFlow g).arcs = ((g.edges.map fun e => (e.source, e.target)).filter fun a =>
      (ofFlow g).nodes.contains a.1 && (ofFlow g).nodes.contains a.2 && a.1 != a.2).eraseDups := rfl
  rw [Arc, arcs, List.mem_eraseDups, List.mem_filter, drawn, Flow.Connects]
  simp only [Bool.and_eq_true, bne_iff_ne, ends, and_assoc]

lemma simple_ofFlow (g : Flow) : (ofFlow g).Simple where
  nodes := nodup_eraseDups _
  arcs := nodup_eraseDups _
  source arc := mem_nodes_ofFlow.mpr (arc_ofFlow.mp arc).1.2.1
  target arc := mem_nodes_ofFlow.mpr (arc_ofFlow.mp arc).1.2.2
  apart arc := (arc_ofFlow.mp arc).2

/-! The walk, once it is done -/

lemma line_walk (simple : d.Simple) : d.walk.line = d.order := by
  simp [Walk.line, Walk.trail, walk_done simple, order]

lemma mem_order (simple : d.Simple) : v ∈ d.order ↔ v ∈ d.nodes := by
  have ordered := orderly_walk simple
  rw [← line_walk simple]
  refine ⟨ordered.nodes v, fun hv => (ordered.due v hv).resolve_left ?_⟩
  simp [walk_done simple]

lemma onward_or_back (simple : d.Simple) (arc : d.Arc u v) :
    (u, v) ∈ d.walk.back ∨ [u, v].Sublist d.order := by
  have ordered := orderly_walk simple
  have known : u ∈ d.walk.line := line_walk simple ▸ (mem_order simple).mpr (simple.source arc)
  have settled := ordered.settled u known v arc
  rw [line_walk simple] at settled
  refine settled.resolve_left ?_
  simp [walk_done simple]

lemma pair_of_back (simple : d.Simple) (h : (u, v) ∈ d.walk.back) : [v, u].Sublist d.order :=
  line_walk simple ▸ ((orderly_walk simple).back _ h).2.2

lemma distinct_order (simple : d.Simple) : d.order.Nodup :=
  line_walk simple ▸ (orderly_walk simple).distinct

lemma swap_notMem_back (simple : d.Simple) (h : (u, v) ∈ d.walk.back) : (v, u) ∉ d.walk.back := by
  intro opposite
  have first := idxOf_lt_of_pair (distinct_order simple) (pair_of_back simple h)
  have second := idxOf_lt_of_pair (distinct_order simple) (pair_of_back simple opposite)
  exact Nat.lt_asymm first second

/-! The digraph without cycles -/

lemma arc_turned : (d.turned back).Arc u v ↔
    d.Arc u v ∧ (u, v) ∉ back ∨ d.Arc v u ∧ (v, u) ∈ back := by
  simp only [Arc, turned, List.mem_eraseDups, List.mem_map]
  constructor
  · rintro ⟨⟨x, y⟩, arc, turned⟩
    split_ifs at turned with known
    · obtain ⟨rfl, rfl⟩ := Prod.mk.inj turned
      exact .inr ⟨arc, by simpa using known⟩
    · obtain ⟨rfl, rfl⟩ := Prod.mk.inj turned
      exact .inl ⟨arc, by simpa using known⟩
  · rintro (⟨arc, fresh⟩ | ⟨arc, known⟩)
    · exact ⟨(u, v), arc, by simp [fresh]⟩
    · exact ⟨(v, u), arc, by simp [known]⟩

lemma isOrder_order (simple : d.Simple) : d.acyclic.IsOrder d.order where
  distinct := distinct_order simple
  mem _ := mem_order simple
  forward arc := by
    rcases arc_turned.mp arc with ⟨arc, fresh⟩ | ⟨-, back⟩
    · exact (onward_or_back simple arc).resolve_left fresh
    · exact pair_of_back simple back

lemma arc_acyclic_or (arc : d.Arc u v) : d.acyclic.Arc u v ∨ d.acyclic.Arc v u := by
  by_cases back : (u, v) ∈ d.walk.back
  · exact .inr (arc_turned.mpr (.inr ⟨arc, back⟩))
  · exact .inl (arc_turned.mpr (.inl ⟨arc, back⟩))

lemma arc_acyclic_of_isAcyclic (simple : d.Simple) (h : d.IsAcyclic) (arc : d.Arc u v) :
    d.acyclic.Arc u v := by
  refine arc_turned.mpr (.inl ⟨arc, fun back => h u ?_⟩)
  have way : ReflTransGen d.Arc v u := ((orderly_walk simple).back _ back).2.1
  exact (TransGen.single arc).trans_left way

/-! Turning arcs one after another, and taking arcs out -/

def turn (d : Digraph) (a : String × String) : Digraph :=
  let rest := d.arcs.erase a
  { d with arcs := if rest.contains a.swap then rest else rest ++ [a.swap] }

inductive Turns : Digraph → List (String × String) → Digraph → Prop
  | nil {d : Digraph} : Turns d [] d
  | cons {d e : Digraph} {a : String × String} {back : List (String × String)} :
      a ∈ d.arcs → Turns (d.turn a) back e → Turns d (a :: back) e

/-- What is left once picked arcs have been taken out one after another as long as there is a
cycle. -/
inductive Opens (pick : Digraph → String × String) : Digraph → Digraph → Prop
  | done {d : Digraph} : d.IsAcyclic → Opens pick d d
  | cut {d e : Digraph} : ¬ d.IsAcyclic → Opens pick { d with arcs := d.arcs.erase (pick d) } e →
      Opens pick d e

lemma mem_arcs_turn (distinct : d.arcs.Nodup) {x : String × String} :
    x ∈ (d.turn a).arcs ↔ x ∈ d.arcs ∧ x ≠ a ∨ x = a.swap := by
  have rest : x ∈ d.arcs.erase a ↔ x ∈ d.arcs ∧ x ≠ a := by
    rw [distinct.mem_erase_iff, and_comm]
  rw [turn]
  dsimp only
  split_ifs with there
  · rw [rest, or_iff_left_of_imp]
    rintro rfl
    exact rest.mp (by simpa using there)
  · rw [List.mem_append, rest, List.mem_singleton]

lemma nodup_arcs_turn (distinct : d.arcs.Nodup) : (d.turn a).arcs.Nodup := by
  rw [turn]
  dsimp only
  split_ifs with there
  · exact distinct.erase a
  · exact List.nodup_append.mpr ⟨distinct.erase a, List.nodup_singleton _, by grind⟩

lemma exists_turns (distinct : d.arcs.Nodup) (once : back.Nodup) (known : ∀ a ∈ back, a ∈ d.arcs)
    (oneWay : ∀ a ∈ back, a.swap ∉ back) : ∃ t, Turns d back t ∧ t.nodes = d.nodes ∧
      t.arcs.Nodup ∧ ∀ x, x ∈ t.arcs ↔ x ∈ d.arcs ∧ x ∉ back ∨ x.swap ∈ back := by
  induction back generalizing d with
  | nil => exact ⟨d, .nil, rfl, distinct, by simp⟩
  | cons a back ih =>
    obtain ⟨new, once⟩ := List.nodup_cons.mp once
    have next : ∀ b ∈ back, b ∈ (d.turn a).arcs := fun b hb =>
      (mem_arcs_turn distinct).mpr (.inl ⟨known b (by simp [hb]), ne_of_mem_of_not_mem hb new⟩)
    obtain ⟨t, turns, nodes, arcs, mem⟩ := ih (nodup_arcs_turn distinct) once next
      fun b hb => mt (List.mem_cons_of_mem a) (oneWay b (by simp [hb]))
    refine ⟨t, .cons (known a (by simp)) turns, nodes, arcs, fun x => ?_⟩
    -- what one turn adds no later turn takes away
    have stays : a.swap ∉ back := mt (List.mem_cons_of_mem a) (oneWay a (by simp))
    have swaps : x.swap = a ↔ x = a.swap :=
      ⟨fun h => h ▸ x.swap_swap.symm, fun h => h ▸ a.swap_swap⟩
    rw [mem, mem_arcs_turn distinct, List.mem_cons, List.mem_cons, swaps]
    grind

lemma Turns.unique {t' : Digraph} (h : Turns d back t) (h' : Turns d back t') : t = t' := by
  induction h with
  | nil => cases h'; rfl
  | cons _ _ ih =>
    cases h' with
    | cons _ h' => exact ih h'

lemma exists_turns_acyclic (simple : d.Simple) : ∃ t, (∀ e, Turns d d.walk.back e ↔ e = t) ∧
    t.nodes = d.nodes ∧ t.arcs.Perm d.acyclic.arcs := by
  have known : ∀ a ∈ d.walk.back, a ∈ d.arcs := fun a ha => ((orderly_walk simple).back a ha).1
  obtain ⟨t, turns, nodes, arcs, mem⟩ := exists_turns simple.arcs (nodup_back simple) known
    fun a ha => swap_notMem_back simple ha
  refine ⟨t, fun e => ⟨fun h => h.unique turns, fun same => same ▸ turns⟩, nodes,
    (List.perm_ext_iff_of_nodup arcs (nodup_eraseDups _)).mpr fun x => ?_⟩
  have turned : x ∈ d.acyclic.arcs ↔
      x ∈ d.arcs ∧ x ∉ d.walk.back ∨ x.swap ∈ d.arcs ∧ x.swap ∈ d.walk.back := arc_turned
  rw [mem]
  refine Iff.trans (or_congr_right ?_) turned.symm
  exact ⟨fun back => ⟨known _ back, back⟩, And.right⟩

lemma isAcyclic_of_perm (same : t.arcs.Perm d.arcs) (h : d.IsAcyclic) : t.IsAcyclic := by
  have kept : t.Arc ≤ d.Arc := fun _ _ arc => same.mem_iff.mp arc
  exact fun v way => h v (TransGen.mono kept v v way)

lemma opens_iff {pick : Digraph → String × String} (h : d.IsAcyclic) :
    Opens pick d e ↔ e = d := by
  constructor
  · rintro (_ | ⟨cyclic, -⟩)
    · rfl
    · exact absurd h cyclic
  · rintro rfl
    exact .done h

end Digraph

end Layout

end Dialogue
