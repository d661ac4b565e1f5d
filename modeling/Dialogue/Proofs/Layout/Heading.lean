import Dialogue.Proofs.Layout.Layering

/-! Where the start leads to every step, it stands alone in the first layer: the walk meets all other
steps before it is done with the start, so that each has an arc that leads to it, and every arc to the
start leads back. -/

namespace Dialogue.Layout

open Relation (ReflTransGen)

namespace Walk

variable {d : Digraph} {w w' : Walk} {s u v : String}

structure Headed (d : Digraph) (s : String) (w : Walk) : Prop where
  first : w.line.head? = some s ∨ w.line = [] ∧ w.roots.head? = some s
  onward : ∀ v ∈ w.line, v ≠ s → ∃ u, d.Arc u v ∧ [u, v].Sublist w.line

namespace Headed

lemma of_line (h : Headed d s w) (roots : w'.roots = w.roots) (line : w'.line = w.line) :
    Headed d s w' :=
  ⟨roots ▸ line ▸ h.first, line ▸ h.onward⟩

lemma closed (ordered : Orderly d w) (path : w.path = []) (hu : u ∈ w.line)
    (way : ReflTransGen d.Arc u v) : v ∈ w.line := by
  induction way with
  | refl => exact hu
  | @tail x y _ arc ih =>
    rcases ordered.settled x ih y arc with ⟨f, hf, -⟩ | back | onward
    · simp [path] at hf
    · exact (ordered.back _ back).2.2.subset (by simp)
    · exact onward.subset (by simp)

lemma extend (h : Headed d s w) {front back : List String} (line : w.line = front ++ back)
    (longer : w'.line = front ++ v :: back) (hu : u ∈ front) (arc : d.Arc u v) :
    Headed d s w' := by
  have begun : front ≠ [] := List.ne_nil_of_mem hu
  refine ⟨.inl ?_, fun x hx other => ?_⟩
  · have first : w.line.head? = some s := h.first.resolve_right (by simp [line, begun])
    rw [line, List.head?_append_of_ne_nil _ begun] at first
    rw [longer, List.head?_append_of_ne_nil _ begun, first]
  · rw [longer] at hx ⊢
    by_cases new : x = v
    · subst new
      exact ⟨u, arc, pair_append hu (by simp)⟩
    · have old : x ∈ w.line := by
        rw [line]
        simpa [new] using hx
      obtain ⟨y, arc, pair⟩ := h.onward x old other
      exact ⟨y, arc, pair_middle (line ▸ pair)⟩

lemma advance (connected : ∀ v ∈ d.nodes, ReflTransGen d.Arc s v) (ordered : Orderly d w)
    (h : Headed d s w) (step : Advance d w w') : Headed d s w' := by
  cases step with
  | @deeper u v rest below path new =>
    have line : w.line = ((below.map (·.node)).reverse ++ [u]) ++ w.finished := by
      simp [Walk.line, trail, path]
    refine h.extend line ?_ (by simp) (ordered.arc path)
    simp [enter, Walk.line, trail]
  | back path | aside path | finish path => exact h.of_line rfl (by simp [line, trail, path])
  | @root r roots path left new =>
    -- from the head every root would have been met, so that this one is the head
    have empty : w.line = [] ∧ w.roots.head? = some s := by
      refine h.first.resolve_left fun begun => new ((ordered.seen r).mpr ?_)
      have known := ordered.roots r (by simp [left])
      exact closed ordered path (List.mem_of_mem_head? begun) (connected r known)
    have same : r = s := by simpa [left] using empty.2
    have line : (enter d r { w with roots := roots }).line = [s] := by
      have finished : w.finished = [] := (List.append_eq_nil_iff.mp empty.1).2
      simp [enter, Walk.line, trail, path, finished, same]
    refine ⟨.inl (by simp [line]), fun x hx other => absurd ?_ other⟩
    simpa [line] using hx
  | @skip r roots path left known =>
    have begun : w.line.head? = some s := by
      refine h.first.resolve_right fun empty => ?_
      simpa [empty.1] using (ordered.seen r).mp known
    exact ⟨.inl begun, h.onward⟩
  | done => exact h

lemma run (simple : d.Simple) (connected : ∀ v ∈ d.nodes, ReflTransGen d.Arc s v)
    (ordered : Orderly d w) (h : Headed d s w) (count : Nat) : Headed d s (Walk.run d count w) := by
  induction count generalizing w with
  | zero => exact h
  | succ count ih =>
    have step := advance_step d w
    exact ih (ordered.advance simple step) (h.advance connected ordered step)

end Headed

end Walk

namespace Digraph

variable {d : Digraph} {s u v : String}

lemma headed_walk (simple : d.Simple) (first : d.nodes.head? = some s)
    (connected : ∀ v ∈ d.nodes, ReflTransGen d.Arc s v) : Walk.Headed d s d.walk :=
  Walk.Headed.run simple connected (.start d) ⟨.inr ⟨rfl, first⟩, by simp [Walk.line, Walk.trail]⟩ _

lemma head?_order (simple : d.Simple) (first : d.nodes.head? = some s)
    (connected : ∀ v ∈ d.nodes, ReflTransGen d.Arc s v) : d.order.head? = some s := by
  rw [← line_walk simple]
  refine (headed_walk simple first connected).first.resolve_right fun empty => ?_
  simp [walk_done simple] at empty

lemma arc_acyclic_iff (simple : d.Simple) (first : d.nodes.head? = some s)
    (connected : ∀ v ∈ d.nodes, ReflTransGen d.Arc s v) (hv : v ∈ d.nodes) :
    (∀ u, ¬ d.acyclic.Arc u v) ↔ v = s := by
  have distinct := distinct_order simple
  constructor
  · contrapose!
    intro other
    obtain ⟨u, arc, pair⟩ := (headed_walk simple first connected).onward v
      (line_walk simple ▸ (mem_order simple).mpr hv) other
    rw [line_walk simple] at pair
    refine ⟨u, arc_turned.mpr (.inl ⟨arc, fun back => ?_⟩)⟩
    exact Nat.lt_asymm (idxOf_lt_of_pair distinct pair)
      (idxOf_lt_of_pair distinct (pair_of_back simple back))
  · rintro rfl u arc
    obtain ⟨rest, line⟩ := List.head?_eq_some_iff.mp (head?_order simple first connected)
    have before := idxOf_lt_of_pair distinct ((isOrder_order simple).forward arc)
    rw [line, List.idxOf_cons_self] at before
    exact Nat.not_lt_zero _ before

end Digraph

lemma mem_of_lookup_ranksAlong {d : Digraph} {order : List String} {v : String} {r : Nat}
    (h : (ranksAlong d order).lookup v = some r) : v ∈ order := by
  by_contra absent
  have none : (ranksAlong d ([] ++ order)).lookup v = none := lookup_ranksAlong_append absent
  rw [List.nil_append, h] at none
  cases none

lemma reaches_of_connects {g : Flow} {u v : String} (way : ReflTransGen g.Connects u v) :
    ReflTransGen (Digraph.ofFlow g).Arc u v := by
  induction way with
  | refl => exact .refl
  | @tail x y _ drawn ih =>
    by_cases loop : x = y
    · exact loop ▸ ih
    · exact ih.tail (Digraph.arc_ofFlow.mpr ⟨drawn, loop⟩)

lemma lookup_eq_zero_iff {d : Digraph} {order : List String} {s v : String} (simple : d.Simple)
    (first : d.nodes.head? = some s) (connected : ∀ v ∈ d.nodes, ReflTransGen d.Arc s v)
    (h : d.acyclic.IsOrder order) :
    (ranksAlong d.acyclic order).lookup v = some 0 ↔ v = s := by
  by_cases hv : v ∈ d.nodes
  · rw [h.rank_eq_zero_iff hv]
    exact Digraph.arc_acyclic_iff simple first connected hv
  · exact ⟨fun ranked => absurd ((h.mem v).mp (mem_of_lookup_ranksAlong ranked)) hv,
      fun same => absurd (same ▸ List.mem_of_mem_head? first) hv⟩

lemma head?_orderedLayers {g : Flow} {s : String}
    (zero : ∀ v, (ranksAlong (Digraph.ofFlow g).acyclic (Digraph.ofFlow g).order).lookup v = some 0 ↔
      v = s) (known : s ∈ g.ids) : (orderedLayers (.ofFlow g)).head? = some [s] := by
  have whole := layers_flatten_perm g
  obtain ⟨row, hrow, hs⟩ := List.mem_flatten.mp (whole.mem_iff.mpr (List.mem_eraseDups.mpr known))
  obtain ⟨r, hr⟩ := List.mem_iff_getElem?.mp hrow
  have lowest : r = 0 := by
    have ranked := ((mem_orderedLayers hr).mp hs).2
    rw [(zero s).mpr rfl] at ranked
    exact (Option.some.inj ranked).symm
  subst lowest
  have flat : (orderedLayers (.ofFlow g)).flatten.Nodup := whole.nodup_iff.mpr (nodup_eraseDups _)
  have alone : row.Perm [s] := by
    refine (List.perm_ext_iff_of_nodup ((List.nodup_flatten.mp flat).1 row hrow)
      (List.nodup_singleton s)).mpr fun v => ?_
    rw [mem_orderedLayers hr, zero, List.mem_singleton]
    exact ⟨And.right, fun same => ⟨same ▸ Digraph.mem_nodes_ofFlow.mpr known, same⟩⟩
  rw [List.head?_eq_getElem?, hr, List.perm_singleton.mp alone]

/-- Where connections lead from the start to every step, it is the only step of rank zero, whatever
the order of the nodes, and it makes up the first layer. -/
theorem start_heads_alone {g : Flow} {start : Node} (hs : g.start? = some start)
    (connected : ∀ v ∈ g.ids, ReflTransGen g.Connects start.id v) :
    let d := Digraph.ofFlow g
    d.acyclic.IsOrder d.order ∧
    (∀ order, d.acyclic.IsOrder order → ∀ v,
      (ranksAlong d.acyclic order).lookup v = some 0 ↔ v = start.id) ∧
    (orderedLayers d).head? = some [start.id] := by
  intro d
  have simple := Digraph.simple_ofFlow g
  have first : d.nodes.head? = some start.id := by
    simp [d, Digraph.ofFlow, hs, List.eraseDups_cons]
  have reached : ∀ v ∈ d.nodes, ReflTransGen d.Arc start.id v := fun v hv =>
    reaches_of_connects (connected v (Digraph.mem_nodes_ofFlow.mp hv))
  have order := Digraph.isOrder_order simple
  refine ⟨order, fun _ h _ => lookup_eq_zero_iff simple first reached h, ?_⟩
  exact head?_orderedLayers (fun _ => lookup_eq_zero_iff simple first reached order)
    (List.mem_map_of_mem (List.mem_of_find?_eq_some hs))

theorem start_heads_alone_recurring :
    let d := Digraph.ofFlow recurring
    let start := Flow.step "start-1" 0.0 0.0 "Call Starts" .start
    recurring.start? = some start ∧
    (∀ v ∈ recurring.ids, ReflTransGen recurring.Connects start.id v) ∧
    (∀ v, (ranksAlong d.acyclic d.order).lookup v = some 0 ↔ v = "start-1") ∧
    (orderedLayers d).head? = some ["start-1"] := by
  intro d start
  have hs : recurring.start? = some start := rfl
  have led : ∀ v ∈ ["message-1", "end-1"], recurring.Connects "start-1" v := by
    simp [Flow.Connects, Flow.Leads, Flow.ids, recurring, Flow.step, Flow.arrow]
  have connected : ∀ v ∈ recurring.ids, ReflTransGen recurring.Connects start.id v := by
    intro v hv
    by_cases first : v = "start-1"
    · exact first ▸ .refl
    · refine .single (led v ?_)
      simpa [Flow.ids, recurring, Flow.step, first] using hv
  obtain ⟨order, zero, head⟩ := start_heads_alone hs connected
  exact ⟨hs, connected, zero _ order, head⟩

end Dialogue.Layout
