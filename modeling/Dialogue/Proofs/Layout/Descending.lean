import Dialogue.Layout.Digraph
import Mathlib.Algebra.BigOperators.Group.List.Lemmas
import Mathlib.Data.List.Chain
import Mathlib.Data.List.Nodup
import Mathlib.Data.Nat.Cast.Basic
import Mathlib.Logic.Relation
import Mathlib.Tactic.Common

/-! What a depth-first walk knows at each of its steps. The open path from its root on, with the
finished nodes behind it, is a line into which nodes are only put, between the two parts, and which
is the order of the nodes in the end. An arc that has been tried leads onward along this line, or it
leads back into the open path. -/

namespace Dialogue.Layout

open Relation (ReflTransGen)

section Pairs

variable {α : Type} {a b c : α} {xs ys : List α}

lemma pair_append (ha : a ∈ xs) (hb : b ∈ ys) : [a, b].Sublist (xs ++ ys) :=
  (List.singleton_sublist.mpr ha).append (List.singleton_sublist.mpr hb)

lemma pair_middle (h : [a, b].Sublist (xs ++ ys)) : [a, b].Sublist (xs ++ c :: ys) :=
  h.trans ((List.sublist_cons_self c ys).append_left xs)

lemma idxOf_lt_of_pair [DecidableEq α] (distinct : xs.Nodup) (h : [a, b].Sublist xs) :
    xs.idxOf a < xs.idxOf b := by
  induction xs with
  | nil => cases h
  | cons x rest ih =>
    obtain ⟨new, distinct⟩ := List.nodup_cons.mp distinct
    cases h with
    | cons _ h =>
      have first : x ≠ a := fun same => new (same ▸ h.subset (by simp))
      have second : x ≠ b := fun same => new (same ▸ h.subset (by simp))
      rw [List.idxOf_cons_ne _ first, List.idxOf_cons_ne _ second]
      exact Nat.succ_lt_succ (ih distinct h)
    | cons_cons _ h =>
      have second : a ≠ b := fun same => new (same ▸ h.subset (by simp))
      rw [List.idxOf_cons_self, List.idxOf_cons_ne _ second]
      exact Nat.succ_pos _

end Pairs

namespace Digraph

variable {d : Digraph} {u v : String}

def Arc (d : Digraph) (u v : String) : Prop := (u, v) ∈ d.arcs

structure Simple (d : Digraph) : Prop where
  nodes : d.nodes.Nodup
  arcs : d.arcs.Nodup
  source : ∀ {u v}, d.Arc u v → u ∈ d.nodes
  target : ∀ {u v}, d.Arc u v → v ∈ d.nodes
  apart : ∀ {u v}, d.Arc u v → u ≠ v

lemma mem_successors : v ∈ d.successors u ↔ d.Arc u v := by
  simp [successors, Arc]

lemma Simple.nodup_successors (simple : d.Simple) : (d.successors u).Nodup := by
  refine List.Nodup.map_on ?_ (simple.arcs.filter _)
  intro a ha b hb same
  have first : a.1 = u := by simpa using (List.mem_filter.mp ha).2
  have second : b.1 = u := by simpa using (List.mem_filter.mp hb).2
  exact Prod.ext (first.trans second.symm) same

lemma mem_predecessors : u ∈ d.predecessors v ↔ d.Arc u v := by
  simp [predecessors, Arc]

end Digraph

namespace Walk

variable {d : Digraph} {w : Walk}

def trail (w : Walk) : List String := w.path.map (·.node)

def line (w : Walk) : List String := w.trail.reverse ++ w.finished

lemma isOpen_iff {v : String} : w.isOpen v = true ↔ v ∈ w.trail := by
  simp [isOpen, trail]

inductive Advance (d : Digraph) (w : Walk) : Walk → Prop
  | deeper {u v : String} {rest : List String} {below : List Frame} :
      w.path = ⟨u, v :: rest⟩ :: below → v ∉ w.seen →
      Advance d w ({ w with path := ⟨u, rest⟩ :: below }.enter d v)
  | back {u v : String} {rest : List String} {below : List Frame} :
      w.path = ⟨u, v :: rest⟩ :: below → v ∈ w.trail →
      Advance d w { w with path := ⟨u, rest⟩ :: below, back := w.back ++ [(u, v)] }
  | aside {u v : String} {rest : List String} {below : List Frame} :
      w.path = ⟨u, v :: rest⟩ :: below → v ∈ w.seen → v ∉ w.trail →
      Advance d w { w with path := ⟨u, rest⟩ :: below }
  | finish {u : String} {below : List Frame} : w.path = ⟨u, []⟩ :: below →
      Advance d w { w with path := below, finished := u :: w.finished }
  | root {r : String} {roots : List String} : w.path = [] → w.roots = r :: roots → r ∉ w.seen →
      Advance d w ({ w with roots := roots }.enter d r)
  | skip {r : String} {roots : List String} : w.path = [] → w.roots = r :: roots → r ∈ w.seen →
      Advance d w { w with roots := roots }
  | done : w.path = [] → w.roots = [] → Advance d w w

lemma advance_step (d : Digraph) (w : Walk) : Advance d w (w.step d) := by
  unfold step
  split
  · next u v rest below path =>
    have kept : ({ w with path := ⟨u, rest⟩ :: below } : Walk).isOpen v = w.isOpen v := by
      simp [isOpen, path]
    simp only [kept, Bool.not_eq_true']
    split_ifs with new opened
    · exact .deeper path (by simpa using new)
    · exact .back path (isOpen_iff.mp opened)
    · exact .aside path (by simpa using new) (mt isOpen_iff.mpr opened)
  · next path => exact .finish path
  · next r roots path left =>
    simp only [List.contains_iff_mem]
    split_ifs with known
    · exact .skip path left known
    · exact .root path left known
  · next path left => exact .done path left

structure Orderly (d : Digraph) (w : Walk) : Prop where
  distinct : w.line.Nodup
  seen : ∀ v, v ∈ w.seen ↔ v ∈ w.line
  nodes : ∀ v ∈ w.line, v ∈ d.nodes
  roots : ∀ r ∈ w.roots, r ∈ d.nodes
  -- no node is forgotten: one that was not met is still a root
  due : ∀ v ∈ d.nodes, v ∈ w.roots ∨ v ∈ w.line
  rest : ∀ f ∈ w.path, ∀ v ∈ f.rest, d.Arc f.node v
  chain : w.trail.IsChain fun v u => d.Arc u v
  -- an arc is to be tried yet, was found to lead back, or leads onward along the line
  settled : ∀ u ∈ w.line, ∀ v, d.Arc u v →
    (∃ f ∈ w.path, f.node = u ∧ v ∈ f.rest) ∨ (u, v) ∈ w.back ∨ [u, v].Sublist w.line
  back : ∀ a ∈ w.back,
    d.Arc a.1 a.2 ∧ ReflTransGen d.Arc a.2 a.1 ∧ [a.2, a.1].Sublist w.line

namespace Orderly

variable {u v r : String} {rest roots : List String} {above below : List Frame}

lemma start (d : Digraph) : Orderly d ⟨d.nodes, [], [], [], []⟩ where
  distinct := .nil
  seen := by simp [line, trail]
  nodes := by simp [line, trail]
  roots _ hr := hr
  due _ hv := .inl hv
  rest := by simp
  chain := .nil
  settled := by simp [line, trail]
  back := by simp

lemma enter (h : Orderly d w) (known : v ∈ d.nodes) (new : v ∉ w.seen)
    (linked : ∀ u ∈ w.trail.head?, d.Arc u v) : Orderly d (w.enter d v) := by
  have line : (w.enter d v).line = w.trail.reverse ++ v :: w.finished := by
    simp [Walk.enter, Walk.line, trail]
  have mem (x : String) : x ∈ (w.enter d v).line ↔ x = v ∨ x ∈ w.line := by
    rw [line, Walk.line, List.mem_append, List.mem_append, List.mem_cons]
    tauto
  have wider {a b : String} (pair : [a, b].Sublist w.line) :
      [a, b].Sublist (w.enter d v).line := line ▸ pair_middle pair
  refine ⟨?_, ?_, ?_, h.roots, ?_, ?_, ?_, ?_, ?_⟩
  · rw [line, List.nodup_middle]
    exact List.nodup_cons.mpr ⟨mt (h.seen v).mpr new, h.distinct⟩
  · intro x
    rw [mem, ← h.seen]
    exact List.mem_cons
  · intro x hx
    rcases (mem x).mp hx with rfl | hx
    · exact known
    · exact h.nodes x hx
  · exact fun x hx => (h.due x hx).imp id fun old => (mem x).mpr (.inr old)
  · intro f hf
    rcases List.mem_cons.mp hf with rfl | hf
    · exact fun x hx => Digraph.mem_successors.mp hx
    · exact h.rest f hf
  · exact List.isChain_cons.mpr ⟨linked, h.chain⟩
  · intro u hu x arc
    rcases (mem u).mp hu with rfl | hu
    · exact .inl ⟨_, List.mem_cons_self, rfl, Digraph.mem_successors.mpr arc⟩
    · rcases h.settled u hu x arc with ⟨f, hf, pending⟩ | turned | onward
      · exact .inl ⟨f, List.mem_cons_of_mem _ hf, pending⟩
      · exact .inr (.inl turned)
      · exact .inr (.inr (wider onward))
  · intro a ha
    obtain ⟨arc, way, pair⟩ := h.back a ha
    exact ⟨arc, way, wider pair⟩

lemma drop (h : Orderly d w) (above : List Frame)
    (path : w.path = above ++ ⟨u, v :: rest⟩ :: below)
    (tried : (u, v) ∈ w.back ∨ [u, v].Sublist w.line) :
    Orderly d { w with path := above ++ ⟨u, rest⟩ :: below } := by
  have trail : trail { w with path := above ++ ⟨u, rest⟩ :: below } = w.trail := by
    simp [Walk.trail, path]
  have line : line { w with path := above ++ ⟨u, rest⟩ :: below } = w.line := by
    rw [Walk.line, trail, Walk.line]
  refine ⟨line ▸ h.distinct, line ▸ h.seen, line ▸ h.nodes, h.roots, line ▸ h.due, ?_,
    trail ▸ h.chain, ?_, line ▸ h.back⟩
  · intro f hf x hx
    rcases List.mem_append.mp hf with hf | hf
    · exact h.rest f (by simp [path, hf]) x hx
    rcases List.mem_cons.mp hf with rfl | hf
    · exact h.rest ⟨u, v :: rest⟩ (by simp [path]) x (List.mem_cons_of_mem _ hx)
    · exact h.rest f (by simp [path, hf]) x hx
  · rw [line]
    intro p hp x arc
    rcases h.settled p hp x arc with ⟨f, hf, rfl, pending⟩ | settled
    · rw [path, List.mem_append, List.mem_cons] at hf
      rcases hf with hf | rfl | hf
      · exact .inl ⟨f, by simp [hf], rfl, pending⟩
      · rcases List.mem_cons.mp pending with rfl | pending
        · exact .inr tried
        · exact .inl ⟨⟨u, rest⟩, by simp, rfl, pending⟩
      · exact .inl ⟨f, by simp [hf], rfl, pending⟩
    · exact .inr settled

lemma reaches_end (chain : (u :: rest).IsChain fun v u => d.Arc u v) (hv : v ∈ rest) :
    ReflTransGen d.Arc v u := by
  induction rest generalizing u with
  | nil => cases hv
  | cons x rest ih =>
    obtain ⟨arc, chain⟩ := List.isChain_cons_cons.mp chain
    rcases List.mem_cons.mp hv with rfl | hv
    · exact .single arc
    · exact (ih chain hv).tail arc

lemma arc (h : Orderly d w) (path : w.path = ⟨u, v :: rest⟩ :: below) : d.Arc u v :=
  h.rest ⟨u, v :: rest⟩ (by simp [path]) v (by simp)

lemma notMem_back (h : Orderly d w) (new : v ∉ w.seen) : (v, u) ∉ w.back := by
  intro turned
  have pair := (h.back _ turned).2.2
  exact new ((h.seen v).mpr (pair.subset (by simp)))

lemma record (h : Orderly d w) (path : w.path = ⟨u, v :: rest⟩ :: below)
    (opened : v ∈ below.map (·.node)) : Orderly d { w with back := w.back ++ [(u, v)] } := by
  have trail : w.trail = u :: below.map (·.node) := by simp [Walk.trail, path]
  have way : ReflTransGen d.Arc v u := reaches_end (trail ▸ h.chain) opened
  have pair : [v, u].Sublist w.line := by
    rw [line, trail, List.reverse_cons, List.append_assoc]
    exact pair_append (List.mem_reverse.mpr opened) (by simp)
  refine ⟨h.distinct, h.seen, h.nodes, h.roots, h.due, h.rest, h.chain, ?_, ?_⟩
  · intro p hp x tried
    exact (h.settled p hp x tried).imp_right (.imp_left fun old => List.mem_append_left _ old)
  · intro a ha
    rcases List.mem_append.mp ha with ha | ha
    · exact h.back a ha
    · obtain rfl := List.mem_singleton.mp ha
      exact ⟨h.arc path, way, pair⟩

lemma finish (h : Orderly d w) (path : w.path = ⟨u, []⟩ :: below) :
    Orderly d { w with path := below, finished := u :: w.finished } := by
  have line : line { w with path := below, finished := u :: w.finished } = w.line := by
    simp [Walk.line, trail, path]
  refine ⟨line ▸ h.distinct, line ▸ h.seen, line ▸ h.nodes, h.roots, line ▸ h.due, ?_, ?_, ?_,
    line ▸ h.back⟩
  · exact fun f hf => h.rest f (by simp [path, hf])
  · have chain := h.chain
    rw [trail, path] at chain
    exact (List.isChain_cons.mp chain).2
  · rw [line]
    intro p hp x arc
    rcases h.settled p hp x arc with ⟨f, hf, rfl, pending⟩ | settled
    · rw [path, List.mem_cons] at hf
      rcases hf with rfl | hf
      · cases pending
      · exact .inl ⟨f, hf, rfl, pending⟩
    · exact .inr settled

lemma nextRoot (h : Orderly d w) (left : w.roots = r :: roots)
    (known : r ∈ w.seen) : Orderly d { w with roots := roots } := by
  refine ⟨h.distinct, h.seen, h.nodes, ?_, ?_, h.rest, h.chain, h.settled, h.back⟩
  · exact fun x hx => h.roots x (by simp [left, hx])
  · intro x hx
    rcases h.due x hx with due | old
    · rw [left, List.mem_cons] at due
      rcases due with rfl | due
      · exact .inr ((h.seen x).mp known)
      · exact .inl due
    · exact .inr old

lemma advance (simple : d.Simple) {w' : Walk} (h : Orderly d w) (step : Advance d w w') :
    Orderly d w' := by
  cases step with
  | @deeper u v rest below path new =>
    have arc := h.arc path
    have entered : Orderly d (w.enter d v) :=
      h.enter (simple.target arc) new (by simpa [trail, path] using arc)
    have pair : [u, v].Sublist (w.enter d v).line := by
      have line : (w.enter d v).line =
          ((below.map (·.node)).reverse ++ [u]) ++ v :: w.finished := by
        simp [Walk.enter, Walk.line, trail, path]
      exact line ▸ pair_append (by simp) (by simp)
    exact entered.drop [⟨v, d.successors v⟩] (by simp [Walk.enter, path]) (.inr pair)
  | @back u v rest below path opened =>
    -- an arc from a node to itself is the one arc that could lead back without a pair on the line
    have lower : v ∈ below.map (·.node) := by
      rw [trail, path, List.map_cons, List.mem_cons] at opened
      exact opened.resolve_left (simple.apart (h.arc path)).symm
    exact (h.record path lower).drop [] path (.inl (by simp))
  | @aside u v rest below path known closed =>
    have finished : v ∈ w.finished := by
      have onLine := (h.seen v).mp known
      rw [line, List.mem_append, List.mem_reverse] at onLine
      exact onLine.resolve_left closed
    exact h.drop [] path (.inr (pair_append (by simp [trail, path]) finished))
  | finish path => exact h.finish path
  | @root r roots path left new =>
    have known : r ∈ d.nodes := h.roots r (by simp [left])
    -- first in, then off the roots: in between the node is due in both ways
    have entered : Orderly d (w.enter d r) := h.enter known new (by simp [trail, path])
    exact entered.nextRoot left List.mem_cons_self
  | skip path left known => exact h.nextRoot left known
  | done => exact h

lemma run (simple : d.Simple) (h : Orderly d w) (count : Nat) : Orderly d (Walk.run d count w) := by
  induction count generalizing w with
  | zero => exact h
  | succ count ih => exact ih (h.advance simple (advance_step d w))

end Orderly

structure Once (w : Walk) : Prop where
  rest : ∀ f ∈ w.path, f.rest.Nodup
  untried : ∀ f ∈ w.path, ∀ v ∈ f.rest, (f.node, v) ∉ w.back
  back : w.back.Nodup

namespace Once

lemma enter (simple : d.Simple) (h : Once w) {v : String} (fresh : ∀ x, (v, x) ∉ w.back) :
    Once (w.enter d v) := by
  refine ⟨?_, ?_, h.back⟩
  · intro f hf
    rcases List.mem_cons.mp hf with rfl | hf
    · exact simple.nodup_successors
    · exact h.rest f hf
  · intro f hf x hx
    rcases List.mem_cons.mp hf with rfl | hf
    · exact fresh x
    · exact h.untried f hf x hx

lemma drop (h : Once w) {u v : String} {rest : List String} {below : List Frame}
    (path : w.path = ⟨u, v :: rest⟩ :: below) : Once { w with path := ⟨u, rest⟩ :: below } := by
  refine ⟨?_, ?_, h.back⟩
  · intro f hf
    rcases List.mem_cons.mp hf with rfl | hf
    · exact (List.nodup_cons.mp (h.rest ⟨u, v :: rest⟩ (by simp [path]))).2
    · exact h.rest f (by simp [path, hf])
  · intro f hf x hx
    rcases List.mem_cons.mp hf with rfl | hf
    · exact h.untried ⟨u, v :: rest⟩ (by simp [path]) x (by simp [hx])
    · exact h.untried f (by simp [path, hf]) x hx

lemma record (ordered : Orderly d w) (h : Once w) {u v : String} {rest : List String}
    {below : List Frame} (path : w.path = ⟨u, v :: rest⟩ :: below) :
    Once { w with path := ⟨u, rest⟩ :: below, back := w.back ++ [(u, v)] } := by
  have dropped := h.drop path
  have apart : ∀ f ∈ below, f.node ≠ u := by
    have trail := (List.nodup_append.mp ordered.distinct).1
    rw [List.nodup_reverse, Walk.trail, path, List.map_cons, List.nodup_cons] at trail
    exact fun f hf same => trail.1 (List.mem_map.mpr ⟨f, hf, same⟩)
  have next : v ∉ rest := (List.nodup_cons.mp (h.rest ⟨u, v :: rest⟩ (by simp [path]))).1
  refine ⟨dropped.rest, ?_, ?_⟩
  · intro f hf x hx turned
    rcases List.mem_append.mp turned with old | last
    · exact dropped.untried f hf x hx old
    · obtain ⟨same, rfl⟩ := Prod.mk.inj (List.mem_singleton.mp last)
      rcases List.mem_cons.mp hf with rfl | hf
      · exact next hx
      · exact apart f hf same
  · have new : (u, v) ∉ w.back := h.untried ⟨u, v :: rest⟩ (by simp [path]) v (by simp)
    exact List.nodup_append.mpr ⟨h.back, List.nodup_singleton _, by grind⟩

lemma advance (simple : d.Simple) (ordered : Orderly d w) (h : Once w) {w' : Walk}
    (step : Advance d w w') : Once w' := by
  cases step with
  | deeper path new => exact (h.drop path).enter simple fun _ => ordered.notMem_back new
  | back path => exact h.record ordered path
  | aside path => exact h.drop path
  | finish path =>
    exact ⟨fun f hf => h.rest f (by simp [path, hf]), fun f hf => h.untried f (by simp [path, hf]),
      h.back⟩
  | @root r roots path left new =>
    have kept : Once { w with roots := roots } := ⟨h.rest, h.untried, h.back⟩
    exact kept.enter simple fun _ => ordered.notMem_back new
  | skip => exact ⟨h.rest, h.untried, h.back⟩
  | done => exact h

lemma run (simple : d.Simple) (ordered : Orderly d w) (h : Once w) (count : Nat) :
    Once (Walk.run d count w) := by
  induction count generalizing w with
  | zero => exact h
  | succ count ih =>
    have step := advance_step d w
    exact ih (ordered.advance simple step) (h.advance simple ordered step)

end Once

def unseen (d : Digraph) (w : Walk) : List String := d.nodes.filter (! w.seen.contains ·)

def left (d : Digraph) (w : Walk) : Nat :=
  w.roots.length + (w.path.map (·.rest.length + 1)).sum +
    ((w.unseen d).map fun v => (d.successors v).length + 1).sum

lemma left_enter (simple : d.Simple) {v : String} (known : v ∈ d.nodes) (new : v ∉ w.seen) :
    (w.enter d v).left d = w.left d := by
  have fewer : (w.enter d v).unseen d = (w.unseen d).erase v := by
    rw [unseen, unseen, (simple.nodes.filter _).erase_eq_filter, List.filter_filter]
    refine List.filter_congr fun x _ => ?_
    rw [enter, List.contains_cons, Bool.not_or, bne]
  have unseen : v ∈ w.unseen d := List.mem_filter.mpr ⟨known, by simpa using new⟩
  have split := List.sum_map_erase (fun v => (d.successors v).length + 1) unseen
  simp only [left, fewer]
  simp only [enter, List.map_cons, List.sum_cons]
  omega

lemma Advance.left (simple : d.Simple) (h : Orderly d w) {w' : Walk} (step : Advance d w w') :
    w'.left d = w.left d - 1 := by
  cases step with
  | @deeper u v rest below path new =>
    rw [left_enter simple (simple.target (h.arc path)) (by exact new)]
    simp only [Walk.left, unseen, path, List.map_cons, List.sum_cons, List.length_cons]
    omega
  | back path | aside path | finish path =>
    simp only [Walk.left, unseen, path, List.map_cons, List.sum_cons, List.length_cons,
      List.length_nil]
    omega
  | @root r roots path left new =>
    rw [left_enter simple (h.roots r (by simp [left])) (by exact new)]
    simp only [Walk.left, unseen, left, List.length_cons]
    omega
  | skip path left =>
    simp only [Walk.left, unseen, left, List.length_cons]
    omega
  | done path left =>
    -- all nodes have been met, for none is left among the roots
    have none : w.unseen d = [] := by
      refine List.filter_eq_nil_iff.mpr fun v hv => ?_
      simpa using (h.seen v).mpr ((h.due v hv).resolve_left (by simp [left]))
    simp [Walk.left, path, left, none]

lemma done_of_left (h : w.left d = 0) : w.path = [] ∧ w.roots = [] := by
  obtain ⟨⟨roots, path⟩, -⟩ := by simpa [left] using h
  exact ⟨path.2, roots⟩

lemma run_done (simple : d.Simple) (h : Orderly d w) {count : Nat} (enough : w.left d ≤ count) :
    (run d count w).path = [] ∧ (run d count w).roots = [] := by
  induction count generalizing w with
  | zero => exact done_of_left (Nat.le_zero.mp enough)
  | succ count ih =>
    have step := advance_step d w
    refine ih (h.advance simple step) ?_
    rw [step.left simple h]
    omega

end Walk

namespace Digraph

variable {d : Digraph}

lemma sum_successors_le {nodes : List String} (distinct : nodes.Nodup)
    (arcs : List (String × String)) :
    (nodes.map fun v => (arcs.filter (·.1 = v)).length).sum ≤ arcs.length := by
  induction nodes generalizing arcs with
  | nil => simp
  | cons v rest ih =>
    obtain ⟨new, distinct⟩ := List.nodup_cons.mp distinct
    have others : (rest.map fun u => (arcs.filter (·.1 = u)).length) =
        rest.map fun u => ((arcs.filter fun a => ! decide (a.1 = v)).filter (·.1 = u)).length := by
      refine List.map_congr_left fun u hu => ?_
      rw [List.filter_filter]
      refine congrArg List.length (List.filter_congr fun a _ => ?_)
      have apart : u ≠ v := ne_of_mem_of_not_mem hu new
      grind
    calc ((v :: rest).map fun v => (arcs.filter (·.1 = v)).length).sum
        = (arcs.filter (·.1 = v)).length +
          (rest.map fun u =>
            ((arcs.filter fun a => ! decide (a.1 = v)).filter (·.1 = u)).length).sum := by
          rw [List.map_cons, List.sum_cons, others]
      _ ≤ (arcs.filter (·.1 = v)).length + (arcs.filter fun a => ! decide (a.1 = v)).length :=
          Nat.add_le_add_left (ih distinct _) _
      _ = arcs.length := (List.length_eq_length_filter_add _).symm

lemma left_start_le (simple : d.Simple) :
    Walk.left d ⟨d.nodes, [], [], [], []⟩ ≤ 2 * d.nodes.length + d.arcs.length := by
  have tried : (d.nodes.map fun v => (d.successors v).length).sum ≤ d.arcs.length := by
    simpa [successors] using sum_successors_le simple.nodes d.arcs
  have all : Walk.unseen d ⟨d.nodes, [], [], [], []⟩ = d.nodes := by simp [Walk.unseen]
  have weight : (d.nodes.map fun v => (d.successors v).length + 1).sum =
      (d.nodes.map fun v => (d.successors v).length).sum + d.nodes.length := by simp
  rw [Walk.left, all, weight, List.map_nil, List.sum_nil]
  dsimp only
  omega

lemma walk_done (simple : d.Simple) : d.walk.path = [] ∧ d.walk.roots = [] :=
  Walk.run_done simple (.start d) (left_start_le simple)

lemma orderly_walk (simple : d.Simple) : Walk.Orderly d d.walk :=
  (Walk.Orderly.start d).run simple _

lemma nodup_back (simple : d.Simple) : d.walk.back.Nodup :=
  (Walk.Once.run simple (.start d) ⟨by simp, by simp, .nil⟩ _).back

end Digraph

end Dialogue.Layout
