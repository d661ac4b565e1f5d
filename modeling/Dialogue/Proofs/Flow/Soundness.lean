import Dialogue.Flow.Validation
import Dialogue.Intent.Routing
import Mathlib.Data.List.Nodup
import Mathlib.Logic.Relation
import Mathlib.Tactic.Common

/-! What a sound flow gives to those who walk through it: ids name one step each, and every edge ends
at a step. -/

namespace Dialogue

variable {g : Flow} {n : Node} {e : Edge} {a b id : String}

lemma nodup_of_unrepeated {α : Type} [DecidableEq α] {seen xs : List α}
    (h : repeated seen xs = []) : xs.Nodup ∧ ∀ x ∈ xs, x ∉ seen := by
  induction xs generalizing seen with
  | nil => simp
  | cons x rest ih =>
    rw [repeated] at h
    split_ifs at h with known
    obtain ⟨distinct, fresh⟩ := ih h
    refine ⟨List.nodup_cons.mpr ⟨fun later => fresh x later (by simp), distinct⟩, ?_⟩
    intro y hy
    rcases List.mem_cons.mp hy with rfl | hy
    · exact known
    · exact fun old => fresh y hy (by simp [old])

namespace Flow

def Leads (g : Flow) (a b : String) : Prop := ∃ e ∈ g.edges, e.source = a ∧ e.target = b

def Reaches (g : Flow) (id : String) : Prop :=
  ∃ start, g.start? = some start ∧ Relation.ReflTransGen g.Leads start.id id

lemma leads_of_next (h : g.next? a = some b) : g.Leads a b := mem_successors.mp (next?_mem h)

lemma leads_of_match {intent : String} (h : g.matchEdge a intent = some e) :
    g.Leads a e.target := by
  obtain ⟨he, source⟩ := mem_outgoing.mp (matchEdge_mem h)
  exact ⟨e, he, source, rfl⟩

lemma Reaches.start {n : Node} (h : g.start? = some n) : g.Reaches n.id := ⟨n, h, .refl⟩

lemma Reaches.tail (h : g.Reaches a) (lead : g.Leads a b) : g.Reaches b := by
  obtain ⟨start, hs, path⟩ := h
  exact ⟨start, hs, path.tail lead⟩

lemma mem_ids : id ∈ g.ids ↔ ∃ n, g.node? id = some n := by
  rw [← Option.isSome_iff_exists, node?, List.find?_isSome]
  simp [ids]

lemma exists_node_of_start (h : g.start? = some n) : ∃ m, g.node? n.id = some m :=
  mem_ids.mp (List.mem_map_of_mem (List.mem_of_find?_eq_some h))

structure Sound (g : Flow) : Prop where
  start : ∃ n, g.start? = some n
  ids : g.ids.Nodup
  edge : ∀ e ∈ g.edges, e.source ∈ g.ids ∧ e.target ∈ g.ids
  branch : ∀ n ∈ g.nodes, g.branchViolations n = []

lemma sound_of_isSound (h : g.isSound = true) : g.Sound := by
  have none : g.violations = [] := by simpa [isSound] using h
  simp only [violations, List.append_eq_nil_iff, List.flatMap_eq_nil_iff] at none
  obtain ⟨⟨⟨⟨⟨starts, -⟩, repeats⟩, edges⟩, -⟩, branches⟩ := none
  refine ⟨?_, (nodup_of_unrepeated (List.map_eq_nil_iff.mp repeats)).1, ?_, branches⟩
  · rw [← Option.isSome_iff_exists, start?, List.find?_isSome]
    by_contra missing
    have empty : g.nodesOfKind .start = [] := by simpa [nodesOfKind] using missing
    simp [startViolations, empty] at starts
  · intro e he
    obtain ⟨source, target⟩ := List.append_eq_nil_iff.mp (edges e he)
    exact ⟨by_contra fun missing => by simp [missing] at source,
      by_contra fun missing => by simp [missing] at target⟩

lemma Sound.node?_of_mem (h : g.Sound) (hn : n ∈ g.nodes) : g.node? n.id = some n := by
  obtain ⟨m, hm⟩ := mem_ids.mp (List.mem_map_of_mem (f := (·.id)) hn)
  have same := List.inj_on_of_nodup_map h.ids (node?_mem hm) hn (node?_id hm)
  exact same ▸ hm

lemma Sound.exists_node (h : g.Sound) (lead : g.Leads a b) : ∃ n, g.node? b = some n := by
  obtain ⟨e, he, -, rfl⟩ := lead
  exact mem_ids.mp (h.edge e he).2

end Flow

end Dialogue
