import Dialogue.Flow.Basic
import Dialogue.Intent.Match

/-! The choices of a branch, and the edge that an intent selects among them. -/

namespace Dialogue.Flow

open Intent

def choiceLabel (g : Flow) (e : Edge) : String :=
  if e.hasLabel then e.label.getD ""
  else match g.node? e.target with
    | some n => n.label
    | none => ""

def candidates (g : Flow) (branch : String) : List String :=
  ((g.outgoing branch).map g.choiceLabel).filter (! ·.isEmpty)

def selectors (g : Flow) (e : Edge) : List (List Char) :=
  [wanted (e.label.getD ""), wanted (((g.node? e.target).map (·.label)).getD "")].filter
    (! ·.isEmpty)

def matchEdge (g : Flow) (branch : String) (intent : String) : Option Edge :=
  let query := wanted intent
  if query.isEmpty then none
  else
    ((g.outgoing branch).find? fun e => (g.selectors e).contains query).or
      ((g.outgoing branch).find? fun e => (g.selectors e).any (overlap · query))

theorem matchEdge_mem {g : Flow} {branch intent : String} {e : Edge}
    (h : g.matchEdge branch intent = some e) : e ∈ g.outgoing branch := by
  simp only [matchEdge] at h
  split at h
  · simp at h
  · rcases Option.or_eq_some_iff.1 h with h | ⟨_, h⟩ <;> exact List.mem_of_find?_eq_some h

end Dialogue.Flow
