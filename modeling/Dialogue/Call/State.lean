import Dialogue.Call.Event

/-!
Where a live call is in its flow. The epoch tells one call from the next; visited steps only grow
while it lasts; the transcript keeps the latest lines.
-/

namespace Dialogue.Call

abbrev Stamp := String

structure Line where
  stamp : Stamp
  role : String
  content : String
  node : Option String

structure State where
  epoch : Nat := 0
  isActive : Bool := false
  current : Option String := none
  visited : List String := []
  isClassifying : Bool := false
  ticket : Option Nat := none
  intent : Option String := none
  phone : Option String := none
  handle : Option String := none
  transcript : List Line := []
  started : Option Stamp := none
  ended : Option Stamp := none

def lineLimit : Nat := 200

def latest {α : Type} (n : Nat) (xs : List α) : List α := xs.drop (xs.length - n)

namespace State

def isVisited (s : State) (id : String) : Bool := s.visited.contains id

def visit (s : State) (id : String) : State :=
  if s.isVisited id then s else { s with visited := s.visited ++ [id] }

theorem isVisited_visit (s : State) (a b : String) :
    (s.visit a).isVisited b = true ↔ s.isVisited b = true ∨ b = a := by
  by_cases h : s.isVisited a = true
  · simp only [visit, h, if_true, iff_self_or]
    rintro rfl
    exact h
  · rw [visit, if_neg h]
    simp [isVisited]

def withoutClassification (s : State) : State := { s with isClassifying := false, ticket := none }

def record (s : State) (l : Line) : State :=
  { s with transcript := latest lineLimit (s.transcript ++ [l]) }

def lineJson (l : Line) : Json :=
  .object [("timestamp", .text l.stamp), ("role", .text l.role), ("content", .text l.content),
    ("node_id", .ofText? l.node)]

def sortedTexts (ids : List String) : Json := .ofTexts (ids.mergeSort fun a b => decide (a ≤ b))

def fields (s : State) : Fields := [
  ("epoch", .whole s.epoch), ("is_active", .bool s.isActive),
  ("current_node_id", .ofText? s.current), ("visited_nodes", sortedTexts s.visited),
  ("is_classifying", .bool s.isClassifying), ("detected_intent", .ofText? s.intent),
  ("customer_phone", .ofText? s.phone), ("has_call_control", .bool s.handle.isSome),
  ("started_at", .ofText? s.started), ("ended_at", .ofText? s.ended),
  ("transcript", .list (s.transcript.map lineJson))]

end State

end Dialogue.Call
