import Dialogue.Json.Value
import Dialogue.Text.Blank

/-!
Flows: the steps of a designed conversation and the connections between them. A flow holds whatever
an editor left in it; which flows are sound is a question of its own.
-/

namespace Dialogue

structure Position where
  x : Float
  y : Float
deriving DecidableEq

def Position.origin : Position := ⟨0.0, 0.0⟩

structure Header where
  key : String
  value : String
deriving DecidableEq

structure Mapping where
  path : String
  label : String
  enabled : Bool
deriving DecidableEq

structure Lookup where
  endpoint : String
  headers : List Header
  mappings : List Mapping
  testPhone : Option String
  lastResponse : Option Json

inductive Kind where
  | start
  | message
  | listen
  | branch
  | action
  | transfer
  | ending
deriving DecidableEq

namespace Kind

def name : Kind → String
  | start => "start"
  | message => "message"
  | listen => "listen"
  | branch => "branch"
  | action => "action"
  | transfer => "transfer"
  | ending => "end"

def all : List Kind := [start, message, listen, branch, action, transfer, ending]

def ofName? (s : String) : Option Kind := all.find? (·.name = s)

theorem ofName?_name (k : Kind) : ofName? k.name = some k := by cases k <;> decide

theorem name_inj {j k : Kind} (same : j.name = k.name) : j = k :=
  Option.some.inj (by rw [← ofName?_name, same, ofName?_name])

end Kind

inductive Content where
  | start
  | message (spoken : Option String)
  | listen (intents : List String)
  | branch
  | action (spoken actionType : Option String) (lookup : Option Lookup)
  | transfer (number : Option String)
  | ending (farewell spoken : Option String)

def Content.kind : Content → Kind
  | start => .start
  | message _ => .message
  | listen _ => .listen
  | branch => .branch
  | action _ _ _ => .action
  | transfer _ => .transfer
  | ending _ _ => .ending

structure NodeData where
  label : String
  content : Content
  extras : Fields

structure Node where
  id : String
  position : Position
  data : NodeData
  extras : Fields

namespace Node

def label (n : Node) : String := n.data.label

def content (n : Node) : Content := n.data.content

def kind (n : Node) : Kind := n.content.kind

def isTerminal (n : Node) : Bool := n.kind = .ending || n.kind = .transfer

def displayName (n : Node) : String := if Text.isBlankText n.label then n.id else n.label

def closingLine (n : Node) : Option String :=
  match n.content with
  | .ending farewell spoken =>
    if farewell.any (! ·.isEmpty) then farewell else spoken
  | _ => none

end Node

structure Edge where
  id : String
  source : String
  target : String
  label : Option String
  extras : Fields

def Edge.hasLabel (e : Edge) : Bool := e.label.any (! Text.isBlankText ·)

structure Flow where
  nodes : List Node
  edges : List Edge

namespace Flow

def node? (g : Flow) (id : String) : Option Node := g.nodes.find? (·.id = id)

def nodesOfKind (g : Flow) (k : Kind) : List Node := g.nodes.filter (·.kind = k)

def start? (g : Flow) : Option Node := g.nodes.find? (·.kind = .start)

def ending? (g : Flow) : Option Node := g.nodes.find? (·.kind = .ending)

def outgoing (g : Flow) (id : String) : List Edge := g.edges.filter (·.source = id)

def incoming (g : Flow) (id : String) : List Edge := g.edges.filter (·.target = id)

def successors (g : Flow) (id : String) : List String := (g.outgoing id).map (·.target)

def next? (g : Flow) (id : String) : Option String := (g.successors id).head?

def adjacency (g : Flow) : List (String × List String) :=
  let sources := g.edges.foldl (fun seen e => if seen.contains e.source then seen
    else seen ++ [e.source]) []
  sources.map fun s => (s, g.successors s)

theorem node?_id {g : Flow} {id : String} {n : Node} (h : g.node? id = some n) : n.id = id := by
  simpa using List.find?_some h

theorem node?_mem {g : Flow} {id : String} {n : Node} (h : g.node? id = some n) : n ∈ g.nodes :=
  List.mem_of_find?_eq_some h

theorem start?_kind {g : Flow} {n : Node} (h : g.start? = some n) : n.kind = .start := by
  simpa using List.find?_some h

theorem mem_outgoing {g : Flow} {id : String} {e : Edge} :
    e ∈ g.outgoing id ↔ e ∈ g.edges ∧ e.source = id := by
  simp [outgoing]

theorem mem_successors {g : Flow} {id t : String} :
    t ∈ g.successors id ↔ ∃ e ∈ g.edges, e.source = id ∧ e.target = t := by
  simp [successors, outgoing, and_assoc]

theorem next?_mem {g : Flow} {id t : String} (h : g.next? id = some t) : t ∈ g.successors id :=
  List.mem_of_mem_head? h

end Flow

end Dialogue
