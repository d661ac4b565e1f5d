import Dialogue.Flow.Basic
import Dialogue.Text.Case

/-!
Soundness of a flow. `violations` lists every breach of a structural rule; a flow without any can be
published.
-/

namespace Dialogue

inductive Violation where
  | noStart
  | severalStarts (names : List String)
  | noTerminal
  | repeatedId (id : String)
  | unknownSource (edge source : String)
  | unknownTarget (edge target : String)
  | noIncoming (name : String)
  | noOutgoing (name : String)
  | unlabeledChoice (branch : String)
  | repeatedChoice (branch label : String)
deriving DecidableEq

namespace Violation

def inQuotes (s : String) : String := "\"" ++ s ++ "\""

def message : Violation → String
  | noStart => "Flow must have a Start node"
  | severalStarts names =>
    "Flow can only have one Start node (found " ++ ", ".intercalate (names.map inQuotes) ++ ")"
  | noTerminal => "Flow must have at least one End or Transfer node"
  | repeatedId id => "Duplicate node id " ++ inQuotes id
  | unknownSource edge source =>
    "Connection " ++ inQuotes edge ++ " starts at missing node " ++ inQuotes source
  | unknownTarget edge target =>
    "Connection " ++ inQuotes edge ++ " ends at missing node " ++ inQuotes target
  | noIncoming name => "Node " ++ inQuotes name ++ " has no incoming connection"
  | noOutgoing name => "Node " ++ inQuotes name ++ " has no outgoing connection"
  | unlabeledChoice branch =>
    "Branch " ++ inQuotes branch ++ " has a connection without a condition label"
  | repeatedChoice branch label =>
    "Branch " ++ inQuotes branch ++ " has duplicate condition label " ++ inQuotes label

end Violation

def repeated {α : Type} [DecidableEq α] (seen : List α) : List α → List α
  | [] => []
  | a :: rest => if a ∈ seen then a :: repeated seen rest else repeated (a :: seen) rest

namespace Flow

def ids (g : Flow) : List String := g.nodes.map (·.id)

def startViolations (g : Flow) : List Violation :=
  match g.nodesOfKind .start with
  | [] => [.noStart]
  | [_] => []
  | starts => [.severalStarts (starts.map (·.displayName))]

def terminalViolations (g : Flow) : List Violation :=
  if g.nodes.any (·.isTerminal) then [] else [.noTerminal]

def idViolations (g : Flow) : List Violation := (repeated [] g.ids).map .repeatedId

def edgeViolations (g : Flow) (e : Edge) : List Violation :=
  (if e.source ∈ g.ids then [] else [.unknownSource e.id e.source]) ++
    (if e.target ∈ g.ids then [] else [.unknownTarget e.id e.target])

def nodeViolations (g : Flow) (n : Node) : List Violation :=
  (if n.kind ≠ .start ∧ n.id ∉ g.edges.map (·.target) then [.noIncoming n.displayName] else []) ++
    (if ¬ n.isTerminal ∧ n.id ∉ g.edges.map (·.source) then [.noOutgoing n.displayName] else [])

def choiceKey (label : String) : List Char := Text.lower (Text.strip label.toList)

def choiceViolations (branch : String) (seen : List (List Char)) : List Edge → List Violation
  | [] => []
  | e :: rest =>
    match e.label with
    | some label =>
      if Text.isBlankText label then
        .unlabeledChoice branch :: choiceViolations branch seen rest
      else if choiceKey label ∈ seen then
        .repeatedChoice branch label :: choiceViolations branch seen rest
      else choiceViolations branch (choiceKey label :: seen) rest
    | none => .unlabeledChoice branch :: choiceViolations branch seen rest

def branchViolations (g : Flow) (n : Node) : List Violation :=
  if n.kind = .branch then choiceViolations n.displayName [] (g.outgoing n.id) else []

def violations (g : Flow) : List Violation :=
  g.startViolations ++ g.terminalViolations ++ g.idViolations ++
    g.edges.flatMap g.edgeViolations ++ g.nodes.flatMap g.nodeViolations ++
    g.nodes.flatMap g.branchViolations

def errors (g : Flow) : List String := g.violations.map (·.message)

def isSound (g : Flow) : Bool := g.violations.isEmpty

def refusal (errors : List String) : String :=
  "Flow validation failed:\n" ++ "\n".intercalate errors

end Flow

end Dialogue
