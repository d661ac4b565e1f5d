import Dialogue.Call.State

/-! What people see of a live call: which step glows, which are done, and every change in order. -/

namespace Dialogue.Call

inductive ViewOp where
  | highlight (node : Option String)
  | complete (node : String)
  | reset
deriving DecidableEq

namespace ViewOp

def name : ViewOp → String
  | highlight _ => "highlight"
  | complete _ => "complete"
  | reset => "reset"

def node? : ViewOp → Option String
  | highlight node => node
  | complete node => some node
  | reset => none

end ViewOp

structure View where
  highlighted : Option String := none
  completed : List String := []
  ops : List ViewOp := []

namespace View

def apply (v : View) (op : ViewOp) : View :=
  match op with
  | .highlight node => { v with highlighted := node, ops := v.ops ++ [op] }
  | .complete node =>
    { v with
      completed := if node ∈ v.completed then v.completed else v.completed ++ [node]
      ops := v.ops ++ [op] }
  | .reset => ⟨none, [], v.ops ++ [op]⟩

def toJson (v : View) : Json :=
  .object [("highlighted", .ofText? v.highlighted), ("completed", State.sortedTexts v.completed)]

end View

end Dialogue.Call
