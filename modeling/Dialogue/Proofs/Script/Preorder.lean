import Dialogue.Proofs.Flow.Choices
import Dialogue.Proofs.Script.Coverage

/-! The order of the steps in a script. The walk with a stack meets them as a recursive depth-first
walk does, which is done with all that lies behind a step before it goes on beside it. -/

namespace Dialogue.Script

open Relation

variable {g : Flow} {n m start : Node} {e : Edge} {id : String} {seen ids stack : List String}

structure Tour (g : Flow) (seen : List String) where
  nodes : List Node := []
  past : List String := seen
  fewer : (unseen g past).length ≤ (unseen g seen).length := by exact Nat.le_refl _

namespace Tour

def skip (id : String) (t : Tour g (id :: seen)) : Tour g seen :=
  ⟨t.nodes, t.past, t.fewer.trans (length_unseen_le g seen id)⟩

def join (n : Node) (below : Tour g (id :: seen)) (beside : Tour g below.past) : Tour g seen :=
  ⟨n :: below.nodes ++ beside.nodes, beside.past,
    beside.fewer.trans (below.fewer.trans (length_unseen_le g seen id))⟩

end Tour

def numbered (g : Flow) : Nat → List Node → List String
  | _, [] => []
  | number, n :: rest => stepLine number n :: details g n ++ numbered g (number + 1) rest

end Dialogue.Script
