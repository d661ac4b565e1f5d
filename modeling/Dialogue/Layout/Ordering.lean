import Dialogue.Layout.Digraph

/-!
Layers and the order within them. The rank of a node is the length of the longest path that ends in
it, and the nodes of one rank form a layer. Each sweep sorts every layer by the mean place of what
its members are linked to in the layer before it, which keeps crossings few; members with equal means
keep their order.
-/

namespace Dialogue.Layout

def rankAbove (ranks : List (String × Nat)) (nodes : List String) : Nat :=
  (nodes.map fun p => (ranks.lookup p).getD 0 + 1).foldl max 0

def ranksAlong (d : Digraph) (order : List String) : List (String × Nat) :=
  order.foldl (fun ranks v => (v, rankAbove ranks (d.predecessors v)) :: ranks) []

def layersOf (d : Digraph) (ranks : List (String × Nat)) : List (List String) :=
  let height := (ranks.map (·.2 + 1)).foldl max 0
  (List.range height).map fun r => d.nodes.filter fun v => ranks.lookup v = some r

def layers (d : Digraph) : List (List String) := layersOf d.acyclic (ranksAlong d.acyclic d.order)

def meanPlace (fixed linked : List String) (own : Nat) : Nat × Nat :=
  match linked.filterMap (fixed.idxOf? ·) with
  | [] => (own, 1)
  | places => (places.foldl Nat.add 0, places.length)

def notAfter (a b : Nat × Nat) : Bool := a.1 * b.2 ≤ b.1 * a.2

def sorted (neighbours : String → List String) (fixed free : List String) : List String :=
  let keyed := free.zipIdx.map fun (v, i) => (v, meanPlace fixed (neighbours v) i)
  (keyed.mergeSort fun a b => notAfter a.2 b.2).map (·.1)

def sweep (neighbours : String → List String) : List (List String) → List (List String)
  | fixed :: free :: rest => fixed :: sweep neighbours (sorted neighbours fixed free :: rest)
  | rows => rows
termination_by rows => rows.length

def sweepBoth (d : Digraph) (rows : List (List String)) : List (List String) :=
  (sweep d.successors (sweep d.predecessors rows).reverse).reverse

def sweeps : Nat := 4

def orderedLayers (d : Digraph) : List (List String) :=
  (List.range sweeps).foldl (fun rows _ => sweepBoth d.acyclic rows) (layers d)

end Dialogue.Layout
