import Dialogue.Flow.Basic

/-!
The digraph that a flow draws between its steps, and its form without cycles. A depth-first walk
starts at the start step; the arcs that lead back into its open path are turned around, and then all
arcs lead from a step that finishes later to one that finishes earlier.
-/

namespace Dialogue.Layout

structure Digraph where
  nodes : List String
  arcs : List (String × String)

namespace Digraph

def successors (d : Digraph) (u : String) : List String := (d.arcs.filter (·.1 = u)).map (·.2)

def predecessors (d : Digraph) (v : String) : List String := (d.arcs.filter (·.2 = v)).map (·.1)

def ofFlow (g : Flow) : Digraph :=
  let nodes := (g.start?.toList.map (·.id) ++ g.nodes.map (·.id)).eraseDups
  let drawn := g.edges.map fun e => (e.source, e.target)
  ⟨nodes, (drawn.filter fun (u, v) => nodes.contains u && nodes.contains v && u != v).eraseDups⟩

end Digraph

structure Frame where
  node : String
  rest : List String

structure Walk where
  roots : List String
  path : List Frame := []
  seen : List String := []
  finished : List String := []
  back : List (String × String) := []

namespace Walk

def isOpen (w : Walk) (v : String) : Bool := w.path.any (·.node = v)

def enter (d : Digraph) (v : String) (w : Walk) : Walk :=
  { w with path := ⟨v, d.successors v⟩ :: w.path, seen := v :: w.seen }

def step (d : Digraph) (w : Walk) : Walk :=
  match w.path, w.roots with
  | ⟨u, v :: rest⟩ :: below, _ =>
    let w := { w with path := ⟨u, rest⟩ :: below }
    if !w.seen.contains v then w.enter d v
    else if w.isOpen v then { w with back := w.back ++ [(u, v)] }
    else w
  | ⟨u, []⟩ :: below, _ => { w with path := below, finished := u :: w.finished }
  | [], r :: rest =>
    let w := { w with roots := rest }
    if w.seen.contains r then w else w.enter d r
  | [], [] => w

def run (d : Digraph) : Nat → Walk → Walk
  | 0, w => w
  | count + 1, w => run d count (w.step d)

end Walk

namespace Digraph

def walk (d : Digraph) : Walk := Walk.run d (2 * d.nodes.length + d.arcs.length) ⟨d.nodes, [], [], [], []⟩

def turned (d : Digraph) (back : List (String × String)) : Digraph :=
  { d with arcs := (d.arcs.map fun a => if back.contains a then a.swap else a).eraseDups }

def acyclic (d : Digraph) : Digraph := d.turned d.walk.back

def order (d : Digraph) : List String := d.walk.finished

end Digraph

end Dialogue.Layout
