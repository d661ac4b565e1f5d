import Dialogue.Layout.Length
import Dialogue.Layout.Ordering
import Dialogue.Text.Quoted

/-!
Placing the steps of a flow on the canvas: by level below the start, or in layers of the whole flow.
Either way a step gets a slot in a row first, and the slot fixes the coordinates. The first level is
the start alone, and each further one holds what the one before it leads to for the first time, in
the order in which it is reached; a connection to a missing step takes a place of its own.
-/

namespace Dialogue.Layout

def nextLevel (g : Flow) (seen level : List String) : List String :=
  ((level.flatMap g.successors).filter (! seen.contains ·)).eraseDups

def levelsFrom (g : Flow) : Nat → List String → List String → List (List String)
  | 0, _, _ => []
  | count + 1, seen, level =>
    if level.isEmpty then []
    else level :: levelsFrom g count (seen ++ level) (nextLevel g (seen ++ level) level)

def levels (g : Flow) : List (List String) :=
  match g.start? with
  | some n => levelsFrom g (g.edges.length + 1) [] [n.id]
  | none => []

structure Slot where
  row : Nat
  index : Nat
  size : Nat
deriving DecidableEq

def slots (rows : List (List String)) : List (String × Slot) :=
  rows.zipIdx.flatMap fun (row, r) => row.zipIdx.map fun (id, i) => (id, ⟨r, i, row.length⟩)

structure Point (α : Type) where
  x : α
  y : α
deriving DecidableEq

def Point.toPosition (p : Point Length) : Position := ⟨p.x.toFloat, p.y.toFloat⟩

section

variable {α : Type} [Extent α]

open Extent

structure LevelSpacing (α : Type) where
  x : α
  y : α
  center : α
  top : α

def levelPoint (s : LevelSpacing α) (slot : Slot) : Point α :=
  ⟨s.center - half (ofNat (slot.size - 1) * s.x) + ofNat slot.index * s.x,
    s.top + ofNat slot.row * s.y⟩

def boxSide : Nat := 100

def margin : Nat := 50

structure LayerSpacing (α : Type) where
  node : α
  rank : α

inductive Direction where
  | topToBottom
  | leftToRight
deriving DecidableEq

def layerPoint (direction : Direction) (s : LayerSpacing α) (widest : Nat) (slot : Slot) :
    Point α :=
  let step := ofNat boxSide + s.node
  let across := ofNat margin + half (ofNat (widest - slot.size) * step) + ofNat slot.index * step
  let along := ofNat margin + ofNat slot.row * (ofNat boxSide + s.rank)
  match direction with
  | .topToBottom => ⟨across, along⟩
  | .leftToRight => ⟨along, across⟩

end

namespace Direction

def name : Direction → String
  | topToBottom => "TB"
  | leftToRight => "LR"

def ofName? (s : String) : Option Direction := [topToBottom, leftToRight].find? (·.name = s)

def unknown (name : String) : String := "Unknown layout direction: " ++ Text.quotedText name

end Direction

def LevelSpacing.standard : LevelSpacing Length := ⟨.whole 200, .whole 140, .whole 300, .whole 50⟩

def LayerSpacing.standard : Direction → LayerSpacing Length
  | .topToBottom => ⟨.whole 100, .whole 130⟩
  | .leftToRight => ⟨.whole 80, .whole 180⟩

abbrev Positions := List (String × Position)

def current (g : Flow) : Positions :=
  (g.nodes.map (·.id)).eraseDups.map fun id =>
    (id, ((g.nodes.reverse.find? (·.id = id)).map (·.position)).getD .origin)

def byLevel (s : LevelSpacing Length) (g : Flow) : Positions :=
  let placed := slots (levels g)
  (current g).map fun (id, p) => (id, match placed.lookup id with
    | some slot => (levelPoint s slot).toPosition
    | none => p)

def byLayer (direction : Direction) (s : LayerSpacing Length) (g : Flow) : Positions :=
  let rows := orderedLayers (.ofFlow g)
  let widest := (rows.map (·.length)).foldl max 0
  (slots rows).map fun (id, slot) => (id, (layerPoint direction s widest slot).toPosition)

def apply (positions : Positions) (g : Flow) : Flow :=
  { g with nodes := g.nodes.map fun n => match positions.lookup n.id with
      | some p => { n with position := p }
      | none => n }

end Dialogue.Layout
