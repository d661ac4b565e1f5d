import Dialogue.Json.Plain
import Dialogue.Json.Writer
import Dialogue.Limits

/-!
The shape of a drafted flow: lists of nodes and edges in which everything has an id, nodes a type and
a label, and edges both ends. What is wrong with the shape is told item by item, and an item may be
too deep for it.
-/

namespace Dialogue.Draft

inductive ShapeError where
  | notObject
  | noNodes
  | noEdges
  | badNode (node : Json)
  | noLabel (id : Json)
  | badEdge (edge : Json)

def ShapeError.message : ShapeError → String
  | notObject => "Reply is not a JSON object"
  | noNodes => "Missing or invalid nodes array"
  | noEdges => "Missing or invalid edges array"
  | badNode node => "Invalid node structure: " ++ node.write Json.spaced
  | noLabel id => "Missing label for node " ++ id.plain
  | badEdge edge => "Invalid edge structure: " ++ edge.write Json.spaced

def ShapeError.tooDeep? [Limits] : ShapeError → Option Json.Pass
  | badNode v | badEdge v => if v.nesting ≤ Limits.write then none else some .writing
  | noLabel id => if id.height ≤ Limits.tell then none else some .telling
  | notObject | noNodes | noEdges => none

def given? (v : Json) (key : String) : Option Json := (v.get? key).filter Json.counts

def nodeError? (node : Json) : Option ShapeError :=
  match given? node "id", given? node "type" with
  | some id, some _ =>
    if (((node.get? "data").bind (given? · "label")).isSome) then none else some (.noLabel id)
  | _, _ => some (.badNode node)

def edgeError? (edge : Json) : Option ShapeError :=
  if ["id", "source", "target"].all fun key => (given? edge key).isSome then none
  else some (.badEdge edge)

def parts (payload : Json) : Except (List ShapeError) (List Json × List Json) :=
  match payload with
  | .object fs =>
    match Fields.get? fs "nodes", Fields.get? fs "edges" with
    | some (.list nodes), some (.list edges) =>
      match nodes.filterMap nodeError? ++ edges.filterMap edgeError? with
      | [] => .ok (nodes, edges)
      | errors => .error errors
    | some (.list _), _ => .error [.noEdges]
    | _, some (.list _) => .error [.noNodes]
    | _, _ => .error [.noNodes, .noEdges]
  | _ => .error [.notObject]

def shapeErrors (payload : Json) : List ShapeError :=
  match parts payload with
  | .ok _ => []
  | .error errors => errors

end Dialogue.Draft
