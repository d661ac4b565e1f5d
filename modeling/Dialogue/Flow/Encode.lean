import Dialogue.Flow.Basic
import Dialogue.Limits

/-!
The stored form of a flow. Declared fields come first and extras after them in their own order;
what is absent or null is left out. Values kept as given lose their infinities, which become null,
and one of them that the store does not take keeps the whole flow from being stored.
-/

namespace Dialogue

namespace Fields

def present (fs : List (String × Option Json)) : Fields :=
  fs.filterMap fun (k, v?) => v?.map (k, ·)

def stored (fs : Fields) : Fields := Json.finiteFields (fs.filter (! ·.2.isNull))

def kept (fs : Fields) : List Json := fs.stored.map Prod.snd

end Fields

namespace Position

def toJson (p : Position) : Json := .object [("x", .real p.x), ("y", .real p.y)]

end Position

namespace Lookup

def headerJson (h : Header) : Json := .object [("key", .text h.key), ("value", .text h.value)]

def mappingJson (m : Mapping) : Json :=
  .object [("path", .text m.path), ("label", .text m.label), ("enabled", .bool m.enabled)]

def toJson (l : Lookup) : Json :=
  .object (Fields.present
    [("endpoint", some (.text l.endpoint)), ("method", some (.text "GET")),
      ("headers", some (.list (l.headers.map headerJson))),
      ("responseMapping", some (.list (l.mappings.map mappingJson))),
      ("testPhone", l.testPhone.map .text), ("lastTestResponse", l.lastResponse.map Json.finite)])

def kept (l : Lookup) : List Json := (l.lastResponse.map Json.finite).toList

end Lookup

namespace Content

def fields : Content → List (String × Option Json)
  | start => []
  | message spoken => [("content", spoken.map .text)]
  | listen intents => [("intents", some (.ofTexts intents))]
  | branch => []
  | action spoken actionType lookup =>
    [("content", spoken.map .text), ("actionType", actionType.map .text),
      ("apiConfig", lookup.map Lookup.toJson)]
  | transfer number => [("transferNumber", number.map .text)]
  | ending farewell spoken => [("endMessage", farewell.map .text), ("content", spoken.map .text)]

def kept : Content → List Json
  | action _ _ (some lookup) => lookup.kept
  | _ => []

end Content

namespace Node

def dataJson (d : NodeData) : Json :=
  .object (("label", .text d.label) :: Fields.present d.content.fields ++ d.extras.stored)

def toJson (n : Node) : Json :=
  .object ([("id", .text n.id), ("type", .text n.kind.name), ("position", n.position.toJson),
    ("data", dataJson n.data)] ++ n.extras.stored)

def kept (n : Node) : List Json := n.data.content.kept ++ n.data.extras.kept ++ n.extras.kept

end Node

namespace Edge

def toJson (e : Edge) : Json :=
  .object ([("id", .text e.id), ("source", .text e.source), ("target", .text e.target)] ++
    Fields.present [("label", e.label.map .text)] ++ e.extras.stored)

end Edge

namespace Flow

def toJson (g : Flow) : Json :=
  .object [("nodes", .list (g.nodes.map Node.toJson)), ("edges", .list (g.edges.map Edge.toJson))]

/-- The values kept as given, in the form in which they are stored. -/
def kept (g : Flow) : List Json :=
  g.nodes.flatMap Node.kept ++ g.edges.flatMap (·.extras.kept)

def payload [Limits] (g : Flow) : Except String Json :=
  if g.kept.all Limits.stores then .ok g.toJson
  else .error "Circular reference detected (depth exceeded)"

end Flow

end Dialogue
