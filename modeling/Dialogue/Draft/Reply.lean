import Dialogue.Draft.Shape
import Dialogue.Flow.Decode
import Dialogue.Json.Reader
import Dialogue.Layout.Placement
import Dialogue.Text.Fence

/-!
Reading a drafted flow from the reply of a language model. Positions in the reply do not count: the
flow is placed by level. Whether the flow is sound is not asked here. A reply counts as unreadable as
well where something in it is too deep to be told.
-/

namespace Dialogue

structure Draft where
  flow : Flow
  summary : String

namespace Draft

inductive ReplyError where
  | unreadable (e : Json.ReadError)
  | misshapen (errors : List ShapeError)
  | faulty (faults : List Schema.Fault)

def defaultSummary : String := "Flow generated successfully"

def animated : Json → Json
  | .object fs =>
    .object (if Fields.has fs "animated" then fs else fs ++ [("animated", .bool true)])
  | v => v

def summaryOf (payload : Json) : String :=
  match given? payload "summary" with
  | some v => v.plain
  | none => defaultSummary

def tooDeep? [Limits] (payload : Json) : Option Json.Pass :=
  match parts payload with
  | .error errors => errors.findSome? (·.tooDeep?)
  | .ok _ =>
    if ((given? payload "summary").getD .null).height ≤ Limits.tell then none else some .telling

def built (payload : Json) : Except ReplyError Draft :=
  match parts payload with
  | .error errors => .error (.misshapen errors)
  | .ok (nodes, edges) =>
    let stored := .object [("nodes", .list nodes), ("edges", .list (edges.map animated))]
    match Flow.ofJson stored with
    | .bad faults => .error (.faulty faults)
    | .ok g => .ok ⟨Layout.apply (Layout.byLevel .standard g) g, summaryOf payload⟩

def ofPayload [Limits] (payload : Json) : Except ReplyError Draft :=
  match tooDeep? payload with
  | some pass => .error (.unreadable (.tooDeep pass))
  | none => built payload

def ofReply [Limits] (raw : String) : Except ReplyError Draft :=
  match Json.read (Text.within Text.stripFences raw) with
  | .ok payload => ofPayload payload
  | .error e => .error (.unreadable e)

end Draft

end Dialogue
