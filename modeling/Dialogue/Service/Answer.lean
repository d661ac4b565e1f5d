import Dialogue.Draft.Generation
import Dialogue.Flow.Encode
import Dialogue.Flow.Template
import Dialogue.Schema.Fault
import Dialogue.Script
import Dialogue.Service.Route
import Dialogue.Session.Manager

/-!
What the service answers. Flows are checked, compiled and placed as they come; calls are kept between
requests.
-/

namespace Dialogue

structure Service where
  calls : Session.Manager
  drafter : Option Backend

namespace Service

open Schema

variable [Limits]

def faulty (fs : List Fault) : Response := .problem 422 (report fs)

def checked {α : Type} (c : Checked α) (k : α → Response) : Response :=
  match c with
  | .ok a => k a
  | .bad fs => faulty fs

def unreadable : Json.ReadError → Response
  | .malformed position => faulty [⟨[.name "body", .index position], .brokenBody⟩]
  | _ => .problem 400 (.text "There was an error parsing the body")

def broken : Response := ⟨500, .text "Internal Server Error"⟩

def stored (g : Flow) (k : Json → Json) : Response :=
  match g.payload with
  | .ok v => .ok (k v)
  | .error _ => broken

def template (r : Request) : Response :=
  checked (r.param "fresh" false boolean) fun fresh =>
    stored (if fresh then Flow.minimal else Flow.initial) id

def validated (g : Flow) : Response :=
  .ok (.object [("valid", .bool g.isSound), ("errors", .ofTexts g.errors)])

def compiled (g : Flow) : Response :=
  match Script.publish g with
  | .ok s => .ok (.object [("prompt", .text s)])
  | .error errors => .problem 422 (.object [("errors", .ofTexts errors)])

def placed (mode direction : String) (g : Flow) : Response :=
  let direction := (Layout.Direction.ofName? direction).getD .topToBottom
  let positions :=
    if mode = "initial" then Layout.byLevel .standard g
    else Layout.byLayer direction (.standard direction) g
  stored (Layout.apply positions g) id

def layout (r : Request) (body : Option Json) : Response :=
  checked (placed <$> r.param "mode" "rearrange" (among ["initial", "rearrange"]) <*>
    r.param "direction" "TB" (among ["TB", "LR"]) <*> Request.decoded Flow.ofJson body) id

def description : Decoder String
  | .text s =>
    if s.isEmpty then .fail .tooShort else if 4000 < s.length then .fail .tooLong else .ok s
  | _ => .fail .notText

def drafted : Draft.Generation → Response
  | ⟨true, some d, _, _⟩ =>
    stored d.flow fun v => .object [("graph", v), ("summary", .text d.summary)]
  | r => .problem 502 (.object [("error", .ofText? r.failure), ("errors", .ofTexts r.errors)])

def generate (drafter : Option Backend) (wish : String) : Response :=
  match drafter with
  | none => .problem 503 (.text "Flow generation is not configured")
  | some _ => match (Draft.generate drafter wish).outcome with
    | .ok r => drafted r
    | .error _ => broken

def noSession : Response := .problem 404 (.text "Call session not found")

def openCall (s : Service) (id : String) (g : Flow) : Response × Service :=
  let (state, calls) := s.calls.openCall id g
  (⟨201, .json state⟩, { s with calls := calls })

def postEvent (s : Service) (id : String) (event : Json) : Response × Service :=
  match s.calls.submit id event with
  | .ok calls => (⟨202, .json (.object [("accepted", .bool true)])⟩, { s with calls := calls })
  | .error (.unknown _) => (noSession, s)
  | .error (.noEvent (.faults fs)) => (faulty fs, s)
  | .error (.noEvent e) => (.problem 422 (.text e.message), s)

def closeCall (s : Service) (id : String) : Response × Service :=
  match s.calls.close id with
  | some (state, calls) => (.ok state, { s with calls := calls })
  | none => (noSession, s)

def withBody {α : Type} (s : Service) (d : Decoder α) (body : Option Json)
    (k : α → Response × Service) : Response × Service :=
  match Request.decoded d body with
  | .ok a => k a
  | .bad fs => (faulty fs, s)

def dictionary : Decoder Json
  | .object fs => .ok (.object fs)
  | _ => .fail .notDictionary

def answerWith (s : Service) (r : Request) (body : Option Json) : Endpoint → Response × Service
  | .health => (⟨200, .text "ok"⟩, s)
  | .template => (template r, s)
  | .validate => s.withBody Flow.ofJson body fun g => (validated g, s)
  | .compile => s.withBody Flow.ofJson body fun g => (compiled g, s)
  | .layout => (layout r body, s)
  | .generate =>
    s.withBody (record "GenerateFlowRequest" fun fs => required (.plain "description") description fs)
      body fun wish => (generate s.drafter wish, s)
  | .openCall id => s.withBody Flow.ofJson body (s.openCall id)
  | .getCall id => (((s.calls.state? id).map .ok).getD noSession, s)
  | .closeCall id => s.closeCall id
  | .postEvent id => s.withBody dictionary body (s.postEvent id)

def readsBody : Endpoint → Bool
  | .health | .template | .getCall _ | .closeCall _ => false
  | _ => true

def answer (s : Service) (r : Request) : Response × Service :=
  match target r.method r.path with
  | .unknown => (.problem 404 (.text "Not Found"), s)
  | .notAllowed => (.problem 405 (.text "Method Not Allowed"), s)
  | .elsewhere => (⟨307, .text ""⟩, s)
  | .found e =>
    if readsBody e then
      match r.value? with
      | .ok body => s.answerWith r body e
      | .error e => (unreadable e, s)
    else s.answerWith r none e

end Service

end Dialogue
