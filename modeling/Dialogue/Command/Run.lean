import Dialogue.Command.Usage
import Dialogue.Draft.Generation
import Dialogue.Flow.Encode
import Dialogue.Flow.Template
import Dialogue.Layout.Animation
import Dialogue.Log
import Dialogue.Script
import Dialogue.Session.Manager

/-!
Carrying out a command. Files are read as text with one kind of line end; everything that a command
shows, prints and writes is collected in its report, which is kept when the command fails. What it
shows are styled lines, tables and panels.
-/

namespace Dialogue

variable [Limits]

namespace Command

inductive Item where
  | line (style text : String)
  | table (title : String) (columns : List String) (rows : List (List String))
  | panel (title text : String)

def markup (style text : String) : String := "[" ++ style ++ "]" ++ text ++ "[/" ++ style ++ "]"

def numbered (rows : List (List String)) : List (List String) :=
  rows.zipIdx.map fun (row, i) => toString (i + 1) :: row

def orDash (s : String) : String := if s.isEmpty then "-" else s

structure Tools where
  file? : String → Option String
  canWrite : String → Bool
  settings : Settings
  reach : Session.Reach
  drafter : Option Backend

structure Report where
  shown : List Item := []
  printed : String := ""
  written : List (String × String) := []

inductive Failure where
  | noFile
  | unreadable (e : Json.ReadError)
  | faulty (faults : List Schema.Fault)
  | noEvent (e : Call.EventError)
  | unknownLevel

structure Outcome where
  report : Report
  exit : Except Failure Nat

namespace Report

def add (r : Report) (i : Item) : Report := { r with shown := r.shown ++ [i] }

def addAll (r : Report) (is : List Item) : Report := { r with shown := r.shown ++ is }

end Report

def done (r : Report) (code : Nat) : Outcome := ⟨r, .ok code⟩

def failed (r : Report) (f : Failure) : Outcome := ⟨r, .error f⟩

def whenRead {α : Type} (a : Except Failure α) (k : α → Outcome) : Outcome :=
  match a with
  | .ok a => k a
  | .error f => failed {} f

def text (t : Tools) (path : String) : Except Failure String :=
  match t.file? path with
  | some s => .ok (Text.within Text.unifyLineEnds s)
  | none => .error .noFile

def json (s : String) : Except Failure Json :=
  match Json.read s with
  | .ok v => .ok v
  | .error e => .error (.unreadable e)

def flow (t : Tools) (path : String) : Except Failure Flow := do
  match Flow.ofJson (← json (← text t path)) with
  | .ok g => return g
  | .bad faults => throw (.faulty faults)

def eventLog (t : Tools) (path : String) : Except Failure (List Json) := do
  let lines := (Text.lines (← text t path).toList).filter (! ·.all Text.isBlank)
  lines.mapM fun line => json (String.ofList line)

def event (raw : Json) : Except Failure Call.Event :=
  match Call.Event.ofJson raw with
  | .ok e => .ok e
  | .error (.faults fs) => .error (.faulty fs)
  | .error e => .error (.noEvent e)

def deliver (t : Tools) (output : Option String) (payload : String) (r : Report) : Outcome :=
  match output.filter (! ·.isEmpty) with
  | none => done { r with printed := r.printed ++ payload ++ "\n" } 0
  | some path =>
    if t.canWrite path then
      done ({ r with written := r.written ++ [(path, payload)] }.add
        (.line "green" ("Wrote " ++ path))) 0
    else failed r .noFile

def deliverFlow (t : Tools) (output : Option String) (g : Flow) (r : Report) : Outcome :=
  match g.payload with
  | .ok v => deliver t output v.indented r
  | .error _ => done r 1

def validated (g : Flow) : Outcome :=
  if g.isSound then done (({} : Report).add (.line "green" "Flow is valid")) 0
  else
    done (({} : Report).add
      (.table "Validation errors" ["#", "Error"] (numbered (g.errors.map fun e => [e])))) 1

def bullet (error : String) : Item := .line "red" ("- " ++ error)

def compiled (t : Tools) (unchecked : Bool) (output : Option String) (g : Flow) : Outcome :=
  if unchecked then deliver t output (Script.compile g) {}
  else match Script.publish g with
    | .ok s => deliver t output s {}
    | .error errors => done (({} : Report).addAll (errors.map bullet)) 1

def placed (mode : LayoutMode) (g : Flow) : Layout.Positions :=
  match mode with
  | .byLevel => Layout.byLevel .standard g
  | .byLayer direction => Layout.byLayer direction (.standard direction) g

def laidOut (t : Tools) (mode : LayoutMode) (animate : Bool) (output : Option String) (g : Flow) :
    Outcome :=
  let positions := placed mode g
  let way : Layout.Animation := { start := Layout.current g, target := positions }
  let shown : List Item :=
    if animate then
      [.line "dim" ("Animated " ++ toString (way.frames none).length ++ " frames")]
    else []
  deliverFlow t output (Layout.apply positions g) (({} : Report).addAll shown)

def replayed (t : Tools) (realtime : Bool) (g : Flow) (events : List Call.Event) : Call.Engine :=
  let settings := if realtime then t.settings else t.settings.withoutDelays
  let start : Call.Engine :=
    { flow := g, surroundings := Session.surroundings settings t.reach, running := true }
  events.foldl (fun e event => (e.submit [event]).drain) start

def opRow (op : Call.ViewOp) : List String := [op.name, orDash (op.node?.getD "")]

def finalState (s : Call.State) : String :=
  let visited := s.visited.mergeSort fun a b => decide (a ≤ b)
  "Visited: " ++ orDash (", ".intercalate visited) ++ "\nCurrent: " ++ orDash (s.current.getD "") ++
    "\nActive: " ++ (Json.bool s.isActive).plain

def replayReport (e : Call.Engine) : Report :=
  ({} : Report).addAll [
    .table "View operations" ["#", "Op", "Node"] (numbered (e.tracker.view.ops.map opRow)),
    .panel "Final state" (finalState e.state)]

def generated (t : Tools) (description : String) (output : Option String) : Outcome :=
  match t.drafter with
  | none => done (({} : Report).add (.line "red" "Set OPENAI_API_KEY to generate flows")) 1
  | some _ => match (Draft.generate t.drafter description).outcome with
    | .error e => failed {} (.unreadable e)
    | .ok ⟨true, some d, _, _⟩ =>
      deliverFlow t output d.flow (({} : Report).add (.panel "Generated flow"
        (d.summary ++ "\nNodes: " ++ toString d.flow.nodes.length ++ "  Edges: " ++
          toString d.flow.edges.length)))
    | .ok r =>
      done (({} : Report).addAll (.line "red" (r.failure.getD "") :: r.errors.map bullet)) 1

def run (t : Tools) : Command → Outcome
  | validate path => whenRead (flow t path) validated
  | compile path unchecked output => whenRead (flow t path) (compiled t unchecked output)
  | layout path mode animate output => whenRead (flow t path) (laidOut t mode animate output)
  | replay path log realtime =>
    whenRead (flow t path) fun g => whenRead (eventLog t log) fun raws =>
      whenRead (raws.mapM event) fun events => done (replayReport (replayed t realtime g events)) 0
  | generate description output => generated t description output
  | template fresh output =>
    deliverFlow t output (if fresh then Flow.minimal else Flow.initial) {}

def inputs : Command → List String
  | validate path | compile path _ _ | layout path _ _ _ => [path]
  | replay path log _ => [path, log]
  | generate _ _ | template _ _ => []

end Command

def Invocation.run (i : Invocation) (t : Command.Tools) : Command.Outcome :=
  let asked := (i.logLevel.filter (! ·.isEmpty)).getD t.settings.logLevel
  match Log.Level.chosen (some asked) none with
  | none => Command.failed {} .unknownLevel
  | some _ => i.command.run t

instance : Limits := .usual

end Dialogue
