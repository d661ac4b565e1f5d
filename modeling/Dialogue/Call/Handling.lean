import Dialogue.Call.Change
import Dialogue.Intent.Routing
import Dialogue.Marker

/-!
What each input does to a call: platform events, and the reports of work started earlier. A report
of an earlier call, or of a classification that has been overtaken, does nothing.
-/

namespace Dialogue.Call

inductive Input where
  | event (e : Event)
  | completed (epoch : Nat) (node : String) (clears : Bool)
  | classified (epoch ticket : Nat) (branch : String) (intent : Option String)
  | lookedUp (epoch : Nat) (node : String) (result : Lookup.Result)

structure Helpers where
  looksUp : Bool
  injects : Bool

def kindOf (g : Flow) (id : String) : Option Kind := (g.node? id).map (·.kind)

def arrive (g : Flow) (s : State) (node : String) : List Change :=
  .moveTo node ::
    if kindOf g node = some .ending then [.spawn (.completion s.epoch node false true)] else []

def onCallStart (g : Flow) (s : State) (payload : Fields) : List Change :=
  [.begin (Event.phone payload) (Event.handle payload), .resetView] ++
    match g.start? with
    | some n => [.moveTo n.id, .spawn (.completion (s.epoch + 1) n.id false false)]
    | none => []

def onFailure : List Change := [.resetView, .fail]

def onSpeechStart (g : Flow) (s : State) : List Change :=
  match s.current with
  | none => []
  | some id =>
    if s.isClassifying && kindOf g id = some .branch then []
    else if kindOf g id = some .start || s.isVisited id then
      match g.next? id with
      | some next => if s.isVisited next then [] else [.complete id, .moveTo next]
      | none => []
    else [.highlight (some id)]

def lookupWork (helpers : Helpers) (s : State) (n : Node) : List Change :=
  match n.content with
  | .action _ _ (some spec) =>
    if spec.endpoint.isEmpty || !helpers.looksUp then []
    else [.spawn (.lookup s.epoch n.id spec s.phone)]
  | _ => []

def onSpeechEnd (g : Flow) (helpers : Helpers) (s : State) : List Change :=
  match s.current with
  | none => []
  | some id =>
    .complete id ::
      match g.node? id with
      | none => []
      | some n =>
        if n.kind = .message || n.kind = .action then
          lookupWork helpers s n ++
            match (g.next? id).bind g.node? with
            | some next => if (s.visit id).isVisited next.id then [] else arrive g s next.id
            | none => []
        else []

def classify (g : Flow) (t : Tracker) (branch utterance : String) : List Change :=
  match g.candidates branch with
  | [] => []
  | candidates =>
    [.awaitTicket (t.tickets + 1),
      .spawn (.classification t.state.epoch (t.tickets + 1) branch utterance candidates)]

def onMarker (g : Flow) (s : State) (marked : String) : List Change :=
  (match s.current with
    | some previous =>
      if previous = marked then []
      else [.complete previous, .remember none] ++ if s.isClassifying then [.forgetTicket] else []
    | none => []) ++ arrive g s marked

def onUnmarked (g : Flow) (s : State) : List Change :=
  match s.current with
  | none => []
  | some id =>
    match kindOf g id with
    | some .start =>
      if s.isVisited id then []
      else match g.next? id with
        | some next => [.complete id, .moveTo next]
        | none => []
    | some .branch =>
      match s.intent with
      | none => []
      | some intent =>
        if intent.isEmpty then []
        else match g.matchEdge id intent with
          | some e => [.complete id, .moveTo e.target, .remember none]
          | none => [.remember none]
    | _ => []

def markedStep (g : Flow) (transcript : String) : Option String :=
  (Marker.parseText transcript).filter fun id => (g.node? id).isSome

def onAssistant (g : Flow) (s : State) (transcript : String) : List Change :=
  match markedStep g transcript with
  | some marked => onMarker g s marked
  | none => onUnmarked g s

def onUser (g : Flow) (t : Tracker) (transcript : String) : List Change :=
  match t.state.current with
  | none => []
  | some id =>
    match kindOf g id with
    | some .listen =>
      .complete id ::
        match (g.next? id).bind g.node? with
        | some next =>
          .moveTo next.id :: if next.kind = .branch then classify g t next.id transcript else []
        | none => []
    | some .branch => classify g t id transcript
    | _ => []

def onMessage (g : Flow) (t : Tracker) (role : Role) (transcript : String) : List Change :=
  let shown := Marker.eraseText transcript
  (if shown.isEmpty then [] else [.record role.name shown]) ++
    if transcript.isEmpty then []
    else match role with
      | .assistant => onAssistant g t.state transcript
      | .user => onUser g t transcript
      | .system => []

def onCallEnd (g : Flow) (s : State) : List Change :=
  let done := match s.current with
    | some id => s.visit id
    | none => s
  (s.current.toList.map .complete) ++
    (match g.ending? with
      | some n =>
        if done.isVisited n.id then [.highlight none]
        else [.highlight (some n.id), .spawn (.completion s.epoch n.id true true)]
      | none => [.highlight none]) ++
    [.hangUp]

def onEvent (g : Flow) (helpers : Helpers) (t : Tracker) : Event → List Change
  | .callStart payload => onCallStart g t.state payload
  | .failure _ => onFailure
  | e =>
    if !t.state.isActive then []
    else match e with
      | .speechStart => onSpeechStart g t.state
      | .speechEnd => onSpeechEnd g helpers t.state
      | .message role transcript => onMessage g t role transcript
      | .callEnd => onCallEnd g t.state
      | _ => []

def onCompleted (s : State) (epoch : Nat) (node : String) (clears : Bool) : List Change :=
  if epoch ≠ s.epoch then []
  else .complete node :: if clears && s.current.isNone then [.highlight none] else []

def onClassified (g : Flow) (s : State) (epoch ticket : Nat) (branch : String)
    (intent : Option String) : List Change :=
  if epoch ≠ s.epoch || !s.isActive || s.ticket ≠ some ticket then []
  else
    .forgetTicket ::
      if s.current ≠ some branch then []
      else match intent with
        | none => []
        | some intent =>
          .remember (some intent) ::
            match g.matchEdge branch intent with
            | some e => [.complete branch, .moveTo e.target, .remember none]
            | none => []

def onLookedUp (helpers : Helpers) (s : State) (epoch : Nat) (result : Lookup.Result) :
    List Change :=
  if epoch ≠ s.epoch || !result.success || result.context.isEmpty || !helpers.injects then []
  else match s.handle with
    | some handle => [.spawn (.injection handle result.context)]
    | none => []

def changes (g : Flow) (helpers : Helpers) (t : Tracker) : Input → List Change
  | .event e => onEvent g helpers t e
  | .completed epoch node clears => onCompleted t.state epoch node clears
  | .classified epoch ticket branch intent => onClassified g t.state epoch ticket branch intent
  | .lookedUp epoch _ result => onLookedUp helpers t.state epoch result

end Dialogue.Call
