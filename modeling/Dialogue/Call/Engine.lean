import Dialogue.Call.Handling
import Dialogue.Decimal.Read

/-!
Tracking a live call. All inputs pass one queue and are applied one after another; work that they
start begins when the queue is empty and reports back through the queue. Helpers that answer at once
report in the order of their start, completions without delay after them; the others wait to be
answered from outside, and delayed completions for their time.
-/

namespace Dialogue.Call

inductive Answer (α : Type) where
  | now (a : α)
  | later

structure Surroundings where
  stamp : Stamp
  startDelay : Float
  endDelay : Float
  refuses : ViewOp → Bool
  classify : String → List String → Answer (Option String)
  lookup : Option (Nat → Lookup → Option String → Answer Lookup.Result)
  injects : Bool

def Surroundings.helpers (u : Surroundings) : Helpers := ⟨u.lookup.isSome, u.injects⟩

structure Timer where
  due : Micros
  input : Input

structure Pending (α : Type) where
  number : Nat
  report : α → Input

structure Engine where
  flow : Flow
  surroundings : Surroundings
  tracker : Tracker := {}
  queue : List Input := []
  running : Bool := false
  now : Micros := 0
  timers : List Timer := []
  classifying : List (Pending (Option String)) := []
  lookingUp : List (Pending Lookup.Result) := []
  asked : List (String × List String) := []
  lookedUp : List (Lookup × Option String) := []
  injected : List (String × String) := []

namespace Engine

def state (e : Engine) : State := e.tracker.state

def applyOne (e : Engine) (i : Input) : Engine × List Work :=
  let (tracker, works) := carryOut e.surroundings.stamp e.surroundings.refuses
    (changes e.flow e.surroundings.helpers e.tracker i) e.tracker
  ({ e with tracker := tracker }, works)

def applyAll (e : Engine) : List Input → Engine × List Work
  | [] => (e, [])
  | i :: rest =>
    let (e, works) := e.applyOne i
    let (e, more) := e.applyAll rest
    (e, works ++ more)

def push (e : Engine) (i : Input) : Engine := { e with queue := e.queue ++ [i] }

def delay (e : Engine) (isEnding : Bool) : Float :=
  if isEnding then e.surroundings.endDelay else e.surroundings.startDelay

def begin (e : Engine) (w : Work) : Engine :=
  match w with
  | .completion epoch node clears isEnding =>
    if e.delay isEnding > 0.0 then
      { e with timers := e.timers ++
          [⟨e.now.after (e.delay isEnding), .completed epoch node clears⟩] }
    else e
  | .classification epoch ticket branch utterance candidates =>
    let report := Input.classified epoch ticket branch
    let e := { e with asked := e.asked ++ [(utterance, candidates)] }
    match e.surroundings.classify utterance candidates with
    | .now intent => e.push (report intent)
    | .later => { e with classifying := e.classifying ++ [⟨e.asked.length - 1, report⟩] }
  | .lookup epoch node spec phone =>
    let number := e.lookedUp.length
    let report := Input.lookedUp epoch node
    let e := { e with lookedUp := e.lookedUp ++ [(spec, phone)] }
    match e.surroundings.lookup with
    | none => e
    | some ask =>
      match ask number spec phone with
      | .now result => e.push (report result)
      | .later => { e with lookingUp := e.lookingUp ++ [⟨number, report⟩] }
  | .injection handle context => { e with injected := e.injected ++ [(handle, context)] }

def finish (e : Engine) (w : Work) : Engine :=
  match w with
  | .completion epoch node clears isEnding =>
    if e.delay isEnding > 0.0 then e else e.push (.completed epoch node clears)
  | _ => e

def round (e : Engine) : Engine :=
  let (e, works) := { e with queue := [] }.applyAll e.queue
  works.foldl finish (works.foldl begin e)

/-- Everything that can happen at this moment. Reports start no work but injections, and those
report nothing, so two rounds are enough. -/
def settle (e : Engine) : Engine := if e.running then e.round.round else e

def submit (e : Engine) (events : List Event) : Engine :=
  settle { e with queue := e.queue ++ events.map .event }

def start (e : Engine) : Engine := settle { e with running := true }

def stop (e : Engine) : Engine :=
  { e with running := false, timers := [], classifying := [], lookingUp := [] }

def earliest : List Timer → Option Timer
  | [] => none
  | t :: rest => match earliest rest with
    | some u => if u.due < t.due then some u else some t
    | none => some t

def withoutFirst (due : Micros) : List Timer → List Timer
  | [] => []
  | t :: rest => if t.due = due then rest else t :: withoutFirst due rest

def fire (e : Engine) (t : Timer) : Engine :=
  settle { e with
    now := max e.now t.due, timers := withoutFirst t.due e.timers, queue := e.queue ++ [t.input] }

def fireDue (limit : Option Micros) : Nat → Engine → Engine
  | 0, e => e
  | count + 1, e =>
    match earliest e.timers with
    | none => e
    | some t => if limit.any (· < t.due) then e else fireDue limit count (e.fire t)

def advanceTo (e : Engine) (moment : Micros) : Engine :=
  { fireDue (some moment) e.timers.length e with now := moment }

def drain (e : Engine) : Engine := fireDue none e.timers.length e

def removeNumber {α : Type} (number : Nat) (ps : List (Pending α)) : List (Pending α) :=
  ps.filter (·.number ≠ number)

def answerClassification (e : Engine) (number : Nat) (intent : Option String) : Engine × Bool :=
  match e.classifying.find? (·.number = number) with
  | none => (e, false)
  | some p =>
    (settle ({ e with classifying := removeNumber number e.classifying }.push (p.report intent)),
      true)

def answerLookup (e : Engine) (number : Nat) (result : Lookup.Result) : Engine × Bool :=
  match e.lookingUp.find? (·.number = number) with
  | none => (e, false)
  | some p =>
    (settle ({ e with lookingUp := removeNumber number e.lookingUp }.push (p.report result)), true)

def snapshot (callId : Option String) (showView : Bool) (e : Engine) : Json :=
  .object (("call_id", .ofText? callId) :: e.state.fields ++
    if showView then [("view", e.tracker.view.toJson)] else [])

def notRunning : String := "Traversal engine is not running; call start() first"

end Engine

end Dialogue.Call
