import Dialogue.Call.View
import Dialogue.Lookup.Exchange

/-!
Changes of a tracked call, and the work that they start. A change is carried out on the state first
and then shown; a view that refuses to show it ends the list of changes there, with the state as it
then is.
-/

namespace Dialogue.Call

inductive Work where
  | completion (epoch : Nat) (node : String) (clears : Bool) (isEnding : Bool)
  | classification (epoch ticket : Nat) (branch utterance : String) (candidates : List String)
  | lookup (epoch : Nat) (node : String) (spec : Lookup) (phone : Option String)
  | injection (handle context : String)

inductive Change where
  | begin (phone handle : Option String)
  | fail
  | hangUp
  | complete (node : String)
  | moveTo (node : String)
  | highlight (node : Option String)
  | resetView
  | record (role content : String)
  | remember (intent : Option String)
  | awaitTicket (ticket : Nat)
  | forgetTicket
  | spawn (work : Work)

structure Tracker where
  state : State := {}
  view : View := {}
  tickets : Nat := 0

namespace Change

def op? (s : State) : Change → Option ViewOp
  | complete node => if s.isVisited node then none else some (.complete node)
  | moveTo node => some (.highlight (some node))
  | highlight node => some (.highlight node)
  | resetView => some .reset
  | _ => none

def work? : Change → Option Work
  | spawn w => some w
  | _ => none

def onState (stamp : Stamp) (s : State) : Change → State
  | begin phone handle =>
    { epoch := s.epoch + 1, isActive := true, phone := phone, handle := handle,
      started := some stamp }
  | fail => { epoch := s.epoch + 1, ended := some stamp }
  | hangUp =>
    { s.withoutClassification with
      isActive := false, intent := none, current := none, ended := some stamp }
  | complete node => s.visit node
  | moveTo node => { s with current := some node }
  | highlight _ => s
  | resetView => s
  | record role content => s.record ⟨stamp, role, content, s.current⟩
  | remember intent => { s with intent := intent }
  | awaitTicket ticket => { s with isClassifying := true, ticket := some ticket }
  | forgetTicket => s.withoutClassification
  | spawn _ => s

def onTickets (tickets : Nat) : Change → Nat
  | awaitTicket ticket => ticket
  | _ => tickets

def onView (v : View) : Option ViewOp → View
  | some op => v.apply op
  | none => v

def perform (stamp : Stamp) (t : Tracker) (c : Change) : Tracker :=
  ⟨c.onState stamp t.state, onView t.view (c.op? t.state), c.onTickets t.tickets⟩

end Change

def carryOut (stamp : Stamp) (refuses : ViewOp → Bool) : List Change → Tracker → Tracker × List Work
  | [], t => (t, [])
  | c :: rest, t =>
    if (c.op? t.state).any refuses then (c.perform stamp t, [])
    else
      let (t, works) := carryOut stamp refuses rest (c.perform stamp t)
      (t, c.work?.toList ++ works)

end Dialogue.Call
