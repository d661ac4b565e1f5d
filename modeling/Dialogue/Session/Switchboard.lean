import Dialogue.Session.Registry

/-!
Operations on the registry that overlap. A lock keeps opening, closing and expiring apart; an event is
handed over at once, whoever holds the lock. An operation may only be interrupted where it waits: for
the lock, for its time to come, or for an engine to stop. Of these, an operation holds the lock in the
last case only, and only while it opens a call; what is left of any other one when it gives the lock
back does not touch the registry any more.
-/

namespace Dialogue.Session

inductive Request where
  | openCall (id : String)
  | close (id : String)
  | closeAll

structure Timer where
  expiry : Expiry
  woken : Bool := false

structure Switchboard (E : Type) where
  registry : Registry E := {}
  waiting : List Request := []
  opening : Option String := none
  timers : List Timer := []

namespace Switchboard

variable {E : Type}

def adopt (r : Registry E) (b : Switchboard E) : Switchboard E :=
  let known := b.registry.expiries
  { b with
    registry := r
    timers := b.timers.filter (fun t => t.expiry ∉ known || t.expiry ∈ r.expiries) ++
      (r.expiries.filter (· ∉ known)).map fun x => { expiry := x } }

def serve (b : Switchboard E) : Request → Switchboard E
  | .openCall id => { b.adopt (b.registry.remove id) with opening := some id }
  | .close id => b.adopt (b.registry.remove id)
  | .closeAll => b.adopt b.registry.closeAll

def register (id : String) (engine : E) (b : Switchboard E) : Switchboard E :=
  { b with registry := b.registry.register id engine, opening := none }

def wake (x : Expiry) (b : Switchboard E) : Switchboard E :=
  { b with timers := b.timers.map fun t => if t.expiry = x then { t with woken := true } else t }

def expire (x : Expiry) (b : Switchboard E) : Switchboard E :=
  { b with registry := b.registry.expire x, timers := b.timers.filter (·.expiry ≠ x) }

def work (step : Entry E → E) (b : Switchboard E) : Switchboard E :=
  { b with registry :=
      { b.registry with sessions := b.registry.sessions.map fun s => { s with engine := step s } } }

end Switchboard

end Dialogue.Session
