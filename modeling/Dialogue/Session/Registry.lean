import Dialogue.Call.Event
import Dialogue.Decimal.Read

/-!
The registry of live calls: one engine for each call id, and the expiries of calls that have ended.
It is written over any kind of engine, since all that it does to one is to hand it events. An expiry
names the engine that it was set for, so that it spares an engine opened later under the same id.
-/

namespace Dialogue.Session

open Call

structure Entry (E : Type) where
  id : String
  number : Nat
  engine : E

structure Expiry where
  id : String
  number : Nat
  due : Micros
  ticket : Nat
deriving DecidableEq

structure Registry (E : Type) where
  opened : Nat := 0
  scheduled : Nat := 0
  sessions : List (Entry E) := []
  expiries : List Expiry := []

inductive SubmitError where
  | unknown (id : String)
  | noEvent (e : EventError)

namespace Registry

variable {E : Type}

def find? (r : Registry E) (id : String) : Option (Entry E) := r.sessions.find? (·.id = id)

def contains (r : Registry E) (id : String) : Bool := (r.find? id).isSome

def isRegistered (r : Registry E) (number : Nat) : Bool := r.sessions.any (·.number = number)

def ids (r : Registry E) : List String := r.sessions.map (·.id)

def spare (id : String) (r : Registry E) : Registry E :=
  { r with expiries := r.expiries.filter (·.id ≠ id) }

def remove (id : String) (r : Registry E) : Registry E :=
  { r.spare id with sessions := r.sessions.filter (·.id ≠ id) }

def register (id : String) (engine : E) (r : Registry E) : Registry E :=
  { r with opened := r.opened + 1, sessions := r.sessions ++ [⟨id, r.opened, engine⟩] }

def openCall (id : String) (engine : E) (r : Registry E) : Registry E :=
  (r.remove id).register id engine

def schedule (id : String) (number : Nat) (due : Micros) (r : Registry E) : Registry E :=
  { r.spare id with
    expiries := (r.spare id).expiries ++ [⟨id, number, due, r.scheduled⟩]
    scheduled := r.scheduled + 1 }

def noteEvent (due : Micros) (s : Entry E) (e : Event) (r : Registry E) : Registry E :=
  match e with
  | .callStart _ => r.spare s.id
  | .callEnd => r.schedule s.id s.number due
  | .failure _ => r.schedule s.id s.number due
  | _ => r

def update (id : String) (f : E → E) (r : Registry E) : Registry E :=
  { r with sessions := r.sessions.map fun s => if s.id = id then { s with engine := f s.engine } else s }

def submit (deliver : Event → E → E) (due : Micros) (id : String) (raw : Json) (r : Registry E) :
    Except SubmitError (Registry E) :=
  match r.find? id with
  | none => .error (.unknown id)
  | some s => match Event.ofJson raw with
    | .error e => .error (.noEvent e)
    | .ok e => .ok ((r.update id (deliver e)).noteEvent due s e)

def close (id : String) (r : Registry E) : Option (E × Registry E) :=
  (r.find? id).map fun s => (s.engine, r.remove id)

def closeAll (r : Registry E) : Registry E := { r with sessions := [], expiries := [] }

def expire (x : Expiry) (r : Registry E) : Registry E :=
  let r := r.spare x.id
  { r with sessions := r.sessions.filter fun s => !(s.id = x.id && s.number = x.number) }

def expireDue (now : Micros) (r : Registry E) : Registry E :=
  (r.expiries.filter (·.due ≤ now)).foldl (fun r x => r.expire x) r

end Registry

end Dialogue.Session
