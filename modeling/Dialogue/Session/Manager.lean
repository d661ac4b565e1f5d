import Dialogue.Call.Engine
import Dialogue.Intent.Resolver
import Dialogue.Session.Registry
import Dialogue.Settings

/-!
Live calls under one clock. A finished call is kept for a while, so that its last state can still be
asked for, and then dropped.
-/

namespace Dialogue.Session

open Call

variable [Limits]

structure Reach where
  stamp : Stamp
  backend : Option Backend
  transport : Lookup.Transport

def Reach.classify (reach : Reach) (utterance : String) (candidates : List String) :
    Option String :=
  match (Intent.resolve reach.backend utterance candidates).outcome with
  | .ok verdict => verdict.intent
  | .error _ => none

def lookupRoute (s : Settings) : Lookup.Route := ⟨s.relay, s.relayToken, .real s.lookupTimeout⟩

def surroundings (s : Settings) (reach : Reach) : Surroundings where
  stamp := reach.stamp
  startDelay := s.startDelay
  endDelay := s.endDelay
  refuses _ := false
  classify utterance candidates := .now (reach.classify utterance candidates)
  lookup := some fun _ spec phone =>
    .now (Lookup.settled (Lookup.execute (lookupRoute s) reach.transport spec phone).2)
  injects := true

structure Manager where
  settings : Settings
  reach : Reach
  now : Micros := 0
  registry : Registry Engine := {}

namespace Manager

def engine (m : Manager) (g : Flow) : Engine :=
  { flow := g, surroundings := surroundings m.settings m.reach, running := true, now := m.now }

def settle (m : Manager) : Manager := { m with registry := m.registry.expireDue m.now }

def snapshot (id : String) (e : Engine) : Json := e.snapshot (some id) true

def openCall (id : String) (g : Flow) (m : Manager) : Json × Manager :=
  let e := m.engine g
  (snapshot id e, { m with registry := m.registry.openCall id e })

def submit (id : String) (raw : Json) (m : Manager) : Except SubmitError Manager :=
  let due := m.now.after m.settings.lifetime
  (m.registry.submit (fun e k => k.submit [e]) due id raw).map fun r =>
    settle { m with registry := r }

def state? (id : String) (m : Manager) : Option Json :=
  (m.registry.find? id).map fun s => snapshot id s.engine

def close (id : String) (m : Manager) : Option (Json × Manager) :=
  (m.registry.close id).map fun (e, r) => (snapshot id e, { m with registry := r })

def closeAll (m : Manager) : Manager := { m with registry := m.registry.closeAll }

def passTime (moment : Micros) (r : Registry Engine) : Registry Engine :=
  { r with sessions := r.sessions.map fun s => { s with engine := s.engine.advanceTo moment } }

def advanceTo (moment : Micros) (m : Manager) : Manager :=
  settle { m with now := moment, registry := passTime moment m.registry }

end Manager

def unknownCall (id : String) : String := Text.quotedText id

end Dialogue.Session
