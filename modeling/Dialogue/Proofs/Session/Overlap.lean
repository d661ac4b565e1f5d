import Dialogue.Session.Switchboard
import Mathlib.Tactic.Common

/-! Runs of operations that overlap in every way that the lock allows, with the events that the
engines accept on the way. -/

namespace Dialogue.Session

open Call

variable {E : Type} {deliver : Event → E → E} {b c d : Switchboard E}

/-- The events that engines have accepted, each with the number of its engine. An engine gets its
number when it is registered, so its events are those since its call was opened. -/
abbrev Log := List (Nat × Event)

inductive Step (deliver : Event → E → E) : Switchboard E → Log → Switchboard E → Prop
  | ask (b : Switchboard E) (q : Request) : Step deliver b [] { b with waiting := b.waiting ++ [q] }
  | serve {b : Switchboard E} {before after : List Request} {q : Request} :
      b.opening = none → b.waiting = before ++ q :: after →
      Step deliver b [] ({ b with waiting := before ++ after }.serve q)
  | register {b : Switchboard E} {id : String} (engine : E) : b.opening = some id →
      Step deliver b [] (b.register id engine)
  | giveUp {b : Switchboard E} {id : String} : b.opening = some id →
      Step deliver b [] { b with opening := none }
  | accept {b : Switchboard E} {due : Micros} {id : String} {raw : Json} {s : Entry E} {e : Event}
      {r : Registry E} : b.registry.find? id = some s → Event.ofJson raw = .ok e →
      b.registry.submit deliver due id raw = .ok r → Step deliver b [(s.number, e)] (b.adopt r)
  | refuse {b : Switchboard E} {due : Micros} {id : String} {raw : Json} {e : SubmitError} :
      b.registry.submit deliver due id raw = .error e → Step deliver b [] b
  | wake {b : Switchboard E} {t : Timer} : t ∈ b.timers → Step deliver b [] (b.wake t.expiry)
  | expire {b : Switchboard E} {t : Timer} : b.opening = none → t ∈ b.timers → t.woken = true →
      Step deliver b [] (b.expire t.expiry)
  | work (b : Switchboard E) (step : Entry E → E) : Step deliver b [] (b.work step)

inductive Run (deliver : Event → E → E) : Log → Switchboard E → Prop
  | start : Run deliver [] {}
  | step {b c : Switchboard E} {log accepted : Log} :
      Run deliver log b → Step deliver b accepted c → Run deliver (log ++ accepted) c

lemma Run.next {log : Log} (run : Run deliver log b) (step : Step deliver b [] c) :
    Run deliver log c := by
  simpa using run.step step

/-! The last turn of a call, and what set its expiry. -/

def turns : Event → Bool
  | .callStart _ | .callEnd | .failure _ => true
  | _ => false

def finishes : Event → Bool
  | .callEnd | .failure _ => true
  | _ => false

lemma turns_of_finishes {e : Event} (h : finishes e = true) : turns e = true := by
  cases e <;> simp_all [finishes, turns]

def lastTurn (log : Log) (number : Nat) : Option Event :=
  ((log.filter fun a => a.1 = number && turns a.2).getLast?).map (·.2)

def Ended (log : Log) (number : Nat) : Prop := ∃ e, lastTurn log number = some e ∧ finishes e = true

/-- The expiry was set by an end or a failure that its engine accepted as so many events that set one
had been accepted before, and the engine has accepted no turn since. -/
def SetBy (log : Log) (x : Expiry) : Prop :=
  ∃ before e after, log = before ++ (x.number, e) :: after ∧ finishes e = true ∧
    before.countP (finishes ·.2) = x.ticket ∧ ∀ a ∈ after, a.1 = x.number → turns a.2 = false

variable {log : Log} {number : Nat} {a : Nat × Event} {x : Expiry}

lemma lastTurn_snoc_of_turn (named : a.1 = number) (turn : turns a.2 = true) :
    lastTurn (log ++ [a]) number = some a.2 := by
  simp [lastTurn, named, turn]

lemma lastTurn_append_of_others {after : Log}
    (others : ∀ a ∈ after, a.1 = number → turns a.2 = false) :
    lastTurn (log ++ after) number = lastTurn log number := by
  have none : after.filter (fun a => a.1 = number && turns a.2) = [] := by
    refine List.filter_eq_nil_iff.mpr fun a ha => ?_
    simpa using others a ha
  rw [lastTurn, List.filter_append, none, List.append_nil, lastTurn]

lemma lastTurn_snoc_of_other (other : a.1 = number → turns a.2 = false) :
    lastTurn (log ++ [a]) number = lastTurn log number :=
  lastTurn_append_of_others fun _ hb => List.mem_singleton.mp hb ▸ other

lemma lastTurn_eq_none (unnamed : ∀ a ∈ log, a.1 ≠ number) : lastTurn log number = none := by
  rw [← List.nil_append log,
    lastTurn_append_of_others fun a ha named => absurd named (unnamed a ha)]
  rfl

lemma SetBy.ended (h : SetBy log x) : Ended log x.number := by
  obtain ⟨before, e, after, rfl, ends, -, quiet⟩ := h
  refine ⟨e, ?_, ends⟩
  have split : before ++ (x.number, e) :: after = before ++ [(x.number, e)] ++ after := by simp
  rw [split, lastTurn_append_of_others quiet]
  exact lastTurn_snoc_of_turn rfl (turns_of_finishes ends)

lemma SetBy.snoc (h : SetBy log x) (other : a.1 = x.number → turns a.2 = false) :
    SetBy (log ++ [a]) x := by
  obtain ⟨before, e, after, rfl, ends, ticket, quiet⟩ := h
  refine ⟨before, e, after ++ [a], by simp, ends, ticket, ?_⟩
  intro c hc
  rcases List.mem_append.mp hc with hc | hc
  · exact quiet c hc
  · exact List.mem_singleton.mp hc ▸ other

lemma SetBy.ticket_lt (h : SetBy log x) : x.ticket < log.countP (finishes ·.2) := by
  obtain ⟨before, e, after, rfl, ends, ticket, -⟩ := h
  rw [List.countP_append, List.countP_cons, if_pos ends, ticket]
  omega

lemma setBy_snoc {e : Event} (ends : finishes e = true)
    (ticket : x.ticket = log.countP (finishes ·.2)) : SetBy (log ++ [(x.number, e)]) x :=
  ⟨log, e, [], rfl, ends, ticket.symm, by simp⟩

end Dialogue.Session
