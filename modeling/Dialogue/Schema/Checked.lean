import Dialogue.Schema.Fault

/-!
Checked values: a value, or every fault found on the way to it. Applying a checked function to a
checked argument keeps the faults of both, the function's first.
-/

namespace Dialogue.Schema

inductive Checked (α : Type) where
  | ok (a : α)
  | bad (faults : List Fault)

namespace Checked

variable {α β : Type}

def map (f : α → β) : Checked α → Checked β
  | ok a => ok (f a)
  | bad fs => bad fs

def apply : Checked (α → β) → Checked α → Checked β
  | ok f, ok a => ok (f a)
  | ok _, bad fs => bad fs
  | bad fs, ok _ => bad fs
  | bad fs, bad gs => bad (fs ++ gs)

instance : Functor Checked := ⟨map, fun a c => map (fun _ => a) c⟩

instance : Seq Checked := ⟨fun f a => apply f (a ())⟩

def fail (cause : Cause) : Checked α := bad [⟨[], cause⟩]

def under (key : Key) : Checked α → Checked α
  | ok a => ok a
  | bad fs => bad (fs.map (·.under key))

def seenAs (view : Cause → Cause) : Checked α → Checked α
  | ok a => ok a
  | bad fs => bad (fs.map fun f => { f with cause := view f.cause })

def all : List (Checked α) → Checked (List α)
  | [] => ok []
  | c :: rest => apply (map List.cons c) (all rest)

theorem apply_eq_ok {f : Checked (α → β)} {c : Checked α} {b : β} :
    apply f c = ok b ↔ ∃ g a, f = ok g ∧ c = ok a ∧ g a = b := by
  cases f <;> cases c <;> simp [apply]

theorem under_eq_ok {key : Key} {c : Checked α} {a : α} : under key c = ok a ↔ c = ok a := by
  cases c <;> simp [under]

end Checked

end Dialogue.Schema
