import Dialogue.Proofs.Call.Isolation
import Dialogue.Proofs.Call.Life
import Dialogue.Proofs.Call.Recording

/-! The transcript is the log of the messages of a call, as far as it reaches back. -/

namespace Dialogue.Call

variable {S : Stage} {σ τ : Scene} {m : Moment} {ms : List Moment} {os : List Occurrence}
  {stamp : Stamp} {refuses : ViewOp → Bool} {g : Flow} {helpers : Helpers} {s : State}
  {t : Tracker} {i : Input} {c : Change} {cs : List Change} {l : Line} {xs : List Line}

@[simp] lemma State.visit_transcript {a : String} : (s.visit a).transcript = s.transcript := by
  unfold visit
  split <;> rfl

namespace Stage

end Stage

namespace Run

end Run

end Dialogue.Call
