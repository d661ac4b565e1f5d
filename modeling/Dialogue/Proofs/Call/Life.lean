import Dialogue.Proofs.Call.Run

/-! Runs in which tracking may be stopped: a stop gives up the work under way and keeps the queue.
The state gets nowhere that it would not get without a stop. -/

namespace Dialogue.Call

inductive Occurrence where
  | taken (m : Moment)
  | stopped

def Occurrence.moment? : Occurrence → Option Moment
  | taken m => some m
  | stopped => none

def moments (os : List Occurrence) : List Moment := os.filterMap Occurrence.moment?

inductive Life (S : Stage) : Scene → List Occurrence → Scene → Prop
  | nil (σ : Scene) : Life S σ [] σ
  | step {σ τ υ : Scene} {os : List Occurrence} {m : Option Moment} :
      Life S σ os τ → Step S τ m υ → Life S σ (os ++ m.toList.map .taken) υ
  | stop {σ τ : Scene} {os : List Occurrence} :
      Life S σ os τ → Life S σ (os ++ [.stopped]) { τ with underway := [] }

variable {S : Stage} {σ τ υ : Scene} {m : Moment} {ms : List Moment} {os : List Occurrence}

@[simp] lemma moments_append (os ps : List Occurrence) :
    moments (os ++ ps) = moments os ++ moments ps := List.filterMap_append

@[simp] lemma moments_taken (ms : List Moment) : moments (ms.map .taken) = ms := by
  rw [moments, List.filterMap_map]
  exact List.filterMap_some

@[simp] lemma moments_stopped : moments [.stopped] = [] := rfl

lemma Run.life (h : Run S σ ms τ) : Life S σ (ms.map .taken) τ := by
  induction h with
  | nil => exact .nil σ
  | snoc _ hs ih => simpa using Life.step ih hs

lemma exists_removed {us vs ws : List Work} {w : Work} (h : (us ++ w :: vs).Sublist ws) :
    ∃ before after, ws = before ++ w :: after ∧ (us ++ vs).Sublist (before ++ after) := by
  obtain ⟨front, back, rfl, hu, hv⟩ := List.append_sublist_iff.mp h
  obtain ⟨near, far, rfl, hw, hf⟩ := List.cons_sublist_iff.mp hv
  obtain ⟨before, after, rfl⟩ := List.append_of_mem hw
  refine ⟨front ++ before, after ++ far, by simp, ?_⟩
  rw [List.append_assoc]
  refine hu.append ?_
  exact hf.trans ((List.sublist_append_right after far).trans (List.sublist_append_right before _))

lemma Life.run (h : Life S σ os τ) :
    ∃ ws, Run S σ (moments os) ⟨τ.tracker, τ.queue, ws⟩ ∧ τ.underway.Sublist ws := by
  induction h with
  | nil => exact ⟨σ.underway, .nil σ, .refl _⟩
  | step _ hs ih =>
    obtain ⟨ws, run, left⟩ := ih
    rw [moments_append, moments_taken]
    cases hs with
    | submit e => exact ⟨ws, run.snoc (.submit _ e), left⟩
    | finish hw ends =>
      rw [hw] at left
      obtain ⟨before, after, rfl, kept⟩ := exists_removed left
      exact ⟨before ++ after, run.snoc (.finish rfl ends), kept⟩
    | take stamp hq =>
      exact ⟨_, run.snoc (.take stamp hq), left.append (.refl _)⟩
  | stop _ ih =>
    obtain ⟨ws, run, -⟩ := ih
    exact ⟨ws, by simpa using run, List.nil_sublist ws⟩

end Dialogue.Call
