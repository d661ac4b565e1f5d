import Dialogue.Proofs.Call.Following
import Dialogue.Proofs.Call.Seeking
import Mathlib.Data.List.Dedup
import Mathlib.Data.List.Perm.Subperm

/-! Where the agent's speech takes the position: along the first edge, to a step at which the call
has never been. So even in a flow that goes in circles, speech moves a call only so often. -/

namespace Dialogue.Call

variable {S : Stage} {σ : Scene} {m : Moment} {ms : List Moment} {os : List Occurrence}
  {stamp : Stamp} {t : Tracker} {i : Input} {a b : String} {epoch : Nat}

def Input.isSpeech : Input → Bool
  | .event .speechStart => true
  | .event .speechEnd => true
  | _ => false

def Moment.advances (epoch : Nat) (m : Moment) : Bool :=
  m.input.isSpeech && m.before.state.epoch == epoch &&
    m.after.state.current != m.before.state.current

structure Moment.Progresses (S : Stage) (m : Moment) (a b : String) : Prop where
  here : m.before.state.current = some a
  there : m.after.state.current = some b
  away : b ≠ a
  ahead : S.flow.next? a = some b
  new : m.before.state.isVisited b = false
  undone : m.after.state.isVisited b = false

lemma isSpeech_iff : i.isSpeech = true ↔ i = .event .speechStart ∨ i = .event .speechEnd := by
  cases i with
  | event e => cases e <;> simp [Input.isSpeech]
  | _ => simp [Input.isSpeech]

lemma opens_of_isSpeech (h : i.isSpeech = true) : i.opens = false := by
  rcases isSpeech_iff.mp h with rfl | rfl <;> rfl

lemma Moves.onward_of_isSpeech {g : Flow} (h : Moves g t i b) (speech : i.isSpeech = true) :
    ∃ a, t.state.current = some a ∧ g.next? a = some b ∧ t.state.isVisited b = false := by
  cases h with
  | onward _ here _ _ ahead new => exact ⟨_, here, ahead, new⟩
  | @spoken id n next _ here _ _ ahead new =>
    refine ⟨id, here, (nodes_of_ahead ahead).1, ?_⟩
    by_contra visited
    have kept : (t.state.visit id).isVisited next.id = true :=
      (State.isVisited_visit _ _ _).mpr (.inl (by simpa using visited))
    exact Bool.false_ne_true (new.symm.trans kept)
  | _ => cases speech

lemma Completes.current_of_isSpeech {g : Flow} (h : Completes g t i b)
    (speech : i.isSpeech = true) : t.state.current = some b := by
  cases h with
  | passed _ here | spoken _ here => exact here
  | _ => cases speech

namespace Stage

lemma progresses (speech : i.isSpeech = true)
    (moved : (S.apply stamp t i).1.state.current ≠ t.state.current) :
    ∃ a b, (S.moment stamp t i).Progresses S a b := by
  cases there : (S.apply stamp t i).1.state.current with
  | none =>
    cases here : t.state.current with
    | none => exact absurd (there.trans here.symm) moved
    | some a =>
      obtain ⟨rfl, -⟩ := callEnd_of_nowhere here there (epoch_eq (opens_of_isSpeech speech))
      cases speech
  | some b =>
    have move : Moves S.flow t i b :=
      (moves there).resolve_left fun here => moved (there.trans here.symm)
    obtain ⟨a, here, ahead, new⟩ := move.onward_of_isSpeech speech
    refine ⟨a, b, here, there, ?_, ahead, new, ?_⟩
    · rintro rfl
      exact moved (there.trans here.symm)
    · by_contra visited
      rcases completes (Bool.not_eq_false _ ▸ visited) with old | done
      · exact Bool.false_ne_true (new.symm.trans old)
      · exact moved (there.trans (done.current_of_isSpeech speech).symm)

end Stage

namespace Run

lemma not_stood_of_progress {before later : List Moment}
    (h : Run S {} (before ++ m :: later) σ) (goes : m.Progresses S a b) : ¬ Stood before b := by
  obtain ⟨α, β, hα, step, -⟩ := h.split
  cases step with
  | take stamp hq =>
    intro stood
    have elsewhere : α.tracker.state.current ≠ some b := fun here =>
      goes.away (Option.some.inj (here.symm.trans goes.here))
    exact Bool.false_ne_true (goes.new.symm.trans (hα.isVisited_of_stood stood elsewhere))

lemma progresses (h : Run S {} ms σ) (hm : m ∈ ms) (advances : m.advances epoch = true) :
    m.before.state.epoch = epoch ∧ m.input.isSpeech = true ∧ ∃ a b, m.Progresses S a b := by
  simp only [Moment.advances, Bool.and_eq_true, beq_iff_eq, bne_iff_ne] at advances
  obtain ⟨⟨speech, now⟩, moved⟩ := advances
  rw [h.moment_eq hm] at moved speech ⊢
  exact ⟨now, speech, Stage.progresses speech moved⟩

end Run

def destinations (epoch : Nat) (ms : List Moment) : List (Option String) :=
  (ms.filter (Moment.advances epoch)).map (·.after.state.current)

lemma length_destinations :
    (destinations epoch ms).length = ms.countP (Moment.advances epoch) := by
  rw [destinations, List.length_map, ← List.countP_eq_length_filter]

namespace Run

lemma nodup_destinations (h : Run S {} ms σ) : (destinations epoch ms).Nodup := by
  induction h with
  | nil => exact List.nodup_nil
  | @snoc α β ms m h hs ih =>
    cases hs with
    | submit | finish => simpa using ih
    | @take i rest stamp hq =>
      rw [destinations, Option.toList_some, List.filter_append, List.map_append]
      cases advances : (S.moment stamp α.tracker i).advances epoch with
      | false => simpa [destinations, advances] using ih
      | true =>
        have run : Run S {} (ms ++ [S.moment stamp α.tracker i]) _ := h.snoc (.take stamp hq)
        obtain ⟨now, -, a, b, goes⟩ := run.progresses (by simp) advances
        refine List.nodup_append.mpr ⟨ih, by simp [advances], ?_⟩
        rintro x hx y hy rfl
        obtain ⟨k, hk, there⟩ := List.mem_map.mp hx
        obtain ⟨hk, earlier⟩ := List.mem_filter.mp hk
        obtain ⟨before, spoke, -⟩ := h.progresses hk earlier
        have reached : k.after.state.epoch = α.tracker.state.epoch := by
          rw [h.moment_eq hk] at spoke ⊢
          exact (Stage.epoch_eq (opens_of_isSpeech spoke)).trans (before.trans now.symm)
        have onto : k.after.state.current = some b := by
          obtain rfl := List.mem_singleton.mp (by simpa [advances] using hy)
          exact there.trans goes.there
        have stood : Stood ms b := h.stood_of_mem hk reached onto
        exact run.not_stood_of_progress goes stood

lemma destinations_subset (h : Run S {} ms σ) :
    destinations epoch ms ⊆ ((S.flow.edges.map (·.target)).dedup).map some := by
  intro x hx
  obtain ⟨m, hm, rfl⟩ := List.mem_map.mp hx
  obtain ⟨hm, advances⟩ := List.mem_filter.mp hm
  obtain ⟨-, -, a, b, goes⟩ := h.progresses hm advances
  obtain ⟨e, he, -, target⟩ := Flow.leads_of_next goes.ahead
  rw [goes.there]
  exact List.mem_map_of_mem (List.mem_dedup.mpr (target ▸ List.mem_map_of_mem he))

lemma advances_le (h : Run S {} ms σ) :
    ms.countP (Moment.advances epoch) ≤ ((S.flow.edges.map (·.target)).dedup).length := by
  have within : destinations epoch ms ⊆ _ := h.destinations_subset
  have fits := (List.Nodup.subperm h.nodup_destinations within).length_le
  rwa [length_destinations, List.length_map] at fits

end Run

/-- Where the agent's speech changes the position, it goes along the first edge of a step to one
that is not done and at which this call has never been. So within a call speech changes the position
at most once for each step to which an edge leads. -/
theorem speech_makes_fresh_progress (life : Life S {} os σ) :
    (∀ before m later, moments os = before ++ m :: later → m.input.isSpeech = true →
      m.after.state.current ≠ m.before.state.current →
      ∃ a b, m.Progresses S a b ∧ ¬ Stood before b) ∧
    ∀ epoch, (moments os).countP (Moment.advances epoch) ≤
      ((S.flow.edges.map (·.target)).dedup).length := by
  obtain ⟨ws, run, -⟩ := life.run
  refine ⟨?_, fun epoch => run.advances_le⟩
  intro before m later split speech moved
  rw [split] at run
  have goes : ∃ a b, m.Progresses S a b := by
    rw [run.moment_eq (List.mem_append_right _ List.mem_cons_self)] at speech moved ⊢
    exact Stage.progresses speech moved
  obtain ⟨a, b, goes⟩ := goes
  exact ⟨a, b, goes, run.not_stood_of_progress goes⟩

theorem speech_leads_to_check :
    ∃ before m later,
      moments ((Stage.checking.heard "" {} checkedOnce).map .taken) = before ++ m :: later ∧
        m.input.isSpeech = true ∧ m.after.state.current ≠ m.before.state.current ∧
        m.Progresses Stage.checking "message-1" "action-1" ∧ ¬ Stood before "action-1" ∧
        (moments ((Stage.checking.heard "" {} checkedOnce).map .taken)).countP
          (Moment.advances 1) ≤ 3 := by
  have life : Life Stage.checking {} ((Stage.checking.heard "" {} checkedOnce).map .taken)
      (Stage.checking.hear "" {} checkedOnce) := Run.life (.hear rfl _)
  obtain ⟨fresh, bounded⟩ := speech_makes_fresh_progress life
  have heard : moments ((Stage.checking.heard "" {} checkedOnce).map .taken) =
      [_, _] ++ _ :: [_] := rfl
  obtain ⟨a, b, goes, new⟩ := fresh _ _ _ heard rfl (by decide)
  obtain rfl : "message-1" = a := Option.some.inj goes.here
  obtain rfl : "action-1" = b := Option.some.inj goes.there
  exact ⟨_, _, _, heard, rfl, by decide, goes, new, bounded 1⟩

end Dialogue.Call
