import Dialogue.Proofs.Call.Effect

/-! Where the inputs and the work of a run come from: each report was made by work that an earlier
moment started, and carries the epoch of that moment. -/

namespace Dialogue.Call

variable {S : Stage} {σ τ : Scene} {m n : Moment} {ms : List Moment} {i : Input} {w : Work}
  {stamp : Stamp} {t : Tracker} {b intent : String} {epoch : Nat}

def Reported (ms : List Moment) (i : Input) : Prop :=
  ∃ m ∈ ms, ∃ w ∈ m.started, ∃ is, w.Ends is ∧ i ∈ is

lemma Reported.mono {ns : List Moment} (h : Reported ms i) (hs : ms ⊆ ns) : Reported ns i := by
  obtain ⟨m, hm, hw⟩ := h
  exact ⟨m, hs hm, hw⟩

structure Accounted (ms : List Moment) (σ : Scene) : Prop where
  underway : ∀ w ∈ σ.underway, ∃ m ∈ ms, w ∈ m.started
  queue : ∀ i ∈ σ.queue, i.epoch? ≠ none → Reported ms i
  taken : ∀ m ∈ ms, m.input.epoch? ≠ none → Reported ms m.input

namespace Run

lemma accounted (h : Run S {} ms σ) : Accounted ms σ := by
  induction h with
  | nil => exact ⟨by simp, by simp, by simp⟩
  | @snoc α β ms m h hs ih =>
    cases hs with
    | submit e =>
      refine ⟨by simpa using ih.underway, ?_, by simpa using ih.taken⟩
      intro i hi he
      rcases List.mem_append.mp hi with hi | hi
      · simpa using ih.queue i hi he
      · obtain rfl : i = .event e := by simpa using hi
        exact (he rfl).elim
    | @finish ws vs w is hw hends =>
      refine ⟨?_, ?_, by simpa using ih.taken⟩
      · intro v hv
        simpa using ih.underway v (by simp only [hw] at hv ⊢; grind)
      · intro i hi he
        rcases List.mem_append.mp hi with hi | hi
        · simpa using ih.queue i hi he
        · obtain ⟨m, hm, hwm⟩ := ih.underway w (by simp [hw])
          exact ⟨m, by simpa using hm, w, hwm, is, hends, hi⟩
    | @take i rest stamp hq =>
      have sub : ms ⊆ ms ++ (some (S.moment stamp α.tracker i)).toList :=
        List.subset_append_left _ _
      refine ⟨?_, ?_, ?_⟩
      · intro v hv
        rcases List.mem_append.mp hv with hv | hv
        · obtain ⟨m, hm, hvm⟩ := ih.underway v hv
          exact ⟨m, sub hm, hvm⟩
        · exact ⟨S.moment stamp α.tracker i, by simp, hv⟩
      · intro j hj he
        exact (ih.queue j (by simp [hq, hj]) he).mono sub
      · intro m hm he
        rcases List.mem_append.mp hm with hm | hm
        · exact (ih.taken m hm he).mono sub
        · obtain rfl : m = S.moment stamp α.tracker i := by simpa using hm
          exact (ih.queue i (by simp [hq]) he).mono sub

lemma moment_eq (h : Run S σ ms τ) (hm : m ∈ ms) : m = S.moment m.stamp m.before m.input := by
  obtain ⟨before, later, rfl⟩ := List.append_of_mem hm
  obtain ⟨α, β, -, hs, -⟩ := h.split
  cases hs
  rfl

lemma epoch_le (h : Run S σ ms τ) : σ.tracker.state.epoch ≤ τ.tracker.state.epoch :=
  h.tracker_invariant (P := fun t => σ.tracker.state.epoch ≤ t.state.epoch) (Nat.le_refl _)
    fun _ _ _ ht => Nat.le_trans ht Stage.epoch_le

lemma tickets_le (h : Run S σ ms τ) : σ.tracker.tickets ≤ τ.tracker.tickets :=
  h.tracker_invariant (P := fun t => σ.tracker.tickets ≤ t.tickets) (Nat.le_refl _)
    fun _ _ _ ht => Nat.le_trans ht Stage.tickets_le

lemma epoch_le_of_mem (h : Run S σ ms τ) (hm : m ∈ ms) :
    m.after.state.epoch ≤ τ.tracker.state.epoch := by
  obtain ⟨before, later, rfl⟩ := List.append_of_mem hm
  obtain ⟨α, β, -, hs, hr⟩ := h.split
  exact hs.moment_eq.2 ▸ hr.epoch_le

lemma epoch_of_started {e : Nat} (h : Run S σ ms τ) (hm : m ∈ ms) (hw : w ∈ m.started)
    (he : w.epoch? = some e) : m.after.state.epoch = e := by
  rw [h.moment_eq hm] at hw ⊢
  exact Stage.epoch_of_started hw he

end Run

def Scene.Due (σ : Scene) (epoch : Nat) (n : String) (clears : Bool) : Prop :=
  (∃ isEnding, .completion epoch n clears isEnding ∈ σ.underway) ∨
    .completed epoch n clears ∈ σ.queue

lemma Step.due {k : Option Moment} {n : String} {clears : Bool} (hs : Step S σ k τ)
    (due : σ.Due epoch n clears) :
    τ.Due epoch n clears ∨ ∃ m, k = some m ∧ m.input = .completed epoch n clears := by
  cases hs with
  | submit e => exact .inl (due.imp_right (List.mem_append_left _))
  | @finish ws vs w is hw ends =>
    rcases due with ⟨isEnding, work⟩ | report
    · by_cases same : w = .completion epoch n clears isEnding
      · obtain rfl := same
        cases ends
        exact .inl (.inr (by simp))
      · rw [hw] at work
        exact .inl (.inl ⟨isEnding, by grind⟩)
    · exact .inl (.inr (List.mem_append_left _ report))
  | @take i rest stamp hq =>
    rcases due with ⟨isEnding, work⟩ | report
    · exact .inl (.inl ⟨isEnding, List.mem_append_left _ work⟩)
    · rw [hq] at report
      rcases List.mem_cons.mp report with rfl | report
      · exact .inr ⟨_, rfl, rfl⟩
      · exact .inl (.inr report)

def Answered (ms : List Moment) (epoch : Nat) (b intent : String) : Prop :=
  ∃ k ∈ ms, ∃ m ∈ ms, ∃ ticket utterance candidates,
    .classification epoch ticket b utterance candidates ∈ k.started ∧
      m.input = .classified epoch ticket b (some intent)

lemma Answered.mono {ns : List Moment} (h : Answered ms epoch b intent) (hs : ms ⊆ ns) :
    Answered ns epoch b intent := by
  obtain ⟨k, hk, m, hm, rest⟩ := h
  exact ⟨k, hs hk, m, hs hm, rest⟩

lemma kind_of_started {ticket : Nat} {utterance : String} {candidates : List String}
    (h : .classification epoch ticket b utterance candidates ∈ (S.apply stamp t i).2) :
    kindOf S.flow b = some .branch := by
  cases Stage.starts h with
  | heard _ _ _ _ ahead kind => rw [kindOf_of_ahead ahead, kind]
  | asked _ _ _ kind => exact kind

namespace Run

lemma completion_of_queued {n : String} {clears : Bool} (h : Run S {} ms σ)
    (queued : .completed epoch n clears ∈ σ.queue) :
    ∃ k ∈ ms, ∃ isEnding, .completion epoch n clears isEnding ∈ k.started := by
  obtain ⟨k, hk, w, hw, is, ends, hi⟩ := h.accounted.queue _ queued (by simp [Input.epoch?])
  cases ends with
  | completion epoch' n' clears' isEnding =>
    obtain ⟨rfl, rfl, rfl⟩ : epoch = epoch' ∧ n = n' ∧ clears = clears' := by simpa using hi
    exact ⟨k, hk, isEnding, hw⟩
  | _ => simp at hi

lemma classification_of_queued {ticket : Nat} {answer : Option String} (h : Run S {} ms σ)
    (queued : .classified epoch ticket b answer ∈ σ.queue) :
    ∃ k ∈ ms, ∃ utterance candidates,
      .classification epoch ticket b utterance candidates ∈ k.started := by
  obtain ⟨k, hk, w, hw, is, ends, hi⟩ := h.accounted.queue _ queued (by simp [Input.epoch?])
  cases ends with
  | classification epoch' ticket' branch utterance candidates answer' =>
    obtain ⟨rfl, rfl, rfl, rfl⟩ : epoch = epoch' ∧ ticket = ticket' ∧ b = branch ∧
        answer = answer' := by simpa using hi
    exact ⟨k, hk, utterance, candidates, hw⟩
  | _ => simp at hi

lemma answered {ticket : Nat} (h : Run S {} ms σ)
    (queued : .classified epoch ticket b (some intent) ∈ σ.queue) (stamp : Stamp) :
    kindOf S.flow b = some .branch ∧ Answered
      (ms ++ [S.moment stamp σ.tracker (.classified epoch ticket b (some intent))])
      epoch b intent := by
  obtain ⟨k, hk, utterance, candidates, hw⟩ := h.classification_of_queued queued
  refine ⟨?_, k, by simp [hk], _, List.mem_append_right _ List.mem_cons_self, ticket, utterance,
    candidates, hw, rfl⟩
  rw [h.moment_eq hk] at hw
  exact kind_of_started hw

end Run

end Dialogue.Call
