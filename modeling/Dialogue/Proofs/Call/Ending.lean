import Dialogue.Proofs.Call.Provenance

/-! How an ending comes to be done: by a completion that some inputs schedule as they arrive there,
or by what the agent says and does while the position is there. -/

namespace Dialogue.Call

variable {S : Stage} {σ τ : Scene} {m : Moment} {ms : List Moment} {stamp : Stamp}
  {g : Flow} {helpers : Helpers} {t : Tracker} {i : Input} {n : String} {epoch : Nat}

inductive Moment.Finishes (S : Stage) (m : Moment) (n : String) : Prop
  | scheduled {clears isEnding : Bool} :
      .completion m.after.state.epoch n clears isEnding ∈ m.started → Finishes S m n
  | spoken : m.input = .event .speechEnd → m.before.state.isActive = true →
      m.before.state.current = some n → Finishes S m n
  | left {transcript marked : String} : m.input = .event (.message .assistant transcript) →
      m.before.state.isActive = true → m.before.state.current = some n →
      markedStep S.flow transcript = some marked → n ≠ marked → Finishes S m n
  | ended : m.input = .event .callEnd → m.before.state.isActive = true →
      m.before.state.current = some n → Finishes S m n

namespace Stage

lemma isVisited_of_complete {before rest : List Change}
    (split : changes S.flow S.helpers t i = before ++ .complete n :: rest)
    (unseen : ∀ c ∈ before, ∀ s, c.op? s = none) (closed : i.opens = false) :
    (S.apply stamp t i).1.state.isVisited n = true := by
  have same : (S.apply stamp t i).1.state.epoch = t.state.epoch := epoch_eq closed
  have shown : isShown stamp S.refuses before t = true :=
    isShown_of_unrefused fun c hc s => by rw [unseen c hc s]; rfl
  have first : t.state.epoch ≤ (follow stamp before t).state.epoch := by
    have reached : t.state.epoch ≤ (carryOut stamp S.refuses before t).1.state.epoch :=
      carryOut_epoch_le
    rwa [carryOut_shown shown] at reached
  rw [apply, split, carryOut_append, if_pos shown] at same ⊢
  refine carryOut_complete (Nat.le_antisymm ?_ carryOut_epoch_le)
  exact Nat.le_trans (Nat.le_of_eq same) first

lemma isVisited_of_completed {clears : Bool} :
    (S.apply stamp t (.completed t.state.epoch n clears)).1.state.isVisited n = true := by
  have split : changes S.flow S.helpers t (.completed t.state.epoch n clears) =
      [] ++ .complete n ::
        if clears && t.state.current.isNone then [.highlight none] else [] := by
    simp only [changes, onCompleted, ne_eq, not_true_eq_false, if_false, List.nil_append]
  exact isVisited_of_complete split (by simp) rfl

lemma isVisited_of_spoken (active : t.state.isActive = true) (here : t.state.current = some n) :
    (S.apply stamp t (.event .speechEnd)).1.state.isVisited n = true := by
  obtain ⟨rest, split⟩ : ∃ rest, changes S.flow S.helpers t (.event .speechEnd) =
      [] ++ .complete n :: rest := by
    simp [changes, onEvent, onSpeechEnd, active, here]
  exact isVisited_of_complete split (by simp) rfl

lemma isVisited_of_left {transcript marked : String} (active : t.state.isActive = true)
    (here : t.state.current = some n) (named : markedStep S.flow transcript = some marked)
    (away : n ≠ marked) :
    (S.apply stamp t (.event (.message .assistant transcript))).1.state.isVisited n = true := by
  have split : changes S.flow S.helpers t (.event (.message .assistant transcript)) =
      noted .assistant transcript ++ .complete n :: ([.remember none] ++
        (if t.state.isClassifying then [.forgetTicket] else []) ++
          arrive S.flow t.state marked) := by
    rw [changes_named active named here away]
    simp [leaving]
  exact isVisited_of_complete split (fun c => op?_of_noted) rfl

lemma isVisited_of_ended (active : t.state.isActive = true) (here : t.state.current = some n) :
    (S.apply stamp t (.event .callEnd)).1.state.isVisited n = true := by
  obtain ⟨rest, split⟩ : ∃ rest, changes S.flow S.helpers t (.event .callEnd) =
      [] ++ .complete n :: rest := by
    simp [changes, onEvent, onCallEnd, active, here]
  exact isVisited_of_complete split (by simp) rfl

end Stage

namespace Run

lemma isVisited_mono (h : Run S σ ms τ) (visited : σ.tracker.state.isVisited n = true)
    (same : τ.tracker.state.epoch = σ.tracker.state.epoch) :
    τ.tracker.state.isVisited n = true := by
  induction h with
  | nil => exact visited
  | @snoc α β ms m h hs ih =>
    cases hs with
    | submit | finish => exact ih same
    | @take i rest stamp hq =>
      have now : (S.apply stamp α.tracker i).1.state.epoch = σ.tracker.state.epoch := same
      have before := h.epoch_le
      have after : α.tracker.state.epoch ≤ (S.apply stamp α.tracker i).1.state.epoch :=
        Stage.epoch_le
      exact Stage.isVisited_mono (ih (by omega)) (by omega)

lemma isVisited_of_mem (h : Run S σ ms τ) (hm : m ∈ ms) (visited : m.after.state.isVisited n = true)
    (same : m.after.state.epoch = τ.tracker.state.epoch) : τ.tracker.state.isVisited n = true := by
  obtain ⟨before, later, rfl⟩ := List.append_of_mem hm
  obtain ⟨α, β, -, hs, hβ⟩ := h.split
  have after := hs.moment_eq.2
  exact hβ.isVisited_mono (after ▸ visited) (after ▸ same.symm)

end Run

lemma Run.scheduled {clears isEnding : Bool} (h : Run S {} ms σ) (hm : m ∈ ms)
    (hw : .completion epoch n clears isEnding ∈ m.started) (he : σ.tracker.state.epoch = epoch) :
    σ.tracker.state.isVisited n = true ∨ σ.Due epoch n clears := by
  induction h with
  | nil => simp at hm
  | @snoc α β ms k h hs ih =>
    have goesOn : α.Due epoch n clears → _ := hs.due
    cases hs with
    | submit | finish =>
      rcases ih (by simpa using hm) he with done | due
      · exact .inl done
      · exact .inr ((goesOn due).resolve_right (by simp))
    | @take i rest stamp hq =>
      rcases List.mem_append.mp hm with hm | hm
      · -- The call has not changed since the work was started, so the induction applies.
        have same : α.tracker.state.epoch = epoch := by
          have now : (S.apply stamp α.tracker i).1.state.epoch = epoch := he
          have begun := h.epoch_of_started hm hw rfl
          have before := h.epoch_le_of_mem hm
          have after : α.tracker.state.epoch ≤ (S.apply stamp α.tracker i).1.state.epoch :=
            Stage.epoch_le
          omega
        rcases ih hm same with done | due
        · exact .inl (Stage.isVisited_mono done (he.trans same.symm))
        · rcases goesOn due with due | ⟨_, now, taken⟩
          · exact .inr due
          · obtain rfl := Option.some.inj now
            obtain rfl : i = .completed epoch n clears := taken
            subst same
            exact .inl Stage.isVisited_of_completed
      · obtain rfl : m = S.moment stamp α.tracker i := by simpa using hm
        exact .inr (.inl ⟨isEnding, List.mem_append_right _ hw⟩)

lemma Run.finished (h : Run S {} ms σ) (kind : kindOf S.flow n = some .ending)
    (visited : σ.tracker.state.isVisited n = true) :
    ∃ m ∈ ms, m.after.state.epoch = σ.tracker.state.epoch ∧ m.Finishes S n := by
  induction h with
  | nil => simp [State.isVisited] at visited
  | @snoc α β ms m h hs ih =>
    cases hs with
    | submit | finish => simpa using ih visited
    | @take i rest stamp hq =>
      have same : (S.apply stamp α.tracker i).1.state.epoch = α.tracker.state.epoch := by
        by_contra new
        exact absurd (visited.symm.trans (Stage.fresh_of_new new).isVisited) (by simp)
      have earlier : α.tracker.state.isVisited n = true → ∃ m ∈ ms ++ [S.moment stamp α.tracker i],
          m.after.state.epoch = (S.apply stamp α.tracker i).1.state.epoch ∧ m.Finishes S n := by
        intro before
        obtain ⟨m, hm, he, finishes⟩ := ih before
        exact ⟨m, by simp [hm], he.trans same.symm, finishes⟩
      have now : (S.moment stamp α.tracker i).Finishes S n →
          ∃ m ∈ ms ++ [S.moment stamp α.tracker i],
            m.after.state.epoch = (S.apply stamp α.tracker i).1.state.epoch ∧ m.Finishes S n :=
        fun finishes => ⟨S.moment stamp α.tracker i, by simp, rfl, finishes⟩
      rcases Stage.completes visited with before | completes
      · exact earlier before
      · cases completes with
        | passed active here done => exact earlier (done.resolve_left (by simp [kind]))
        | spoken active here => exact now (.spoken rfl active here)
        | left active named here away => exact now (.left rfl active here named away)
        | unmarked active named here kind' => simp [kind] at kind'
        | heard active here kind' => simp [kind] at kind'
        | ended active here => exact now (.ended rfl active here)
        | @due node clears =>
          obtain ⟨k, hk, isEnding, hw⟩ := h.completion_of_queued (hq ▸ List.mem_cons_self)
          have begun := h.epoch_of_started hk hw rfl
          exact ⟨k, by simp [hk], begun.trans same.symm, .scheduled (begun.symm ▸ hw)⟩
        | chosen active awaited here =>
          have asked := (h.answered (hq ▸ List.mem_cons_self) stamp).1
          exact absurd (asked.symm.trans kind) (by simp)

inductive Input.Schedules (g : Flow) (n : String) : Input → Prop
  | opening (payload : Fields) : Schedules g n (.event (.callStart payload))
  | spoken : Schedules g n (.event .speechEnd)
  | marked {transcript : String} : markedStep g transcript = some n →
      Schedules g n (.event (.message .assistant transcript))

namespace Stage

lemma started_of_mem {w : Work} (shown : (S.moment stamp t i).isShown S = true)
    (h : .spawn w ∈ changes S.flow S.helpers t i) : w ∈ (S.apply stamp t i).2 := by
  rw [apply_shown shown]
  exact List.mem_filterMap.mpr ⟨_, h, rfl⟩

lemma schedules_iff (kind : kindOf S.flow n = some .ending)
    (shown : (S.moment stamp t i).isShown S = true) (away : t.state.current ≠ some n)
    (there : (S.apply stamp t i).1.state.current = some n) :
    (∃ clears isEnding, .completion (S.apply stamp t i).1.state.epoch n clears isEnding ∈
      (S.apply stamp t i).2) ↔ i.Schedules S.flow n := by
  have moves := (Stage.moves there).resolve_left away
  constructor
  · rintro ⟨clears, isEnding, started⟩
    generalize (S.apply stamp t i).1.state.epoch = x at started
    cases starts started with
    | opening => exact .opening _
    | spoken => exact .spoken
    | marked active named => exact .marked named
    | ended => cases moves
  · intro schedules
    cases schedules with
    | opening payload =>
      rw [epoch_callStart]
      cases moves with
      | @opening _ start hs =>
        refine ⟨false, false, started_of_mem shown ?_⟩
        simp [changes, onEvent, onCallStart, hs]
    | spoken =>
      rw [epoch_eq rfl]
      cases moves with
      | @spoken id node next active here at_ spoken ahead new =>
        refine ⟨false, true, started_of_mem shown ?_⟩
        simp [changes, onEvent, onSpeechEnd, active, here, at_, spoken, ahead, new, mem_arrive,
          kind]
    | @marked transcript named =>
      rw [epoch_eq rfl]
      have active : t.state.isActive = true := by cases moves <;> assumption
      refine ⟨false, true, started_of_mem shown ?_⟩
      rw [changes_assistant active (isEmpty_of_marked named)]
      simp [onAssistant, named, onMarker, mem_arrive, kind]

end Stage

lemma Moment.Finishes.done (h : m.Finishes S n) (hm : m = S.moment m.stamp m.before m.input) :
    (∃ clears isEnding, .completion m.after.state.epoch n clears isEnding ∈ m.started) ∨
      m.after.state.isVisited n = true := by
  cases h with
  | scheduled work => exact .inl ⟨_, _, work⟩
  | spoken hi active here =>
    rw [hm, hi]
    exact .inr (Stage.isVisited_of_spoken active here)
  | left hi active here named away =>
    rw [hm, hi]
    exact .inr (Stage.isVisited_of_left active here named away)
  | ended hi active here =>
    rw [hm, hi]
    exact .inr (Stage.isVisited_of_ended active here)

/-- Once everything has come to rest, an ending is done where a completion was scheduled in this
call, or the agent spoke or left it by name, or the call ended there; of the inputs that bring the
position to it, only some schedule its completion. -/
theorem ending_done_iff (run : Run S {} ms σ) (queue : σ.queue = []) (underway : σ.underway = [])
    (kind : kindOf S.flow n = some .ending) :
    (σ.tracker.state.isVisited n = true ↔
      ∃ m ∈ ms, m.after.state.epoch = σ.tracker.state.epoch ∧ m.Finishes S n) ∧
    ∀ m ∈ ms, m.isShown S = true → m.before.state.current ≠ some n →
      m.after.state.current = some n →
      ((∃ clears isEnding, .completion m.after.state.epoch n clears isEnding ∈ m.started) ↔
        m.input.Schedules S.flow n) := by
  refine ⟨⟨run.finished kind, ?_⟩, ?_⟩
  · rintro ⟨m, hm, he, finishes⟩
    rcases finishes.done (run.moment_eq hm) with ⟨clears, isEnding, work⟩ | visited
    · simpa [Scene.Due, queue, underway] using run.scheduled hm work he.symm
    · exact run.isVisited_of_mem hm visited he
  · intro m hm shown away there
    rw [run.moment_eq hm] at shown there ⊢
    exact Stage.schedules_iff kind shown away there

def namedEnding : Scene :=
  Stage.initial.hear "" {} [.callStart [], .message .assistant "[[NODE:end-1]]"]

def restingAtNamedEnding : Scene where
  tracker := (Stage.initial.apply "" (Stage.initial.apply "" namedEnding.tracker
    (.completed 1 "start-1" false)).1 (.completed 1 "end-1" false)).1

theorem named_ending_is_finished :
    restingAtNamedEnding.tracker.state.isVisited "end-1" = true ∧
      ∃ ms, Run Stage.initial {} ms restingAtNamedEnding ∧
        ∃ m ∈ ms, m.after.state.epoch = 1 ∧ m.Finishes Stage.initial "end-1" := by
  have heard : Run Stage.initial {} _ namedEnding := .hear rfl _
  have run := heard.trans <|
    .cons (.finish (show namedEnding.underway = [] ++ _ :: _ from rfl)
      (.completion 1 "start-1" false false)) <|
    .cons (.take "" rfl) <|
    .cons (.finish (show _ = [] ++ _ :: _ from rfl) (.completion 1 "end-1" false true)) <|
    .cons (.take "" rfl) (.nil restingAtNamedEnding)
  exact ⟨rfl, _, run, (ending_done_iff run rfl rfl rfl).1.mp rfl⟩

def enteredEnding : Scene :=
  Stage.initial.hear "" {}
    [.callStart [], .message .assistant "[[NODE:transfer-1]]", .speechEnd, .speechStart]

def restingAtEnteredEnding : Scene where
  tracker := (Stage.initial.apply "" enteredEnding.tracker (.completed 1 "start-1" false)).1

theorem entered_ending_is_not_done :
    Reachable Stage.initial restingAtEnteredEnding ∧
      restingAtEnteredEnding.queue = [] ∧ restingAtEnteredEnding.underway = [] ∧
      restingAtEnteredEnding.tracker.state.isActive = true ∧
      restingAtEnteredEnding.tracker.state.current = some "end-1" ∧
      kindOf Flow.initial "end-1" = some .ending ∧
      restingAtEnteredEnding.tracker.state.isVisited "end-1" = false := by
  have heard : Run Stage.initial {} _ enteredEnding := .hear rfl _
  have run := heard.trans <|
    .cons (.finish (show enteredEnding.underway = [] ++ _ :: _ from rfl)
      (.completion 1 "start-1" false false)) <|
    .cons (.take "" rfl) (.nil restingAtEnteredEnding)
  exact ⟨⟨_, run⟩, rfl, rfl, rfl, rfl, rfl, rfl⟩

end Dialogue.Call
