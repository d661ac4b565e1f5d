import Dialogue.Proofs.Call.Life
import Dialogue.Proofs.Call.Provenance
import Dialogue.Proofs.Call.Recording

/-! What people see of a call mirrors its state: the step that glows is where the position is. After
a call the glow of the ending goes out with the completion that is still to come. -/

namespace Dialogue.Call

variable {S : Stage} {σ τ : Scene} {m : Moment} {os : List Occurrence} {stamp : Stamp}
  {g : Flow} {helpers : Helpers} {t : Tracker} {i : Input} {c : Change} {x : Option String}

lemma onSpeechStart_of_highlight {s : State} (h : .highlight x ∈ onSpeechStart g s) :
    s.current = x ∧ onSpeechStart g s = [.highlight x] := by
  unfold onSpeechStart at h ⊢
  grind

lemma highlight_of_mem (h : .highlight x ∈ changes g helpers t i) :
    i = .event .callEnd ∨
      t.state.current = x ∧ ∀ next, .moveTo next ∉ changes g helpers t i := by
  cases i with
  | event e =>
    rcases mem_onEvent h with ⟨payload, rfl, hc⟩ | ⟨payload, rfl, hc⟩ | ⟨active, hc⟩
    · grind
    · grind
    · rcases hc with ⟨rfl, hc⟩ | ⟨rfl, hc⟩ | ⟨role, transcript, rfl, hc⟩ | ⟨rfl, hc⟩
      · obtain ⟨here, only⟩ := onSpeechStart_of_highlight hc
        have all : changes g helpers t (.event .speechStart) = [.highlight x] := by
          simp [changes, onEvent, active, only]
        exact .inr ⟨here, by simp [all]⟩
      · grind
      · grind
      · exact .inl rfl
  | completed epoch node clears =>
    obtain ⟨-, hc | ⟨-, here, hc⟩⟩ := mem_onCompleted h
    · cases hc
    · obtain rfl : x = none := by simpa using hc
      refine .inr ⟨here, fun next hn => ?_⟩
      cases moves_of_mem hn
  | classified epoch ticket branch intent => simp only [changes] at h; grind
  | lookedUp epoch node result => simp only [changes] at h; grind

structure Lit (g : Flow) (t : Tracker) : Prop where
  active : t.state.isActive = true → t.view.highlighted = t.state.current
  nowhere : t.state.isActive = false → t.state.current = none
  ending : t.state.isActive = false → ∀ id, t.view.highlighted = some id →
    ∃ n, g.ending? = some n ∧ n.id = id

lemma Lit.congr {u : Tracker} (h : Lit g t) (active : u.state.isActive = t.state.isActive)
    (current : u.state.current = t.state.current)
    (highlighted : u.view.highlighted = t.view.highlighted) : Lit g u := by
  refine ⟨?_, ?_, ?_⟩
  · rw [active, current, highlighted]
    exact h.active
  · rw [active, current]
    exact h.nowhere
  · rw [active, highlighted]
    exact h.ending

def Change.isAside : Change → Bool
  | complete _ | record .. | remember _ | awaitTicket _ | forgetTicket | spawn _ => true
  | _ => false

lemma perform_aside (stamp : Stamp) (t : Tracker) (h : c.isAside = true) :
    (c.perform stamp t).state.isActive = t.state.isActive ∧
      (c.perform stamp t).state.current = t.state.current ∧
      (c.perform stamp t).view.highlighted = t.view.highlighted := by
  cases c with
  | begin | fail | hangUp | moveTo | highlight | resetView => simp [Change.isAside] at h
  | complete node =>
    refine ⟨State.visit_isActive, State.visit_current, ?_⟩
    simp only [perform_view, Change.op?]
    split_ifs <;> rfl
  | record => exact ⟨by simp [Change.onState, State.record], by simp [Change.onState, State.record],
      by simp [Change.op?, Change.onView]⟩
  | _ => exact ⟨rfl, rfl, rfl⟩

def departed (s : State) : State :=
  match s.current with
  | some id => s.visit id
  | none => s

def farewell (g : Flow) (s : State) : List Change :=
  match g.ending? with
  | some n =>
    if (departed s).isVisited n.id then [.highlight none]
    else [.highlight (some n.id), .spawn (.completion s.epoch n.id true true)]
  | none => [.highlight none]

lemma farewell_cases (g : Flow) (s : State) : farewell g s = [.highlight none] ∨
    ∃ n, g.ending? = some n ∧
      farewell g s = [.highlight (some n.id), .spawn (.completion s.epoch n.id true true)] := by
  unfold farewell
  cases g.ending? with
  | none => exact .inl rfl
  | some n =>
    dsimp only
    split_ifs
    · exact .inl rfl
    · exact .inr ⟨n, rfl, rfl⟩

lemma changes_callEnd (active : t.state.isActive = true) :
    changes g helpers t (.event .callEnd) =
      t.state.current.toList.map .complete ++ farewell g t.state ++ [.hangUp] := by
  simp only [changes, onEvent, active, onCallEnd, Bool.not_true, Bool.false_eq_true, if_false]
  rfl

namespace Stage

lemma ended (stamp : Stamp) (accepts : ∀ op, S.refuses op = false)
    (active : t.state.isActive = true) :
    (S.apply stamp t (.event .callEnd)).1.state.isActive = false ∧
    (S.apply stamp t (.event .callEnd)).1.state.current = none ∧
    ((S.apply stamp t (.event .callEnd)).1.view.highlighted = none ∨
      ∃ n, S.flow.ending? = some n ∧
        (S.apply stamp t (.event .callEnd)).1.view.highlighted = some n.id ∧
        .completion t.state.epoch n.id true true ∈ (S.apply stamp t (.event .callEnd)).2) := by
  rw [apply_of_accepts accepts, changes_callEnd active]
  refine ⟨?_, ?_, ?_⟩
  · rw [follow_append]
    rfl
  · rw [follow_append]
    rfl
  · rcases farewell_cases S.flow t.state with dark | ⟨n, ending, glow⟩
    · left
      rw [dark, follow_append, follow_append]
      rfl
    · refine .inr ⟨n, ending, ?_, ?_⟩
      · rw [glow, follow_append, follow_append]
        rfl
      · rw [glow]
        simp [Change.work?]

lemma steady (stamp : Stamp) (h : Lit S.flow t) (closed : i.opens = false)
    (goesOn : i ≠ .event .callEnd) :
    (S.apply stamp t i).1.state.isActive = t.state.isActive ∧ Lit S.flow (S.apply stamp t i).1 ∧
    (t.state.isActive = false → ∀ id, (S.apply stamp t i).1.view.highlighted = some id →
      t.view.highlighted = some id) := by
  have kept : (S.apply stamp t i).1.state.isActive = t.state.isActive ∧
      Lit S.flow (S.apply stamp t i).1 ∧
      (t.state.isActive = false → ∀ id, (S.apply stamp t i).1.view.highlighted = some id →
        t.view.highlighted = some id) ∧
      ((∀ next, .moveTo next ∉ changes S.flow S.helpers t i) →
        (S.apply stamp t i).1.state.current = t.state.current) := by
    refine apply_invariant (P := fun u => u.state.isActive = t.state.isActive ∧ Lit S.flow u ∧
      (t.state.isActive = false → ∀ id, u.view.highlighted = some id →
        t.view.highlighted = some id) ∧
      ((∀ next, .moveTo next ∉ changes S.flow S.helpers t i) →
        u.state.current = t.state.current)) ⟨rfl, h, fun _ _ => id, fun _ => rfl⟩ ?_
    rintro c hc u ⟨same, lit, glow, stays⟩
    by_cases aside : c.isAside = true
    · obtain ⟨active, current, highlighted⟩ := perform_aside stamp u aside
      refine ⟨active.trans same, lit.congr active current highlighted, ?_,
        fun none => current.trans (stays none)⟩
      rw [highlighted]
      exact glow
    cases c with
    | begin =>
      exact absurd ((opens_of_mem hc rfl).symm.trans closed) (by simp)
    | fail =>
      exact absurd ((opens_of_mem hc rfl).symm.trans closed) (by simp)
    | resetView =>
      exact absurd ((opens_of_mem hc rfl).symm.trans closed) (by simp)
    | hangUp => exact absurd (callEnd_of_mem hc) goesOn
    | moveTo next =>
      have active : t.state.isActive = true := by
        have moves := moves_of_mem hc
        cases moves with
        | opening => simp [Input.opens] at closed
        | _ => assumption
      refine ⟨same, ⟨fun _ => rfl, ?_, ?_⟩, ?_, fun none => absurd hc (none next)⟩
      · exact fun idle => absurd ((same.trans active).symm.trans idle) (by simp)
      · exact fun idle => absurd ((same.trans active).symm.trans idle) (by simp)
      · exact fun idle => absurd (active.symm.trans idle) (by simp)
    | highlight x =>
      obtain ⟨here, put⟩ := (highlight_of_mem hc).resolve_left goesOn
      have current : u.state.current = x := (stays put).trans here
      have dark : t.state.isActive = false → x = none :=
        fun idle => here.symm.trans (h.nowhere idle)
      refine ⟨same, ⟨fun _ => current.symm, lit.nowhere, ?_⟩, ?_, stays⟩
      · intro idle id glows
        have none : x = none := dark (same.symm.trans idle)
        simp [Change.op?, Change.onView, View.apply, none] at glows
      · intro idle id glows
        simp [Change.op?, Change.onView, View.apply, dark idle] at glows
    | _ => exact absurd rfl aside
  exact ⟨kept.1, kept.2.1, kept.2.2.1⟩

lemma isActive_of_started (accepts : ∀ op, S.refuses op = false) (payload : Fields) :
    (S.apply stamp t (.event (.callStart payload))).1.state.isActive = true ∧
      (S.apply stamp t (.event (.callStart payload))).1.view.highlighted =
        (S.apply stamp t (.event (.callStart payload))).1.state.current := by
  rw [apply_of_accepts accepts]
  have split : changes S.flow S.helpers t (.event (.callStart payload)) =
      .begin (Event.phone payload) (Event.handle payload) :: .resetView ::
        arrival S.flow t.state := rfl
  dsimp only
  rw [split, follow_cons, follow_cons]
  refine follow_invariant (P := fun u => u.state.isActive = true ∧
    u.view.highlighted = u.state.current) ⟨rfl, rfl⟩ ?_
  rintro c hc u ⟨active, glow⟩
  obtain ⟨n, -, rfl | rfl⟩ := mem_arrival hc
  · exact ⟨active, rfl⟩
  · exact ⟨active, glow⟩

lemma dark_of_failed (accepts : ∀ op, S.refuses op = false) (payload : Json) :
    (S.apply stamp t (.event (.failure payload))).1.state.isActive = false ∧
      (S.apply stamp t (.event (.failure payload))).1.state.current = none ∧
      (S.apply stamp t (.event (.failure payload))).1.view.highlighted = none := by
  rw [apply_of_accepts accepts]
  exact ⟨rfl, rfl, rfl⟩

lemma apply_callEnd_of_idle (idle : t.state.isActive = false) :
    S.apply stamp t (.event .callEnd) = (t, []) :=
  apply_of_no_changes (by simp [changes, onEvent, idle])

lemma lit (accepts : ∀ op, S.refuses op = false) (h : Lit S.flow t) :
    Lit S.flow (S.apply stamp t i).1 := by
  by_cases closed : i.opens = false ∧ i ≠ .event .callEnd
  · exact (steady stamp h closed.1 closed.2).2.1
  · cases i with
    | event e =>
      cases e with
      | callStart payload =>
        have ⟨active, glow⟩ :
            (S.apply stamp t (.event (.callStart payload))).1.state.isActive = true ∧ _ :=
          isActive_of_started accepts payload
        exact ⟨fun _ => glow, fun idle => absurd (active.symm.trans idle) (by simp),
          fun idle => absurd (active.symm.trans idle) (by simp)⟩
      | failure payload =>
        have ⟨idle, nowhere, dark⟩ :
            (S.apply stamp t (.event (.failure payload))).1.state.isActive = false ∧ _ ∧ _ :=
          dark_of_failed accepts payload
        exact ⟨fun active => absurd (idle.symm.trans active) (by simp), fun _ => nowhere,
          fun _ id glows => absurd (dark.symm.trans glows) (by simp)⟩
      | callEnd =>
        cases active : t.state.isActive with
        | false =>
          rw [apply_callEnd_of_idle active]
          exact h
        | true =>
          obtain ⟨idle, nowhere, glow⟩ := ended stamp accepts active
          refine ⟨fun active => absurd (idle.symm.trans active) (by simp), fun _ => nowhere, ?_⟩
          intro _ id glows
          rcases glow with dark | ⟨n, ending, glow, -⟩
          · exact absurd (dark.symm.trans glows) (by simp)
          · exact ⟨n, ending, Option.some.inj (glow.symm.trans glows)⟩
      | _ => simp [Input.opens] at closed
    | _ => simp [Input.opens] at closed

lemma dark_of_cleared (accepts : ∀ op, S.refuses op = false) {id : String}
    (nowhere : t.state.current = none) :
    (S.apply stamp t (.completed t.state.epoch id true)).1.view.highlighted = none := by
  rw [apply_of_accepts accepts]
  have split : changes S.flow S.helpers t (.completed t.state.epoch id true) =
      [.complete id] ++ [.highlight none] := by
    simp [changes, onCompleted, nowhere]
  rw [split, follow_append]
  rfl

lemma glows_cases (accepts : ∀ op, S.refuses op = false) (h : Lit S.flow t) {id : String}
    (idle : (S.apply stamp t i).1.state.isActive = false)
    (glows : (S.apply stamp t i).1.view.highlighted = some id) :
    (t.state.isActive = false ∧ t.view.highlighted = some id ∧
      (S.apply stamp t i).1.state.epoch = t.state.epoch ∧ i ≠ .completed t.state.epoch id true) ∨
    ∃ isEnding, .completion (S.apply stamp t i).1.state.epoch id true isEnding ∈
      (S.apply stamp t i).2 := by
  by_cases closed : i.opens = false ∧ i ≠ .event .callEnd
  · obtain ⟨same, -, before⟩ := steady stamp h closed.1 closed.2
    have idle' : t.state.isActive = false := same.symm.trans idle
    refine .inl ⟨idle', before idle' id glows, epoch_eq closed.1, ?_⟩
    rintro rfl
    exact absurd ((dark_of_cleared accepts (h.nowhere idle')).symm.trans glows) (by simp)
  · cases i with
    | event e =>
      cases e with
      | callStart payload =>
        exact absurd ((isActive_of_started accepts payload).1.symm.trans idle) (by simp)
      | failure payload =>
        exact absurd ((dark_of_failed accepts payload).2.2.symm.trans glows) (by simp)
      | callEnd =>
        cases active : t.state.isActive with
        | false =>
          rw [apply_callEnd_of_idle active] at glows ⊢
          exact .inl ⟨rfl, glows, rfl, by simp⟩
        | true =>
          obtain ⟨-, -, dark | ⟨n, -, glow, started⟩⟩ := ended stamp accepts active
          · exact absurd (dark.symm.trans glows) (by simp)
          · obtain rfl : n.id = id := Option.some.inj (glow.symm.trans glows)
            rw [epoch_eq rfl]
            exact .inr ⟨true, started⟩
      | _ => simp [Input.opens] at closed
    | _ => simp [Input.opens] at closed

end Stage

/-- Tracking was stopped, and no call has ended since. -/
def StoppedSince (os : List Occurrence) : Prop :=
  ∃ before after, os = before ++ .stopped :: after ∧
    ∀ m, .taken m ∈ after → m.input = .event .callEnd → m.before.state.isActive = false

lemma StoppedSince.append {m : Option Moment} (h : StoppedSince os)
    (goesOn : ∀ k ∈ m, k.input = .event .callEnd → k.before.state.isActive = false) :
    StoppedSince (os ++ m.toList.map .taken) := by
  obtain ⟨before, after, rfl, none⟩ := h
  refine ⟨before, after ++ m.toList.map .taken, by simp, ?_⟩
  intro k hk
  rcases List.mem_append.mp hk with hk | hk
  · exact none k hk
  · exact goesOn k (by simpa using hk)

namespace Life

lemma recorded (accepts : ∀ op, S.refuses op = false) (h : Life S {} os σ) :
    Recorded σ.tracker ∧ Lit S.flow σ.tracker := by
  obtain ⟨ws, run, -⟩ := h.run
  refine run.tracker_invariant (P := fun t => Recorded t ∧ Lit S.flow t) ⟨?_, ?_⟩
    fun _ _ _ ht => ⟨Stage.recorded accepts ht.1, Stage.lit accepts ht.2⟩
  · exact ⟨rfl, rfl, View.Tidy.fresh⟩
  · exact ⟨by simp, by simp, by simp⟩

lemma clears (accepts : ∀ op, S.refuses op = false) (h : Life S {} os σ) {id : String}
    (idle : σ.tracker.state.isActive = false) (glows : σ.tracker.view.highlighted = some id) :
    σ.Due σ.tracker.state.epoch id true ∨ StoppedSince os := by
  induction h with
  | nil => simp at glows
  | stop _ ih => exact .inr ⟨_, [], rfl, by simp⟩
  | @step α β os m h hs ih =>
    have goesOn : α.Due α.tracker.state.epoch id true → _ := hs.due
    cases hs with
    | submit | finish =>
      rcases ih idle glows with due | stopped
      · exact .inl ((goesOn due).resolve_right (by simp))
      · exact .inr (stopped.append (m := none) (by simp))
    | @take i rest stamp hq =>
      rcases Stage.glows_cases accepts (h.recorded accepts).2 idle glows with
        ⟨idle', glows', same, other⟩ | ⟨isEnding, started⟩
      · rcases ih idle' glows' with due | stopped
        · rcases goesOn due with due | ⟨_, now, taken⟩
          · exact .inl (same.symm ▸ due)
          · obtain rfl := Option.some.inj now
            exact absurd taken other
        · refine .inr (stopped.append (m := some _) ?_)
          intro k hk _
          obtain rfl : S.moment stamp α.tracker i = k := by simpa using hk
          exact idle'
      · exact .inl (.inl ⟨isEnding, List.mem_append_right _ started⟩)

end Life

theorem view_mirrors_state (accepts : ∀ op, S.refuses op = false) (life : Life S {} os σ) :
    σ.tracker.view.completed = σ.tracker.state.visited ∧
    (σ.tracker.state.isActive = true → σ.tracker.view.highlighted = σ.tracker.state.current) ∧
    (σ.tracker.state.isActive = false → σ.tracker.state.current = none ∧
      ∀ id, σ.tracker.view.highlighted = some id →
        (∃ n, S.flow.ending? = some n ∧ n.id = id) ∧ (σ.Due σ.tracker.state.epoch id true ∨ StoppedSince os)) ∧
    σ.tracker.view.ops.count .reset = σ.tracker.state.epoch ∧
    ∀ before stretch after id, σ.tracker.view.ops = before ++ stretch ++ after →
      .reset ∉ stretch → stretch.count (.complete id) ≤ 1 := by
  obtain ⟨recorded, lit⟩ := life.recorded accepts
  refine ⟨recorded.completed, lit.active, ?_, recorded.resets, recorded.tidy.once⟩
  intro idle
  refine ⟨lit.nowhere idle, fun id glows => ?_⟩
  exact ⟨lit.ending idle id glows, life.clears accepts idle glows⟩

def shortCall : List Event := [.callStart [], .callEnd]

def afterShortCall : Scene := Stage.initial.hear "" {} shortCall

theorem glow_after_short_call_is_cleared :
    afterShortCall.tracker.state.isActive = false ∧
      afterShortCall.tracker.view.highlighted = some "end-1" ∧ afterShortCall.Due 1 "end-1" true := by
  have life : Life Stage.initial {} ((Stage.initial.heard "" {} shortCall).map .taken)
      afterShortCall := Run.life (.hear rfl _)
  refine ⟨rfl, rfl, ?_⟩
  obtain ⟨-, -, idle, -⟩ := view_mirrors_state (fun _ => rfl) life
  refine ((idle rfl).2 "end-1" rfl).2.resolve_right ?_
  rintro ⟨before, after, split, -⟩
  have stopped : Occurrence.stopped ∈ (Stage.initial.heard "" {} shortCall).map .taken := by
    rw [split]
    simp
  simp at stopped

theorem glow_stays_after_stop :
    Life Stage.initial {} ((Stage.initial.heard "" {} shortCall).map .taken ++ [.stopped])
        { afterShortCall with underway := [] } ∧
      afterShortCall.tracker.state.isActive = false ∧
      afterShortCall.tracker.view.highlighted = some "end-1" ∧
      ¬ Scene.Due { afterShortCall with underway := [] } 1 "end-1" true := by
  have life : Life Stage.initial {} ((Stage.initial.heard "" {} shortCall).map .taken)
      afterShortCall := Run.life (.hear rfl _)
  have queue : afterShortCall.queue = [] := rfl
  refine ⟨.stop life, rfl, rfl, ?_⟩
  rintro (⟨isEnding, work⟩ | report)
  · simp at work
  · simp [queue] at report

end Dialogue.Call
