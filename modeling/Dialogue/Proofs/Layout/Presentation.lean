import Dialogue.Proofs.Call.Scheduling
import Dialogue.Proofs.Layout.Moving

/-! Where the steps of a flow are is presentation only: a flow with steps that were moved is as
sound, has the same script, and leads every call the same way. -/

namespace Dialogue.Call

open Layout

variable {g : Flow} {P : Positions} {helpers : Helpers} {t : Tracker} {s : State} {id : String}

/-! What an input does to a call -/

lemma kindOf_apply : kindOf (apply P g) id = kindOf g id := by
  rw [kindOf, node?_apply, Option.map_map]
  rfl

lemma arrive_apply (node : String) : arrive (apply P g) s node = arrive g s node := by
  rw [arrive, kindOf_apply, arrive]

lemma onCallStart_apply (payload : Fields) :
    onCallStart (apply P g) s payload = onCallStart g s payload := by
  rw [onCallStart, start?_apply, onCallStart]
  cases g.start? <;> rfl

lemma onSpeechStart_apply : onSpeechStart (apply P g) s = onSpeechStart g s := by
  simp only [onSpeechStart, kindOf_apply, next?_apply]

lemma onSpeechEnd_apply : onSpeechEnd (apply P g) helpers s = onSpeechEnd g helpers s := by
  rw [onSpeechEnd, onSpeechEnd]
  cases s.current with
  | none => rfl
  | some id =>
    simp only [next?_apply, arrive_apply]
    rw [bind_node?_apply, node?_apply]
    cases g.node? id with
    | none => rfl
    | some n => cases (g.next? id).bind g.node? <;> rfl

lemma classify_apply (branch utterance : String) :
    classify (apply P g) t branch utterance = classify g t branch utterance := by
  rw [classify, candidates_apply, classify]

lemma onMarker_apply (marked : String) : onMarker (apply P g) s marked = onMarker g s marked := by
  rw [onMarker, arrive_apply, onMarker]

lemma onUnmarked_apply : onUnmarked (apply P g) s = onUnmarked g s := by
  simp only [onUnmarked, kindOf_apply, next?_apply, matchEdge_apply]

lemma onAssistant_apply (transcript : String) :
    onAssistant (apply P g) s transcript = onAssistant g s transcript := by
  simp only [onAssistant, markedStep, node?_apply, Option.isSome_map, onMarker_apply,
    onUnmarked_apply]

lemma onUser_apply (transcript : String) :
    onUser (apply P g) t transcript = onUser g t transcript := by
  rw [onUser, onUser]
  cases t.state.current with
  | none => rfl
  | some id =>
    simp only [kindOf_apply, next?_apply, classify_apply]
    rw [bind_node?_apply]
    cases (g.next? id).bind g.node? <;> rfl

lemma onCallEnd_apply : onCallEnd (apply P g) s = onCallEnd g s := by
  rw [onCallEnd, ending?_apply, onCallEnd]
  cases g.ending? <;> rfl

lemma changes_apply (helpers : Helpers) (t : Tracker) (i : Input) :
    changes (apply P g) helpers t i = changes g helpers t i := by
  cases i with
  | event e =>
    cases e <;> simp only [changes, onEvent, onCallStart_apply, onSpeechStart_apply,
      onSpeechEnd_apply, onMessage, onAssistant_apply, onUser_apply, onCallEnd_apply]
  | completed => rfl
  | classified => simp only [changes, onClassified, matchEdge_apply]
  | lookedUp => rfl

/-! Runs -/

lemma Step.congr {R S : Stage} {σ τ : Scene} {m : Option Moment} (same : R.apply = S.apply)
    (h : Step S σ m τ) : Step R σ m τ := by
  cases h with
  | submit e => exact .submit σ e
  | finish among ends => exact .finish among ends
  | @take i rest stamp first =>
    have moment : S.moment stamp σ.tracker i = R.moment stamp σ.tracker i := by
      rw [Stage.moment, Stage.moment, same]
    rw [moment, ← same]
    exact .take stamp first

lemma Run.congr {R S : Stage} {σ τ : Scene} {ms : List Moment} (same : R.apply = S.apply)
    (h : Run S σ ms τ) : Run R σ ms τ := by
  induction h with
  | nil => exact .nil σ
  | snoc _ step ih => exact ih.snoc (step.congr same)

lemma run_apply_iff {refuses : ViewOp → Bool} {σ τ : Scene} {ms : List Moment} :
    Run ⟨apply P g, helpers, refuses⟩ σ ms τ ↔ Run ⟨g, helpers, refuses⟩ σ ms τ := by
  have same : Stage.apply ⟨apply P g, helpers, refuses⟩ = Stage.apply ⟨g, helpers, refuses⟩ := by
    funext stamp t i
    rw [Stage.apply, Stage.apply, changes_apply]
  exact ⟨.congr same.symm, .congr same⟩

/-! Engines -/

namespace Engine

variable {e : Engine}

def relaid (P : Positions) (e : Engine) : Engine := { e with flow := apply P e.flow }

lemma applyOne_relaid (i : Input) :
    (e.relaid P).applyOne i = ((e.applyOne i).1.relaid P, (e.applyOne i).2) := by
  simp only [applyOne, relaid, changes_apply]

lemma applyAll_relaid (is : List Input) :
    (e.relaid P).applyAll is = ((e.applyAll is).1.relaid P, (e.applyAll is).2) := by
  induction is generalizing e with
  | nil => rfl
  | cons i rest ih => simp only [applyAll, applyOne_relaid, ih]

lemma begin_relaid (w : Work) : (e.relaid P).begin w = (e.begin w).relaid P := by
  have around : (e.relaid P).surroundings = e.surroundings := rfl
  cases w with
  | completion epoch node clears isEnding =>
    rw [begin, begin, apply_ite (relaid P)]
    rfl
  | classification epoch ticket branch utterance candidates =>
    simp only [begin, around]
    cases e.surroundings.classify utterance candidates <;> rfl
  | lookup epoch node spec phone =>
    have sought : (e.relaid P).lookedUp = e.lookedUp := rfl
    simp only [begin, around, sought]
    cases e.surroundings.lookup with
    | none => rfl
    | some ask =>
      dsimp only
      cases ask e.lookedUp.length spec phone <;> rfl
  | injection => rfl

lemma finish_relaid (w : Work) : (e.relaid P).finish w = (e.finish w).relaid P := by
  cases w with
  | completion epoch node clears isEnding =>
    rw [finish, finish, apply_ite (relaid P)]
    rfl
  | classification | lookup | injection => rfl

lemma round_relaid (e : Engine) : (e.relaid P).round = e.round.relaid P := by
  have taken : ({ e.relaid P with queue := [] } : Engine).applyAll (e.relaid P).queue =
      ((applyAll { e with queue := [] } e.queue).1.relaid P,
        (applyAll { e with queue := [] } e.queue).2) :=
    applyAll_relaid (e := { e with queue := [] }) e.queue
  have started (works : List Work) (e : Engine) :
      works.foldl begin (e.relaid P) = (works.foldl begin e).relaid P :=
    List.foldl_hom (relaid P) fun _ w => begin_relaid w
  have ended (works : List Work) (e : Engine) :
      works.foldl finish (e.relaid P) = (works.foldl finish e).relaid P :=
    List.foldl_hom (relaid P) fun _ w => finish_relaid w
  simp only [round, taken, started, ended]

lemma settle_relaid (e : Engine) : (e.relaid P).settle = e.settle.relaid P := by
  rw [settle, round_relaid, round_relaid, settle, apply_ite (relaid P)]
  rfl

lemma fire_relaid (t : Timer) : (e.relaid P).fire t = (e.fire t).relaid P :=
  settle_relaid { e with
    now := max e.now t.due, timers := withoutFirst t.due e.timers, queue := e.queue ++ [t.input] }

lemma fireDue_relaid (limit : Option Micros) (count : Nat) :
    fireDue limit count (e.relaid P) = (fireDue limit count e).relaid P := by
  induction count generalizing e with
  | zero => rfl
  | succ count ih =>
    have timers : (e.relaid P).timers = e.timers := rfl
    simp only [fireDue, timers, fire_relaid, ih]
    cases earliest e.timers with
    | none => rfl
    | some t => exact (apply_ite (relaid P) ..).symm

lemma answerClassification_relaid (number : Nat) (intent : Option String) :
    ((e.relaid P).answerClassification number intent).1 =
      (e.answerClassification number intent).1.relaid P := by
  have waiting : (e.relaid P).classifying = e.classifying := rfl
  rw [answerClassification, waiting, answerClassification]
  cases e.classifying.find? (·.number = number) with
  | none => rfl
  | some p =>
    exact settle_relaid
      ({ e with classifying := removeNumber number e.classifying }.push (p.report intent))

lemma answerLookup_relaid (number : Nat) (result : Lookup.Result) :
    ((e.relaid P).answerLookup number result).1 = (e.answerLookup number result).1.relaid P := by
  have waiting : (e.relaid P).lookingUp = e.lookingUp := rfl
  rw [answerLookup, waiting, answerLookup]
  cases e.lookingUp.find? (·.number = number) with
  | none => rfl
  | some p =>
    exact settle_relaid
      ({ e with lookingUp := removeNumber number e.lookingUp }.push (p.report result))

lemma perform_relaid (op : Operation) : (e.relaid P).perform op = (e.perform op).relaid P := by
  cases op with
  | submit events => exact settle_relaid { e with queue := e.queue ++ events.map .event }
  | start => exact settle_relaid { e with running := true }
  | stop => rfl
  | advanceTo moment =>
    exact congrArg (fun f : Engine => { f with now := moment }) (fireDue_relaid ..)
  | drain => exact fireDue_relaid ..
  | answerClassification => exact answerClassification_relaid ..
  | answerLookup => exact answerLookup_relaid ..

lemma foldl_perform_relaid (ops : List Operation) :
    ops.foldl perform (e.relaid P) = (ops.foldl perform e).relaid P :=
  List.foldl_hom (relaid P) fun _ op => perform_relaid op

end Engine

end Dialogue.Call

namespace Dialogue.Layout

open Call

variable {s : LevelSpacing Length}

lemma byLevel_fixed (g : Flow) : byLevel s (apply (byLevel s g) g) = byLevel s g :=
  byLevel_apply.trans (current_apply keys_byLevel)

/-- The steps stay what they are and only those with a given position are moved; soundness, script,
calls and later layouts are those of the flow as it was. -/
theorem placing_is_presentation (g : Flow) (P : Positions) :
    (List.Forall₂
        (fun n m => m.id = n.id ∧ m.kind = n.kind ∧ m.data = n.data ∧ m.extras = n.extras ∧
          m.position = (P.lookup n.id).getD n.position ∧ (n.id ∉ P.map Prod.fst → m = n))
        g.nodes (apply P g).nodes ∧
      (apply P g).edges = g.edges) ∧
    ((apply P g).violations = g.violations ∧ Script.compile (apply P g) = Script.compile g ∧
      Script.publish (apply P g) = Script.publish g) ∧
    ((∀ helpers refuses σ ms τ,
        Run ⟨apply P g, helpers, refuses⟩ σ ms τ ↔ Run ⟨g, helpers, refuses⟩ σ ms τ) ∧
      ∀ (u : Surroundings) (ops : List Engine.Operation),
        ops.foldl Engine.perform { flow := apply P g, surroundings := u } =
          (ops.foldl Engine.perform { flow := g, surroundings := u }).relaid P) ∧
    (∀ direction s, byLayer direction s (apply P g) = byLayer direction s g) ∧
    ∀ s, byLevel s (apply (byLevel s g) g) = byLevel s g := by
  refine ⟨⟨?_, rfl⟩, ⟨violations_apply, compile_apply, publish_apply⟩,
    ⟨fun _ _ _ _ _ => run_apply_iff, fun u ops => ?_⟩, fun _ _ => byLayer_apply _ _,
    fun _ => byLevel_fixed g⟩
  · rw [nodes_apply, List.forall₂_map_right_iff, List.forall₂_same]
    exact fun n _ => ⟨rfl, rfl, rfl, rfl, rfl, moved_of_notMem⟩
  · exact Engine.foldl_perform_relaid (e := { flow := g, surroundings := u }) ops

end Dialogue.Layout
