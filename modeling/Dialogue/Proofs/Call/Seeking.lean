import Dialogue.Flow.Validation
import Dialogue.Proofs.Call.Path

/-! Lookups: the lookup of an action is dispatched each time that the agent stops speaking there,
whether or not the step is done by then. -/

namespace Dialogue.Call

variable {S : Stage} {σ τ : Scene} {m : Moment} {ms : List Moment} {os : List Occurrence}
  {stamp : Stamp} {t : Tracker} {i : Input} {w : Work} {epoch : Nat} {id : String}

def Work.isLookup : Work → Bool
  | .lookup .. => true
  | _ => false

def Work.seeks (epoch : Nat) (id : String) : Work → Bool
  | .lookup e node .. => e == epoch && node == id
  | _ => false

def lookups (epoch : Nat) (id : String) (ms : List Moment) : Nat :=
  (ms.flatMap Moment.started).countP (Work.seeks epoch id)

namespace Stage

def asksAt (S : Stage) (id : String) : Bool :=
  S.helpers.looksUp && (S.flow.node? id).any fun n => match n.content with
    | .action _ _ (some spec) => !spec.endpoint.isEmpty
    | _ => false

def endsSpeech (S : Stage) (epoch : Nat) (id : String) (t : Tracker) : Input → Bool
  | .event .speechEnd => t.state.isActive && t.state.epoch == epoch &&
      t.state.current == some id && (t.state.isVisited id || !S.refuses (.complete id))
  | _ => false

end Stage

def Moment.endsSpeech (S : Stage) (epoch : Nat) (id : String) (m : Moment) : Bool :=
  S.endsSpeech epoch id m.before m.input

def Moment.endsFirstSpeech (S : Stage) (epoch : Nat) (id : String) (m : Moment) : Bool :=
  m.endsSpeech S epoch id && !m.before.state.isVisited id

@[simp] lemma lookups_append {ns : List Moment} :
    lookups epoch id (ms ++ ns) = lookups epoch id ms + lookups epoch id ns := by
  simp [lookups]

lemma seeks_iff : w.seeks epoch id = true ↔ ∃ spec phone, w = .lookup epoch id spec phone := by
  cases w <;> simp [Work.seeks]

lemma isLookup_of_seeks (h : w.seeks epoch id = true) : w.isLookup = true := by
  obtain ⟨spec, phone, rfl⟩ := seeks_iff.mp h
  rfl

namespace Stage

lemma asksAt_iff : S.asksAt id = true ↔ S.helpers.looksUp = true ∧ ∃ n spoken actionType spec,
    S.flow.node? id = some n ∧ n.content = .action spoken actionType (some spec) ∧
      spec.endpoint.isEmpty = false := by
  unfold asksAt
  cases S.flow.node? id with
  | none => simp
  | some n =>
    cases content : n.content with
    | action spoken actionType lookup => cases lookup <;> simp [content]
    | _ => simp [content]

lemma endsSpeech_iff : S.endsSpeech epoch id t i = true ↔ i = .event .speechEnd ∧
    t.state.isActive = true ∧ t.state.epoch = epoch ∧ t.state.current = some id ∧
      (t.state.isVisited id = true ∨ S.refuses (.complete id) = false) := by
  cases i with
  | event e => cases e <;> simp [endsSpeech, and_assoc]
  | _ => simp [endsSpeech]

lemma dispatches (stamp : Stamp) (asks : S.asksAt id = true)
    (ends : S.endsSpeech epoch id t i = true) :
    ∃ spec rest, (S.apply stamp t i).2 = .lookup epoch id spec t.state.phone :: rest ∧
      ∀ w ∈ rest, w.isLookup = false := by
  obtain ⟨helper, n, spoken, actionType, spec, node, content, filled⟩ := asksAt_iff.mp asks
  obtain ⟨rfl, active, rfl, here, shown⟩ := endsSpeech_iff.mp ends
  obtain rfl := Flow.node?_id node
  obtain ⟨onward, split, quiet⟩ : ∃ onward, changes S.flow S.helpers t (.event .speechEnd) =
      .complete n.id :: .spawn (.lookup t.state.epoch n.id spec t.state.phone) :: onward ∧
        ∀ w, .spawn w ∈ onward → w.isLookup = false := by
    have kind : n.kind = .action := by rw [Node.kind, content]; rfl
    simp only [changes, onEvent, active, Bool.not_true, Bool.false_eq_true, ↓reduceIte,
      onSpeechEnd, here, node, kind, reduceCtorEq, decide_false, decide_true, Bool.or_true,
      lookupWork, content, filled, helper, Bool.or_self, List.cons_append, List.nil_append,
      List.cons.injEq, true_and, exists_eq_left']
    -- Only the changes after the lookup are left, those of the arrival at the next step.
    intro w hw
    cases onto : (S.flow.next? n.id).bind S.flow.node? with
    | none => simp [onto] at hw
    | some next =>
      simp only [onto] at hw
      split at hw
      · cases hw
      · rcases mem_arrive.mp hw with h | ⟨-, h⟩
        · cases h
        · cases h
          rfl
  have unrefused : ¬ (((Change.complete n.id).op? t.state).any S.refuses = true) := by
    rcases shown with visited | allowed
    · simp [Change.op?, visited]
    · simp only [Change.op?]
      split <;> simp [allowed]
  refine ⟨spec, (carryOut stamp S.refuses onward (Change.perform stamp
    ((Change.complete n.id).perform stamp t)
      (.spawn (.lookup t.state.epoch n.id spec t.state.phone)))).2, ?_, ?_⟩
  · rw [apply, split, carryOut, if_neg unrefused]
    dsimp only
    rw [carryOut_cons_of_unseen rfl]
    rfl
  · intro w hw
    obtain ⟨done, prefixed, carried⟩ := carryOut_prefix stamp S.refuses onward
      (Change.perform stamp ((Change.complete n.id).perform stamp t)
        (.spawn (.lookup t.state.epoch n.id spec t.state.phone)))
    rw [carried] at hw
    exact quiet w (prefixed.subset (mem_works.mp hw))

lemma asks_of_lookup {spec : Lookup} {phone : Option String}
    (h : .lookup epoch id spec phone ∈ (S.apply stamp t i).2) :
    S.asksAt id = true ∧ S.endsSpeech epoch id t i = true := by
  cases starts h with
  | @action x n spoken actionType _ active here node content filled helper =>
    obtain rfl := Flow.node?_id node
    refine ⟨asksAt_iff.mpr ⟨helper, n, spoken, actionType, spec, node, content, filled⟩,
      endsSpeech_iff.mpr ⟨rfl, active, rfl, here, ?_⟩⟩
    by_contra refused
    simp only [not_or, Bool.not_eq_true, Bool.not_eq_false] at refused
    obtain ⟨rest, split⟩ : ∃ rest, changes S.flow S.helpers t (.event .speechEnd) =
        .complete n.id :: rest := by
      simp [changes, onEvent, onSpeechEnd, active, here]
    rw [apply, split, carryOut, if_pos (by simp [Change.op?, refused.1, refused.2])] at h
    simp at h

lemma countP_seeks : (S.apply stamp t i).2.countP (Work.seeks epoch id) =
    if S.asksAt id && S.endsSpeech epoch id t i then 1 else 0 := by
  split
  · next h =>
    obtain ⟨asks, ends⟩ := (Bool.and_eq_true _ _).mp h
    obtain ⟨spec, rest, split, quiet⟩ := dispatches stamp asks ends
    have none : rest.countP (Work.seeks epoch id) = 0 := by
      refine List.countP_eq_zero.mpr fun w hw seeks => ?_
      simpa [quiet w hw] using isLookup_of_seeks seeks
    simp [split, none, Work.seeks]
  · next h =>
    refine List.countP_eq_zero.mpr fun w hw seeks => h ?_
    obtain ⟨spec, phone, rfl⟩ := seeks_iff.mp seeks
    simpa using asks_of_lookup hw

lemma countP_isLookup_le : (S.apply stamp t i).2.countP Work.isLookup ≤ 1 := by
  by_cases found : ∃ w ∈ (S.apply stamp t i).2, w.isLookup = true
  · obtain ⟨w, hw, lookup⟩ := found
    cases w with
    | lookup epoch id spec phone =>
      obtain ⟨asks, ends⟩ := asks_of_lookup hw
      obtain ⟨spec, rest, split, quiet⟩ := dispatches stamp asks ends
      have none : rest.countP Work.isLookup = 0 := List.countP_eq_zero.mpr fun w hw =>
        by simp [quiet w hw]
      rw [split, List.countP_cons, none]
      split <;> decide
    | _ => cases lookup
  · rw [List.countP_eq_zero.mpr fun w hw h => found ⟨w, hw, h⟩]
    exact Nat.zero_le 1

end Stage

lemma lookups_singleton : lookups epoch id [S.moment stamp t i] =
    if S.asksAt id && S.endsSpeech epoch id t i then 1 else 0 := by
  rw [lookups, List.flatMap_singleton]
  exact Stage.countP_seeks

namespace Run

lemma lookups_eq (h : Run S σ ms τ) : lookups epoch id ms =
    if S.asksAt id then ms.countP (Moment.endsSpeech S epoch id) else 0 := by
  induction h with
  | nil => simp [lookups]
  | snoc _ hs ih =>
    rw [lookups_append, ih]
    cases hs with
    | submit | finish => simp [lookups]
    | @take i rest stamp hq =>
      rw [Option.toList_some, lookups_singleton, List.countP_append, List.countP_singleton]
      cases S.asksAt id <;> cases ends : S.endsSpeech epoch id _ i <;>
        simp [Moment.endsSpeech, ends]

lemma firstSpeeches_le (h : Run S {} ms σ) :
    ms.countP (Moment.endsFirstSpeech S epoch id) ≤ 1 ∧
      (0 < ms.countP (Moment.endsFirstSpeech S epoch id) → epoch ≤ σ.tracker.state.epoch ∧
        (σ.tracker.state.epoch = epoch → σ.tracker.state.isVisited id = true)) := by
  induction h with
  | nil => simp
  | @snoc α β ms m h hs ih =>
    cases hs with
    | submit | finish => simpa using ih
    | @take i rest stamp hq =>
      have grows : α.tracker.state.epoch ≤ (S.apply stamp α.tracker i).1.state.epoch :=
        Stage.epoch_le
      rw [Option.toList_some, List.countP_append, List.countP_singleton]
      obtain ⟨le, seen⟩ := ih
      split
      · next first =>
        obtain ⟨ends, new⟩ := (Bool.and_eq_true _ _).mp first
        obtain ⟨rfl, active, same, here, -⟩ := Stage.endsSpeech_iff.mp ends
        have none : ms.countP (Moment.endsFirstSpeech S epoch id) = 0 := by
          by_contra some
          simp [(seen (Nat.pos_of_ne_zero some)).2 same] at new
        refine ⟨by omega, fun _ => ⟨same ▸ grows, fun _ => ?_⟩⟩
        exact Stage.isVisited_of_spoken active here
      · refine ⟨le, fun some => ?_⟩
        obtain ⟨since, visited⟩ := seen some
        refine ⟨Nat.le_trans since grows, fun same => ?_⟩
        have before : α.tracker.state.epoch = epoch := Nat.le_antisymm (same ▸ grows) since
        exact Stage.isVisited_mono (visited before) (same.trans before.symm)

lemma done_of_lookup {spec : Lookup} {phone : Option String} (h : Run S σ ms τ) (hm : m ∈ ms)
    (hw : .lookup epoch id spec phone ∈ m.started) :
    m.after.state.epoch = epoch ∧ m.after.state.isVisited id = true := by
  refine ⟨h.epoch_of_started hm hw rfl, ?_⟩
  rw [h.moment_eq hm] at hw ⊢
  obtain ⟨input, active, -, here, -⟩ := Stage.endsSpeech_iff.mp (Stage.asks_of_lookup hw).2
  rw [input]
  exact Stage.isVisited_of_spoken active here

end Run

/-- A lookup is dispatched as its action is done, and again with each speech that ends there later:
as often as speeches end at the action, and at most once where none ends there that is done. -/
theorem action_is_looked_up_once_iff (life : Life S {} os σ) :
    (∀ epoch id, lookups epoch id (moments os) =
      if S.asksAt id then (moments os).countP (Moment.endsSpeech S epoch id) else 0) ∧
    ((∀ epoch id, lookups epoch id (moments os) ≤ 1) ↔ ∀ epoch id, S.asksAt id = true →
      (moments os).countP (Moment.endsSpeech S epoch id) ≤ 1) ∧
    (∀ epoch id, (∀ m ∈ moments os, m.endsSpeech S epoch id = true →
      m.before.state.isVisited id = false) → lookups epoch id (moments os) ≤ 1) ∧
    ∀ m ∈ moments os, ∀ epoch id spec phone, .lookup epoch id spec phone ∈ m.started →
      m.after.state.epoch = epoch ∧ m.after.state.isVisited id = true := by
  obtain ⟨ws, run, -⟩ := life.run
  have count : ∀ epoch id, lookups epoch id (moments os) = _ := fun _ _ => run.lookups_eq
  refine ⟨count, ?_, ?_, fun m hm epoch id spec phone => run.done_of_lookup hm⟩
  · refine forall_congr' fun epoch => forall_congr' fun id => ?_
    rw [count]
    split <;> simp_all
  · intro epoch id first
    have same : (moments os).countP (Moment.endsSpeech S epoch id) =
        (moments os).countP (Moment.endsFirstSpeech S epoch id) :=
      List.countP_congr fun m hm => by simpa [Moment.endsFirstSpeech] using first m hm
    rw [count, same]
    split
    · exact run.firstSpeeches_le.1
    · exact Nat.zero_le 1

def Stage.checking : Stage where
  flow := {
    nodes := [
      Flow.step "start-1" 0.0 0.0 "Call Starts" .start,
      Flow.step "message-1" 0.0 100.0 "Greeting" (.message none),
      Flow.step "action-1" 0.0 200.0 "Check Account"
        (.action none none (some ⟨"https://example.com/accounts", [], [], none, none⟩)),
      Flow.step "end-1" 0.0 300.0 "End Call" (.ending none none)]
    edges := [
      Flow.arrow "e1" "start-1" "message-1" none,
      Flow.arrow "e2" "message-1" "action-1" none,
      Flow.arrow "e3" "action-1" "message-1" none,
      Flow.arrow "e4" "action-1" "end-1" none] }
  helpers := ⟨true, false⟩

def checkedOnce : List Event := [.callStart [], .speechStart, .speechEnd, .speechEnd]

theorem one_speech_looks_up_once :
    lookups 1 "action-1" (moments ((Stage.checking.heard "" {} checkedOnce).map .taken)) = 1 := by
  have life : Life Stage.checking {} ((Stage.checking.heard "" {} checkedOnce).map .taken)
      (Stage.checking.hear "" {} checkedOnce) := Run.life (.hear rfl _)
  exact (action_is_looked_up_once_iff life).1 1 "action-1"

theorem second_speech_looks_up_again :
    Stage.checking.flow.isSound = true ∧
      Life Stage.checking {} ((Stage.checking.heard "" {} (checkedOnce ++ [.speechEnd])).map .taken)
        (Stage.checking.hear "" {} (checkedOnce ++ [.speechEnd])) ∧
      lookups 1 "action-1"
        (moments ((Stage.checking.heard "" {} (checkedOnce ++ [.speechEnd])).map .taken)) = 2 :=
  ⟨by decide +kernel, Run.life (.hear rfl _), rfl⟩

end Dialogue.Call
