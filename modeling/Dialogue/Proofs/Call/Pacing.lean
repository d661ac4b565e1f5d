import Dialogue.Proofs.Call.Abreast
import Dialogue.Proofs.Call.Mirroring
import Mathlib.Data.List.Forall2

/-! Delayed completions: it matters when they come only where an input turns on whether the present
step is done. -/

namespace Dialogue.Call

open Tracker (Abreast)

variable {S : Stage} {σ τ υ α β : Scene} {m n k : Moment} {ms ns : List Moment}
  {os os' : List Occurrence} {ps : List (Moment × Moment)} {stamp q : Stamp} {t u : Tracker}
  {i : Input} {x : Option String} {id : String} {epoch : Nat} {clears isEnding : Bool}

def Input.isTimed : Input → Bool
  | .completed .. => true
  | _ => false

def untimed (ms : List Moment) : List Moment := ms.filter fun m => !m.input.isTimed

def Moment.Splits (g : Flow) (m n : Moment) : Prop :=
  Turns g m.before m.input ∧ Differ m.before n.before

/-- Two runs side by side, with the pairs of moments that have the same input. Each may take delayed
completions for itself. -/
inductive Beside (S : Stage) : Scene → Scene → List (Moment × Moment) → Prop
  | nil : Beside S {} {} []
  | left {σ τ υ : Scene} {ps : List (Moment × Moment)} {o : Option Moment} : Beside S σ τ ps →
      Step S σ o υ → (∀ m, o = some m → m.input.isTimed = true) → Beside S υ τ ps
  | right {σ τ υ : Scene} {ps : List (Moment × Moment)} {o : Option Moment} : Beside S σ τ ps →
      Step S τ o υ → (∀ m, o = some m → m.input.isTimed = true) → Beside S σ υ ps
  | both {σ τ α β : Scene} {ps : List (Moment × Moment)} {m n : Moment} : Beside S σ τ ps →
      Step S σ (some m) α → Step S τ (some n) β → m.input = n.input → m.input.isTimed = false →
      Beside S α β (ps ++ [(m, n)])

lemma Tracker.Abreast.complete (h : Abreast x t u)
    (done : x = some id ∨ t.state.isVisited id = true ∨ t.state.isActive = false) :
    Abreast x t ((Change.complete id).perform q u) := by
  constructor
  case visited =>
    intro active k away
    simp only [perform_state, Change.onState]
    rw [Bool.eq_iff_iff, State.isVisited_visit, ← h.visited active k away, iff_self_or]
    rintro rfl
    rcases done with present | visited | ended
    · exact absurd present away
    · exact visited
    · exact absurd (active.symm.trans ended) (by simp)
  all_goals simp [Change.onState, Change.onTickets, h.epoch, h.isActive, h.current,
    h.isClassifying, h.ticket, h.intent, h.phone, h.handle, h.tickets]

namespace Stage

lemma over_of_started
    (h : .completion epoch id clears isEnding ∈ (S.apply stamp t (.event .callEnd)).2) :
    (S.apply stamp t (.event .callEnd)).1.state.isActive = false := by
  have among := mem_changes_of_started h
  have active : t.state.isActive = true := by
    cases starts h
    assumption
  rw [changes_callEnd active] at among
  rcases farewell_cases S.flow t.state with dark | ⟨n, ending, glows⟩
  · simp [dark] at among
  · rw [glows] at among
    obtain ⟨rfl, rfl, rfl, rfl⟩ : epoch = t.state.epoch ∧ id = n.id ∧ clears = true ∧
        isEnding = true := by simpa using among
    have split : changes S.flow S.helpers t (.event .callEnd) =
        (t.state.current.toList.map .complete ++ [.highlight (some n.id)]) ++
          [.spawn (.completion t.state.epoch n.id true true), .hangUp] := by
      simp [changes_callEnd active, glows]
    rw [apply, split] at h ⊢
    rw [(carryOut_reached h (by simp)).1]
    rfl

end Stage

namespace Run

lemma over_of_ended (h : Run S σ ms τ) (hk : k ∈ ms) (hung : k.input = .event .callEnd)
    (hw : .completion τ.tracker.state.epoch id clears isEnding ∈ k.started) :
    τ.tracker.state.isActive = false := by
  have begun := h.epoch_of_started hk hw rfl
  have ended : k.after.state.isActive = false := by
    rw [h.moment_eq hk, hung] at hw ⊢
    exact Stage.over_of_started hw
  obtain ⟨before, later, rfl⟩ := List.append_of_mem hk
  obtain ⟨α, β, -, hs, hβ⟩ := h.split
  have stays : k.after.state.epoch ≤ τ.tracker.state.epoch ∧
      (k.after.state.epoch = τ.tracker.state.epoch → τ.tracker.state.isActive = false) := by
    refine hβ.tracker_invariant (P := fun t => k.after.state.epoch ≤ t.state.epoch ∧
      (k.after.state.epoch = t.state.epoch → t.state.isActive = false)) ?_ ?_
    · rw [hs.moment_eq.2]
      exact ⟨Nat.le_refl _, fun _ => ended⟩
    · rintro stamp t i ⟨le, ht⟩
      have grows : t.state.epoch ≤ (S.apply stamp t i).1.state.epoch := Stage.epoch_le
      refine ⟨Nat.le_trans le grows, fun same => ?_⟩
      by_contra on
      rcases Stage.activates (by simpa using on) with active | ⟨payload, rfl⟩
      · simp [ht (by omega)] at active
      · rw [Stage.epoch_callStart] at same
        omega
  exact stays.2 begun

lemma done_of_due (h : Run S {} ms σ)
    (due : .completed σ.tracker.state.epoch id clears ∈ σ.queue) :
    σ.tracker.state.current = some id ∨ σ.tracker.state.isVisited id = true ∨
      σ.tracker.state.isActive = false := by
  obtain ⟨k, hk, isEnding, hw⟩ := h.completion_of_queued due
  rcases h.stood_of_started hk hw with stood | ⟨hung, -⟩
  · by_cases here : σ.tracker.state.current = some id
    · exact .inl here
    · exact .inr (.inl (h.isVisited_of_stood stood here))
  · exact .inr (.inr (h.over_of_ended hk hung hw))

lemma abreast_of_timed {o : Option Moment} (h : Run S {} ms σ) (hs : Step S σ o τ)
    (timed : ∀ m, o = some m → m.input.isTimed = true) :
    Abreast σ.tracker.state.current σ.tracker τ.tracker := by
  cases hs with
  | submit | finish => exact .refl _ _
  | @take i rest stamp hq =>
    cases i with
    | completed epoch node clears =>
      by_cases present : epoch = σ.tracker.state.epoch
      · subst present
        have done := h.done_of_due (hq ▸ List.mem_cons_self)
        refine Stage.apply_invariant (P := Abreast _ σ.tracker) (.refl _ _) fun c hc u hu => ?_
        rcases (mem_onCompleted hc).2 with rfl | ⟨-, -, rfl⟩
        · exact hu.complete done
        · exact { hu with }
      · rw [Stage.apply_of_no_changes (by simp [changes, onCompleted, present])]
        exact .refl _ _
    | _ => simpa [Input.isTimed] using timed _ rfl

end Run

namespace Beside

lemma reachable (h : Beside S σ τ ps) : Reachable S σ ∧ Reachable S τ := by
  induction h with
  | nil => exact ⟨⟨[], .nil _⟩, [], .nil _⟩
  | left _ hs _ ih => exact ⟨ih.1.step hs, ih.2⟩
  | right _ hs _ ih => exact ⟨ih.1, ih.2.step hs⟩
  | both _ hs hs' _ _ ih => exact ⟨ih.1.step hs, ih.2.step hs'⟩

lemma later (h : Beside S σ τ ps) (run : Run S τ ms υ) (quiet : untimed ms = []) :
    Beside S σ υ ps := by
  induction run with
  | nil => exact h
  | @snoc α β ms o _ hs ih =>
    obtain ⟨before, last⟩ : untimed ms = [] ∧ untimed o.toList = [] := by
      simpa [untimed] using quiet
    refine .right (ih before) hs ?_
    rintro m rfl
    simpa [untimed] using last

lemma keeps_pace (h : Beside S σ τ ps) (accepts : ∀ id, S.refuses (.complete id) = false) :
    ((∀ p ∈ ps, ¬ p.1.Splits S.flow p.2) →
      Abreast σ.tracker.state.current σ.tracker τ.tracker ∧
        ∀ p ∈ ps, p.1.after.state.current = p.2.after.state.current) ∧
    ((∃ p ∈ ps, p.1.Splits S.flow p.2) →
      ∃ p ∈ ps, p.1.after.state.current ≠ p.2.after.state.current) := by
  induction h with
  | nil => exact ⟨fun _ => ⟨.refl _ _, by simp⟩, by simp⟩
  | @left σ τ υ ps o h hs timed ih =>
    obtain ⟨ms, run⟩ := h.reachable.1
    have kept := run.abreast_of_timed hs timed
    refine ⟨fun closed => ?_, ih.2⟩
    obtain ⟨level, agree⟩ := ih.1 closed
    rw [← kept.current]
    exact ⟨kept.symm.trans level, agree⟩
  | @right σ τ υ ps o h hs timed ih =>
    obtain ⟨ns, run⟩ := h.reachable.2
    have kept := run.abreast_of_timed hs timed
    refine ⟨fun closed => ?_, ih.2⟩
    obtain ⟨level, agree⟩ := ih.1 closed
    rw [← level.current] at kept
    exact ⟨level.trans kept, agree⟩
  | @both σ τ α β ps m n h hs hs' same untimed ih =>
    cases hs with
    | @take i rest stamp hq =>
      cases hs' with
      | @take j rest' stamp' hq' =>
        obtain rfl : i = j := same
        have other : ∀ epoch node clears, i ≠ .completed epoch node clears := by
          rintro epoch node clears rfl
          cases untimed
        refine ⟨fun closed => ?_, ?_⟩
        · obtain ⟨level, agree⟩ := ih.1 fun p hp => closed p (List.mem_append_left _ hp)
          have next : Abreast (S.apply stamp σ.tracker i).1.state.current
              (S.apply stamp σ.tracker i).1 (S.apply stamp' τ.tracker i).1 :=
            Stage.apply_abreast accepts level other
              (closed _ (List.mem_append_right _ List.mem_cons_self))
          refine ⟨next, fun p hp => ?_⟩
          rcases List.mem_append.mp hp with hp | hp
          · exact agree p hp
          · rw [List.mem_singleton.mp hp]
            exact next.current
        · rintro ⟨p, hp, splits⟩
          by_cases earlier : ∃ p ∈ ps, p.1.Splits S.flow p.2
          · obtain ⟨p, hp, parts⟩ := ih.2 earlier
            exact ⟨p, List.mem_append_left _ hp, parts⟩
          · obtain ⟨level, -⟩ := ih.1 fun p hp splits => earlier ⟨p, hp, splits⟩
            refine ⟨p, hp, ?_⟩
            obtain rfl : p = _ := List.mem_singleton.mp
              ((List.mem_append.mp hp).resolve_left fun hp => earlier ⟨p, hp, splits⟩)
            exact Stage.parted accepts level splits.1 splits.2

end Beside

lemma forall₂_concat_left {A B : Type} {R : A → B → Prop} {xs : List A} {x : A} {ys : List B}
    (h : List.Forall₂ R (xs ++ [x]) ys) :
    ∃ zs y, ys = zs ++ [y] ∧ List.Forall₂ R xs zs ∧ R x y := by
  induction xs generalizing ys with
  | nil =>
    obtain ⟨y, zs, hx, rest, rfl⟩ := List.forall₂_cons_left_iff.mp h
    obtain rfl := List.forall₂_nil_left_iff.mp rest
    exact ⟨[], y, rfl, .nil, hx⟩
  | cons a xs ih =>
    obtain ⟨b, bs, hab, rest, rfl⟩ := List.forall₂_cons_left_iff.mp h
    obtain ⟨zs, y, rfl, hzs, hx⟩ := ih rest
    exact ⟨b :: zs, y, rfl, .cons hab hzs, hx⟩

lemma Run.beside (h : Run S {} ms σ) (h' : Run S {} ns τ)
    (told : List.Forall₂ (fun m n => m.input = n.input) (untimed ms) (untimed ns)) :
    Beside S σ τ ((untimed ms).zip (untimed ns)) := by
  induction h generalizing ns τ with
  | nil =>
    have quiet : untimed ns = [] := List.forall₂_nil_left_iff.mp told
    rw [quiet]
    exact .later .nil h' quiet
  | @snoc α β ms o h hs ih =>
    by_cases timed : ∀ m, o = some m → m.input.isTimed = true
    · have same : untimed (ms ++ o.toList) = untimed ms := by
        cases o <;> simp_all [untimed]
      rw [same] at told ⊢
      exact .left (ih h' told) hs timed
    · push Not at timed
      obtain ⟨m, rfl, heard⟩ := timed
      have last : untimed (ms ++ (some m).toList) = untimed ms ++ [m] := by
        simp [untimed, heard]
      rw [last] at told ⊢
      obtain ⟨ks, n, split, told', same⟩ := forall₂_concat_left told
      obtain ⟨front, back, rfl, rfl, rest⟩ := List.filter_eq_append_iff.mp split
      obtain ⟨quiet, later, rfl, silent, -, quiet'⟩ := List.filter_eq_cons_iff.mp rest
      -- The second run takes this input as well, with completions before and after it.
      rw [← List.append_assoc] at h'
      obtain ⟨γ, δ, hγ, hn, hδ⟩ := h'.split
      have first : untimed (front ++ quiet) = untimed front := by
        simpa [untimed] using silent
      have beside := (ih hγ (first ▸ told')).both hs hn same (by simpa using heard)
      rw [split, List.zip_append told'.length_eq]
      rw [first] at beside
      exact beside.later hδ quiet'

/-- Two lives with the same inputs in the same order, delayed completions aside, are at the same
step after each of these inputs just if none of them splits them. An input that does is an unmarked
message at the start, or the beginning of a speech at another step with a new one ahead, and finds
the present step done in one of the lives only. -/
theorem positions_keep_pace_iff (accepts : ∀ id, S.refuses (.complete id) = false)
    (life : Life S {} os σ) (life' : Life S {} os' τ)
    (told : List.Forall₂ (fun m n => m.input = n.input) (untimed (moments os))
      (untimed (moments os'))) :
    ((∀ p ∈ (untimed (moments os)).zip (untimed (moments os')),
      p.1.after.state.current = p.2.after.state.current) ↔
      ∀ p ∈ (untimed (moments os)).zip (untimed (moments os')), ¬ p.1.Splits S.flow p.2) ∧
    ((∀ p ∈ (untimed (moments os)).zip (untimed (moments os')), ¬ p.1.Splits S.flow p.2) →
      σ.tracker.state.current = τ.tracker.state.current) := by
  obtain ⟨ws, run, -⟩ := life.run
  obtain ⟨vs, run', -⟩ := life'.run
  obtain ⟨level, parts⟩ := (run.beside run' told).keeps_pace accepts
  refine ⟨⟨fun agree p hp splits => ?_, fun closed => (level closed).2⟩,
    fun closed => (level closed).1.current⟩
  obtain ⟨p, hp, differ⟩ := parts ⟨p, hp, splits⟩
  exact differ (agree p hp)

def opened : Scene := Stage.initial.hear "" {} [.callStart []]

def started : Scene where
  tracker := (Stage.initial.apply "" opened.tracker (.completed 1 "start-1" false)).1

def hastened (e : Event) : Scene := Stage.initial.hear "" started [e]

def delayed (e : Event) : Scene where
  tracker := (Stage.initial.apply "" (Stage.initial.hear "" opened [e]).tracker
    (.completed 1 "start-1" false)).1
  underway := (Stage.initial.apply "" (Stage.initial.hear "" opened [e]).tracker
    (.completed 1 "start-1" false)).2

def hastenedMoments (e : Event) : List Moment := [
  Stage.initial.moment "" {} (.event (.callStart [])),
  Stage.initial.moment "" opened.tracker (.completed 1 "start-1" false),
  Stage.initial.moment "" started.tracker (.event e)]

def delayedMoments (e : Event) : List Moment := [
  Stage.initial.moment "" {} (.event (.callStart [])),
  Stage.initial.moment "" opened.tracker (.event e),
  Stage.initial.moment "" (Stage.initial.hear "" opened [e]).tracker
    (.completed 1 "start-1" false)]

lemma life_hastened (e : Event) :
    Life Stage.initial {} ((hastenedMoments e).map .taken) (hastened e) := by
  have first : Run Stage.initial {} _ opened := .hear rfl [.callStart []]
  have done : Run Stage.initial opened _ started :=
    .cons (.finish (show _ = [] ++ _ :: [] from rfl) (.completion 1 "start-1" false false)) <|
    .single (.take "" rfl)
  exact ((first.trans done).trans (.hear rfl [e])).life

lemma life_delayed {e : Event} (idle : (Stage.initial.hear "" opened [e]).underway =
    [.completion 1 "start-1" false false]) :
    Life Stage.initial {} ((delayedMoments e).map .taken) (delayed e) := by
  have first : Run Stage.initial {} _ (Stage.initial.hear "" {} [.callStart [], e]) := .hear rfl _
  have done : Run Stage.initial (Stage.initial.hear "" opened [e]) _ (delayed e) :=
    .cons (.finish (show _ = [] ++ _ :: [] from idle) (.completion 1 "start-1" false false)) <|
    .single (.take "" rfl)
  exact (first.trans done).life

theorem delay_does_not_hold_back_speech :
    (hastened .speechStart).tracker.state.current = some "message-1" ∧
      (hastened .speechStart).tracker.state.current =
        (delayed .speechStart).tracker.state.current := by
  refine ⟨rfl, (positions_keep_pace_iff (fun _ => rfl) (life_hastened .speechStart)
    (life_delayed rfl) ?_).2 ?_⟩
  · exact .cons rfl (.cons rfl .nil)
  · intro p hp splits
    change p ∈ [(Stage.initial.moment "" {} _, Stage.initial.moment "" {} _),
      (Stage.initial.moment "" started.tracker _, Stage.initial.moment "" opened.tracker _)] at hp
    rcases List.mem_cons.mp hp with rfl | hp
    · cases splits.1
    · obtain rfl := List.mem_singleton.mp hp
      cases splits.1 with
      | @onward id next active here waits kind =>
        obtain rfl : "start-1" = id := Option.some.inj here
        exact kind rfl

theorem delay_holds_back_greeting :
    Life Stage.initial {} ((hastenedMoments (.message .assistant "Hello")).map .taken)
      (hastened (.message .assistant "Hello")) ∧
    Life Stage.initial {} ((delayedMoments (.message .assistant "Hello")).map .taken)
      (delayed (.message .assistant "Hello")) ∧
    (untimed (hastenedMoments (.message .assistant "Hello"))).map Moment.input =
      (untimed (delayedMoments (.message .assistant "Hello"))).map Moment.input ∧
    (hastened (.message .assistant "Hello")).tracker.state.current = some "start-1" ∧
    (delayed (.message .assistant "Hello")).tracker.state.current = some "message-1" :=
  ⟨life_hastened _, life_delayed rfl, rfl, rfl, rfl⟩

end Dialogue.Call
