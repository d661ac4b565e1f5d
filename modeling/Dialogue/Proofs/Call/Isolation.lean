import Dialogue.Proofs.Call.Alike
import Dialogue.Proofs.Call.Provenance

/-! What came before a call does not show in it. Reports of earlier calls do nothing, so two calls
that hear the same go the same way, however the calls before them went. -/

namespace Dialogue.Call

variable {S : Stage} {σ τ : Scene} {m : Moment} {ms ns : List Moment} {p q stamp : Stamp}
  {a b t u v : Tracker} {i : Input} {w : Work} {epoch : Nat}

inductive Chain (S : Stage) : Tracker → List Moment → Tracker → Prop
  | nil (t : Tracker) : Chain S t [] t
  | cons {t u : Tracker} {ms : List Moment} (stamp : Stamp) (i : Input) :
      Chain S (S.apply stamp t i).1 ms u → Chain S t (S.moment stamp t i :: ms) u

lemma Chain.append (h : Chain S t ms u) (h' : Chain S u ns v) : Chain S t (ms ++ ns) v := by
  induction h with
  | nil => exact h'
  | cons stamp i _ ih => exact .cons stamp i (ih h')

lemma Run.chain (h : Run S σ ms τ) : Chain S σ.tracker ms τ.tracker := by
  induction h with
  | nil => exact .nil _
  | snoc _ hs ih =>
    cases hs with
    | submit | finish => simpa using ih
    | take stamp => exact ih.append (.cons stamp _ (.nil _))

def Input.isSince (epoch : Nat) (i : Input) : Bool := i.epoch?.all (epoch ≤ ·)

def since (epoch : Nat) (ms : List Moment) : List Moment := ms.filter (·.input.isSince epoch)

lemma Stage.apply_of_earlier (hi : i.isSince epoch = false) (he : epoch ≤ t.state.epoch) :
    S.apply stamp t i = (t, []) := by
  apply apply_of_no_changes
  cases i with
  | event e => simp [Input.isSince, Input.epoch?] at hi
  | completed x node clears | classified x ticket branch intent | lookedUp x node result =>
    have earlier : x ≠ t.state.epoch := by
      have : x < epoch := by simpa [Input.isSince, Input.epoch?] using hi
      omega
    simp [changes, onCompleted, onClassified, onLookedUp, earlier]

namespace Chain

lemma earlier (h : Chain S t ms u) (he : epoch ≤ t.state.epoch) (hm : m ∈ ms)
    (hi : m.input.isSince epoch = false) : m.after = m.before ∧ m.started = [] := by
  induction h with
  | nil => simp at hm
  | @cons t u ms stamp i _ ih =>
    rcases List.mem_cons.mp hm with rfl | hm
    · have same : S.apply stamp t i = (t, []) := Stage.apply_of_earlier hi he
      exact ⟨congrArg Prod.fst same, congrArg Prod.snd same⟩
    · exact ih (Nat.le_trans he Stage.epoch_le) hm

lemma since (h : Chain S t ms u) (he : epoch ≤ t.state.epoch) :
    Chain S t (since epoch ms) u := by
  induction h with
  | nil => exact .nil _
  | @cons t u ms stamp i _ ih =>
    have later := ih (Nat.le_trans he Stage.epoch_le)
    cases hi : i.isSince epoch with
    | true =>
      rw [Call.since, List.filter_cons_of_pos (by simpa using hi)]
      exact .cons stamp i later
    | false =>
      rw [Call.since, List.filter_cons_of_neg (by simpa using hi)]
      rwa [Stage.apply_of_earlier hi he] at later

end Chain

structure Moment.Alike (a b : Tracker) (m n : Moment) : Prop where
  before : Tracker.Alike a b m.before n.before
  input : Input.Alike a b m.input n.input
  after : Tracker.Alike a b m.after n.after
  started : List.Forall₂ (Work.Alike a b) m.started n.started

lemma Chain.alike {t' u' : Tracker} (h : Tracker.Alike a b t u) (ht : Chain S t ms t')
    (hu : Chain S u ns u')
    (told : List.Forall₂ (fun m n => Input.Alike a b m.input n.input) ms ns) :
    List.Forall₂ (Moment.Alike a b) ms ns ∧ Tracker.Alike a b t' u' := by
  induction told generalizing t u with
  | nil =>
    cases ht
    cases hu
    exact ⟨.nil, h⟩
  | cons hi _ ih =>
    cases ht with
    | cons p i ht =>
      cases hu with
      | cons q j hu =>
        obtain ⟨ha, hw⟩ : Tracker.Alike a b (S.apply p t i).1 (S.apply q u j).1 ∧
            List.Forall₂ (Work.Alike a b) (S.apply p t i).2 (S.apply q u j).2 :=
          carryOut_alike h (changes_alike h hi)
        obtain ⟨hms, hlast⟩ := ih ha ht hu
        exact ⟨.cons ⟨h, hi, ha, hw⟩ hms, hlast⟩

inductive Resets (S : Stage) : Input → Prop
  | callStart (payload : Fields) : Resets S (.event (.callStart payload))
  | failure (payload : Json) : S.refuses .reset = false → Resets S (.event (.failure payload))

namespace Resets

lemma epoch_eq (h : Resets S i) : (S.apply stamp t i).1.state.epoch = t.state.epoch + 1 := by
  cases h with
  | callStart payload => exact Stage.epoch_callStart
  | failure payload hr =>
    simp [Stage.apply, changes, onEvent, onFailure, carryOut, Change.op?, hr, Change.onState]

lemma alike (h : Resets S i)
    (ha : Shifted a.state.epoch b.state.epoch (t.state.epoch + 1) (u.state.epoch + 1))
    (hk : Shifted a.tickets b.tickets t.tickets u.tickets) :
    Tracker.Alike a b (S.apply p t i).1 (S.apply q u i).1 ∧
      List.Forall₂ (Work.Alike a b) (S.apply p t i).2 (S.apply q u i).2 := by
  cases h with
  | failure payload hr =>
    simp only [Stage.apply, changes, onEvent, onFailure, carryOut, Change.op?, hr,
      Option.any_some, Option.any_none, Bool.false_eq_true, if_false]
    exact ⟨⟨⟨ha, rfl, rfl, rfl, rfl, .none, rfl, rfl, rfl, rfl, rfl, rfl⟩, hk, rfl, rfl⟩, .nil⟩
  | callStart payload =>
    -- Only after the reset are the views alike as well, and the rest of the list preserves that.
    have fresh : Tracker.Alike a b
        (Change.resetView.perform p
          ((Change.begin (Event.phone payload) (Event.handle payload)).perform p t))
        (Change.resetView.perform q
          ((Change.begin (Event.phone payload) (Event.handle payload)).perform q u)) :=
      ⟨⟨ha, rfl, rfl, rfl, rfl, .none, rfl, rfl, rfl, rfl, rfl, rfl⟩, hk, rfl, rfl⟩
    simp only [Stage.apply, changes, onEvent, onCallStart, List.cons_append, List.nil_append]
    rw [carryOut_cons_of_unseen (t := t) rfl, carryOut_cons_of_unseen (t := u) rfl]
    by_cases hr : S.refuses .reset = true
    · simp only [carryOut, Change.op?, Option.any_some, hr, if_true]
      exact ⟨fresh, .nil⟩
    · simp only [carryOut, Change.op?, Option.any_some, hr, Change.work?]
      refine carryOut_alike fresh ?_
      cases S.flow.start? with
      | none => exact .nil
      | some n => exact .cons (.plain rfl) (.cons (.spawn (.completion _ _ _ ha)) .nil)

end Resets

structure Dormant (epoch : Nat) (σ : Scene) : Prop where
  isActive : σ.tracker.state.isActive = false
  epoch_eq : σ.tracker.state.epoch = epoch
  underway : ∀ w ∈ σ.underway, ∀ x, w.epoch? = some x → x < epoch
  queue : ∀ i ∈ σ.queue, ∀ x, i.epoch? = some x → x < epoch

lemma changes_of_dormant {g : Flow} {helpers : Helpers} (active : t.state.isActive = false)
    (closed : i.opens = false) (earlier : ∀ x, i.epoch? = some x → x < t.state.epoch) :
    changes g helpers t i = [] := by
  cases i with
  | event e => cases e <;> simp_all [Input.opens, changes, onEvent]
  | completed x node clears | classified x ticket branch intent | lookedUp x node result =>
    have : x ≠ t.state.epoch := by
      have := earlier x rfl
      omega
    simp [changes, onCompleted, onClassified, onLookedUp, this]

lemma Dormant.run (h : Dormant epoch σ) (hr : Run S σ ms τ)
    (closed : ∀ m ∈ ms, m.input.opens = false) :
    Dormant epoch τ ∧ τ.tracker = σ.tracker := by
  induction hr with
  | nil => exact ⟨h, rfl⟩
  | @snoc τ υ ms m hr hs ih =>
    obtain ⟨hτ, same⟩ := ih fun m hm => closed m (by simp [hm])
    cases hs with
    | submit e =>
      refine ⟨⟨hτ.isActive, hτ.epoch_eq, hτ.underway, ?_⟩, same⟩
      intro i hi x hx
      rcases List.mem_append.mp hi with hi | hi
      · exact hτ.queue i hi x hx
      · obtain rfl : i = .event e := by simpa using hi
        simp [Input.epoch?] at hx
    | @finish ws vs w is hw hends =>
      have hws : ∀ v ∈ ws ++ w :: vs, ∀ x, v.epoch? = some x → x < epoch := hw ▸ hτ.underway
      refine ⟨⟨hτ.isActive, hτ.epoch_eq, fun v hv => hws v (by grind), ?_⟩, same⟩
      intro i hi x hx
      rcases List.mem_append.mp hi with hi | hi
      · exact hτ.queue i hi x hx
      · exact hws w (by simp) x ((hends.epoch?_eq hi).1 ▸ hx)
    | @take i rest stamp hq =>
      have still : S.apply stamp τ.tracker i = (τ.tracker, []) := by
        refine Stage.apply_of_no_changes (changes_of_dormant hτ.isActive ?_ ?_)
        · exact closed (S.moment stamp τ.tracker i) (by simp)
        · rw [hτ.epoch_eq]
          exact hτ.queue i (by simp [hq])
      rw [still, List.append_nil]
      exact ⟨⟨hτ.isActive, hτ.epoch_eq, hτ.underway, fun j hj => hτ.queue j (by simp [hq, hj])⟩,
        same⟩

def once : Scene := Stage.initial.hear "" {} [.callStart []]

def again : Scene := Stage.initial.hear "" once [.callStart []]

end Dialogue.Call
