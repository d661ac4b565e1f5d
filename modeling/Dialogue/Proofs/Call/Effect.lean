import Dialogue.Proofs.Call.Run

/-! What one input does to a call, whatever the view refuses of it: each field that has a new value
owes it to a change that the input brings. -/

namespace Dialogue.Call

variable {S : Stage} {stamp : Stamp} {t : Tracker} {i : Input} {w : Work}

def Input.opens : Input → Bool
  | .event (.callStart _) => true
  | .event (.failure _) => true
  | _ => false

def Work.epoch? : Work → Option Nat
  | .completion epoch .. => some epoch
  | .classification epoch .. => some epoch
  | .lookup epoch .. => some epoch
  | .injection .. => none

def Input.epoch? : Input → Option Nat
  | .event _ => none
  | .completed epoch .. => some epoch
  | .classified epoch .. => some epoch
  | .lookedUp epoch .. => some epoch

lemma Work.Ends.epoch?_eq {is : List Input} (h : w.Ends is) (hi : i ∈ is) :
    i.epoch? = w.epoch? ∧ w.epoch? ≠ none := by
  cases h <;> simp_all [Input.epoch?, Work.epoch?]

namespace State

variable {s : State} {a b : String}

@[simp] lemma visit_epoch : (s.visit a).epoch = s.epoch := by unfold visit; split <;> rfl
@[simp] lemma visit_isActive : (s.visit a).isActive = s.isActive := by unfold visit; split <;> rfl
@[simp] lemma visit_current : (s.visit a).current = s.current := by unfold visit; split <;> rfl
@[simp] lemma visit_ticket : (s.visit a).ticket = s.ticket := by unfold visit; split <;> rfl
@[simp] lemma visit_intent : (s.visit a).intent = s.intent := by unfold visit; split <;> rfl
@[simp] lemma visit_isClassifying : (s.visit a).isClassifying = s.isClassifying := by
  unfold visit; split <;> rfl

structure Fresh (g : Flow) (s : State) : Prop where
  visited : s.visited = []
  ticket : s.ticket = none
  intent : s.intent = none
  current : ∀ id, s.current = some id → ∃ n, g.start? = some n ∧ n.id = id

lemma Fresh.isVisited {g : Flow} (h : s.Fresh g) : s.isVisited a = false := by
  simp [State.isVisited, h.visited]

end State

namespace Change

lemma epoch_le_onState (c : Change) (stamp : Stamp) (s : State) :
    s.epoch ≤ (c.onState stamp s).epoch := by
  cases c with
  | begin | fail => exact Nat.le_succ _
  | complete node => exact Nat.le_of_eq State.visit_epoch.symm
  | record role content => simp only [onState, State.record, Nat.le_refl]
  | _ => exact Nat.le_refl _

lemma isVisited_onState {c : Change} {s : State} {id : String} (h : s.isVisited id = true) :
    s.epoch < (c.onState stamp s).epoch ∨ (c.onState stamp s).isVisited id = true := by
  cases c with
  | begin | fail => exact .inl (Nat.lt_succ_self _)
  | complete node => exact .inr ((State.isVisited_visit _ _ _).mpr (.inl h))
  | record role content =>
    exact .inr (by simpa only [onState, State.record, State.isVisited] using h)
  | _ => exact .inr h

def staysPut : Change → Bool
  | begin .. | fail | hangUp | moveTo _ => false
  | _ => true

lemma current_onState {c : Change} {s : State} (h : c.staysPut = true) :
    (c.onState stamp s).current = s.current := by
  cases c <;> simp_all [staysPut, onState, State.withoutClassification, State.record]

lemma ticket_onState {c : Change} {s : State} (h : ∀ n, c ≠ .awaitTicket n)
    (hs : s.ticket = none) : (c.onState stamp s).ticket = none := by
  cases c <;> simp_all [onState, State.withoutClassification, State.record]

end Change

lemma carryOut_epoch_le {refuses : ViewOp → Bool} {cs : List Change} :
    t.state.epoch ≤ (carryOut stamp refuses cs t).1.state.epoch :=
  carryOut_invariant (P := fun u => t.state.epoch ≤ u.state.epoch) (Nat.le_refl _)
    fun c _ u hu => Nat.le_trans hu (c.epoch_le_onState stamp u.state)

lemma carryOut_isVisited {refuses : ViewOp → Bool} {cs : List Change} {id : String}
    (h : t.state.isVisited id = true)
    (same : (carryOut stamp refuses cs t).1.state.epoch = t.state.epoch) :
    (carryOut stamp refuses cs t).1.state.isVisited id = true := by
  have kept : t.state.epoch ≤ (carryOut stamp refuses cs t).1.state.epoch ∧
      ((carryOut stamp refuses cs t).1.state.epoch = t.state.epoch →
        (carryOut stamp refuses cs t).1.state.isVisited id = true) := by
    refine carryOut_invariant (P := fun u => t.state.epoch ≤ u.state.epoch ∧
      (u.state.epoch = t.state.epoch → u.state.isVisited id = true))
      ⟨Nat.le_refl _, fun _ => h⟩ ?_
    rintro c - u ⟨hle, hu⟩
    have hc := c.epoch_le_onState stamp u.state
    refine ⟨Nat.le_trans hle hc, fun he => ?_⟩
    rw [perform_state] at he ⊢
    exact (Change.isVisited_onState (hu (by omega))).resolve_left (by omega)
  exact kept.2 same

lemma carryOut_complete {refuses : ViewOp → Bool} {cs : List Change} {id : String}
    (same : (carryOut stamp refuses (.complete id :: cs) t).1.state.epoch = t.state.epoch) :
    (carryOut stamp refuses (.complete id :: cs) t).1.state.isVisited id = true := by
  have done : ((Change.complete id).perform stamp t).state.isVisited id = true :=
    (State.isVisited_visit _ _ _).mpr (.inr rfl)
  by_cases refused : ((Change.complete id).op? t.state).any refuses = true
  · simpa only [carryOut, if_pos refused] using done
  · simp only [carryOut, if_neg refused] at same ⊢
    exact carryOut_isVisited done (same.trans State.visit_epoch.symm)

namespace Stage

lemma apply_invariant {P : Tracker → Prop} (h : P t)
    (step : ∀ c ∈ changes S.flow S.helpers t i, ∀ u, P u → P (c.perform stamp u)) :
    P (S.apply stamp t i).1 := carryOut_invariant h step

lemma mem_changes_of_started (h : w ∈ (S.apply stamp t i).2) :
    .spawn w ∈ changes S.flow S.helpers t i := by
  obtain ⟨done, hd, he⟩ := carryOut_prefix stamp S.refuses (changes S.flow S.helpers t i) t
  rw [apply, he] at h
  exact hd.subset (mem_works.mp h)

lemma starts (h : w ∈ (S.apply stamp t i).2) : Starts S.flow S.helpers t i w :=
  starts_of_mem (mem_changes_of_started h)

lemma apply_of_no_changes (h : changes S.flow S.helpers t i = []) :
    S.apply stamp t i = (t, []) := by
  rw [apply, h]
  rfl

lemma moved {next : String} (h : (S.apply stamp t i).1.state.current = some next) :
    t.state.current = some next ∨ .moveTo next ∈ changes S.flow S.helpers t i := by
  refine apply_invariant (P := fun u => u.state.current = some next →
    t.state.current = some next ∨ .moveTo next ∈ changes S.flow S.helpers t i) .inl ?_ h
  intro c hc u hu
  cases c with
  | moveTo node =>
    intro h
    obtain rfl : node = next := by simpa [Change.onState] using h
    exact .inr hc
  | _ => simp_all [Change.onState, State.withoutClassification, State.record]

lemma moves {next : String} (h : (S.apply stamp t i).1.state.current = some next) :
    t.state.current = some next ∨ Moves S.flow t i next := (moved h).imp_right moves_of_mem

lemma completes {id : String} (h : (S.apply stamp t i).1.state.isVisited id = true) :
    t.state.isVisited id = true ∨ Completes S.flow t i id := by
  refine apply_invariant (P := fun u => u.state.isVisited id = true →
    t.state.isVisited id = true ∨ Completes S.flow t i id) .inl ?_ h
  intro c hc u hu
  cases c with
  | complete node =>
    intro h
    rcases (State.isVisited_visit _ _ _).mp h with h | rfl
    · exact hu h
    · exact .inr (completes_of_mem hc)
  | _ => simp_all [Change.onState, State.withoutClassification, State.record, State.isVisited]

lemma remembers {intent : String} (h : (S.apply stamp t i).1.state.intent = some intent) :
    t.state.intent = some intent ∨
      ∃ ticket branch, i = .classified t.state.epoch ticket branch (some intent) ∧
        t.state.isActive = true ∧ t.state.ticket = some ticket ∧ t.state.current = some branch := by
  refine apply_invariant (P := fun u => u.state.intent = some intent →
    t.state.intent = some intent ∨ _) .inl ?_ h
  intro c hc u hu
  cases c with
  | remember named =>
    intro h
    obtain rfl : named = some intent := by simpa [Change.onState] using h
    exact .inr (classified_of_mem hc)
  | _ => simp_all [Change.onState, State.withoutClassification, State.record]

lemma awaits {n : Nat} (h : (S.apply stamp t i).1.state.ticket = some n) :
    t.state.ticket = some n ∨ n = t.tickets + 1 := by
  refine apply_invariant (P := fun u => u.state.ticket = some n →
    t.state.ticket = some n ∨ n = t.tickets + 1) .inl ?_ h
  intro c hc u hu
  cases c with
  | awaitTicket k =>
    intro h
    obtain rfl : k = n := by simpa [Change.onState] using h
    exact .inr (ticket_of_mem hc)
  | _ => simp_all [Change.onState, State.withoutClassification, State.record]

lemma activates (h : (S.apply stamp t i).1.state.isActive = true) :
    t.state.isActive = true ∨ ∃ payload, i = .event (.callStart payload) := by
  refine apply_invariant (P := fun u => u.state.isActive = true →
    t.state.isActive = true ∨ _) .inl ?_ h
  intro c hc u hu
  cases c with
  | begin => exact fun _ => .inr (callStart_of_mem hc)
  | _ => simp_all [Change.onState, State.withoutClassification, State.record]

lemma tickets_le : t.tickets ≤ (S.apply stamp t i).1.tickets := by
  refine apply_invariant (P := fun u => t.tickets ≤ u.tickets) (Nat.le_refl _) ?_
  intro c hc u hu
  cases c with
  | awaitTicket k =>
    have hk := ticket_of_mem hc
    simp only [perform_tickets, Change.onTickets]
    omega
  | _ => simpa [Change.onTickets] using hu

lemma epoch_le : t.state.epoch ≤ (S.apply stamp t i).1.state.epoch := carryOut_epoch_le

lemma epoch_eq (h : i.opens = false) : (S.apply stamp t i).1.state.epoch = t.state.epoch := by
  refine apply_invariant (P := fun u => u.state.epoch = t.state.epoch) rfl ?_
  intro c hc u hu
  cases c with
  | begin phone handle =>
    obtain ⟨payload, rfl⟩ := callStart_of_mem hc
    simp [Input.opens] at h
  | fail =>
    obtain ⟨payload, rfl⟩ := failure_of_mem hc
    simp [Input.opens] at h
  | _ => simp_all [Change.onState, State.withoutClassification, State.record]

lemma isVisited_mono {id : String} (h : t.state.isVisited id = true)
    (same : (S.apply stamp t i).1.state.epoch = t.state.epoch) :
    (S.apply stamp t i).1.state.isVisited id = true := carryOut_isVisited h same

lemma epoch_callStart {payload : Fields} :
    (S.apply stamp t (.event (.callStart payload))).1.state.epoch = t.state.epoch + 1 := by
  simp only [apply, changes, onEvent, onCallStart, List.cons_append]
  rw [carryOut_cons_of_unseen rfl]
  refine carryOut_invariant (P := fun u => u.state.epoch = t.state.epoch + 1) rfl ?_
  intro c hc u hu
  have hc' : c = .resetView ∨ ∃ n : Node, c = .moveTo n.id ∨
      c = .spawn (.completion (t.state.epoch + 1) n.id false false) := by
    cases hs : S.flow.start? <;> simp_all
    exact hc.imp_right fun h => ⟨_, h⟩
  rcases hc' with rfl | ⟨n, rfl | rfl⟩ <;> exact hu

lemma isActive_of_ended (h : (S.moment stamp t (.event .callEnd)).isShown S = true) :
    (S.apply stamp t (.event .callEnd)).1.state.isActive = false := by
  rw [apply_shown h]
  cases active : t.state.isActive with
  | false => simp [changes, onEvent, active]
  | true =>
    simp only [changes, onEvent, active, onCallEnd, Bool.not_true, Bool.false_eq_true, if_false,
      follow_append]
    rfl

lemma epoch_of_failed {payload : Json}
    (h : (S.moment stamp t (.event (.failure payload))).isShown S = true) :
    (S.apply stamp t (.event (.failure payload))).1.state.epoch = t.state.epoch + 1 := by
  rw [apply_shown h]
  rfl

lemma opens_of_shown (shown : (S.moment stamp t i).isShown S = true)
    (same : (S.apply stamp t i).1.state.epoch = t.state.epoch) : i.opens = false := by
  cases i with
  | event e =>
    cases e with
    | callStart payload =>
      rw [epoch_callStart] at same
      omega
    | failure payload =>
      rw [epoch_of_failed shown] at same
      omega
    | _ => rfl
  | _ => rfl

lemma opens_of_new (new : (S.apply stamp t i).1.state.epoch ≠ t.state.epoch) : i.opens = true := by
  by_contra h
  exact new (epoch_eq (by simpa using h))

lemma changes_of_opens {c : Change} (opened : i.opens = true)
    (h : c ∈ changes S.flow S.helpers t i) :
    (∃ phone handle, c = .begin phone handle) ∨ c = .fail ∨ c = .resetView ∨
      (∃ n, S.flow.start? = some n ∧ c = .moveTo n.id) ∨ ∃ w, c = .spawn w := by
  cases i with
  | event e =>
    cases e with
    | callStart payload =>
      rcases mem_onCallStart h with rfl | rfl | ⟨n, start, rfl | rfl⟩
      · exact .inl ⟨_, _, rfl⟩
      · exact .inr (.inr (.inl rfl))
      · exact .inr (.inr (.inr (.inl ⟨n, start, rfl⟩)))
      · exact .inr (.inr (.inr (.inr ⟨_, rfl⟩)))
    | failure payload =>
      rcases mem_onFailure h with rfl | rfl
      · exact .inr (.inr (.inl rfl))
      · exact .inr (.inl rfl)
    | _ => cases opened
  | _ => cases opened

lemma fresh_of_new (new : (S.apply stamp t i).1.state.epoch ≠ t.state.epoch) :
    (S.apply stamp t i).1.state.Fresh S.flow := by
  have opened := opens_of_new new
  refine apply_invariant (P := fun u => u.state.epoch ≠ t.state.epoch → u.state.Fresh S.flow)
    (fun h => absurd rfl h) ?_ new
  intro c hc u hu
  rcases changes_of_opens opened hc with ⟨phone, handle, rfl⟩ | rfl | rfl | ⟨n, start, rfl⟩ | ⟨w, rfl⟩
  · exact fun _ => ⟨rfl, rfl, rfl, by simp [Change.onState]⟩
  · exact fun _ => ⟨rfl, rfl, rfl, by simp [Change.onState]⟩
  · exact hu
  · intro h
    obtain ⟨visited, ticket, intent, -⟩ := hu h
    refine ⟨visited, ticket, intent, fun id here => ⟨n, start, ?_⟩⟩
    simpa [Change.onState] using here
  · exact hu

lemma epoch_of_started {e : Nat} (h : w ∈ (S.apply stamp t i).2) (he : w.epoch? = some e) :
    (S.apply stamp t i).1.state.epoch = e := by
  cases starts h with
  | opening => rw [epoch_callStart]; exact Option.some.inj he
  | found => simp [Work.epoch?] at he
  | _ => rw [epoch_eq rfl]; exact Option.some.inj he

end Stage

end Dialogue.Call
