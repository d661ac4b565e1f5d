import Dialogue.Proofs.Call.Effect

/-! The account that the view keeps of the state: the same steps are done, every reset stands for
one call or failure, and between resets no step is completed twice. -/

namespace Dialogue.Call

variable {S : Stage} {stamp : Stamp} {g : Flow} {helpers : Helpers} {t : Tracker} {i : Input}
  {c : Change}

lemma append_singleton_cases {α : Type} {xs before latest : List α} {a : α}
    (h : xs ++ [a] = before ++ latest) :
    latest = [] ∨ ∃ rest, latest = rest ++ [a] ∧ xs = before ++ rest := by
  rcases List.eq_nil_or_concat latest with rfl | ⟨rest, b, rfl⟩
  · exact .inl rfl
  · rw [List.concat_eq_append] at h ⊢
    rw [← List.append_assoc] at h
    obtain ⟨hx, rfl⟩ := List.append_singleton_inj.mp h
    exact .inr ⟨rest, rfl, hx⟩

namespace View

variable {v : View} {op : ViewOp}

lemma ops_apply : (v.apply op).ops = v.ops ++ [op] := by cases op <;> rfl

structure Tidy (v : View) : Prop where
  known : ∀ before latest id, v.ops = before ++ latest → .reset ∉ latest →
    .complete id ∈ latest → id ∈ v.completed
  once : ∀ before stretch after id, v.ops = before ++ stretch ++ after → .reset ∉ stretch →
    stretch.count (.complete id) ≤ 1

lemma Tidy.fresh : Tidy {} := by
  refine ⟨?_, ?_⟩
  · intro before latest id split _ done
    obtain ⟨-, rfl⟩ := List.append_eq_nil_iff.mp split.symm
    simp at done
  · intro before stretch after id split _
    obtain ⟨front, -⟩ := List.append_eq_nil_iff.mp split.symm
    obtain ⟨-, rfl⟩ := List.append_eq_nil_iff.mp front
    simp

lemma Tidy.apply (h : v.Tidy) (op : ViewOp) (new : ∀ id, op = .complete id → id ∉ v.completed) :
    (v.apply op).Tidy := by
  refine ⟨?_, ?_⟩
  · intro before latest id split quiet done
    rw [ops_apply] at split
    rcases append_singleton_cases split with rfl | ⟨rest, rfl, split'⟩
    · simp at done
    · have quiet' : .reset ∉ rest := fun hr => quiet (by simp [hr])
      have earlier : .complete id ∈ rest → id ∈ v.completed := h.known before rest id split' quiet'
      cases op with
      | highlight node => exact earlier (by simpa using done)
      | complete node =>
        have either : id ∈ v.completed ∨ id = node := by
          rcases List.mem_append.mp done with done | done
          · exact .inl (earlier done)
          · exact .inr (by simpa using done)
        by_cases known : node ∈ v.completed
        · have same : (v.apply (.complete node)).completed = v.completed := if_pos known
          rw [same]
          rcases either with kept | rfl
          · exact kept
          · exact known
        · have more : (v.apply (.complete node)).completed = v.completed ++ [node] := if_neg known
          simpa [more] using either
      | reset => exact absurd (List.mem_append_right rest (List.mem_singleton.mpr rfl)) quiet
  · intro before stretch after id split quiet
    rw [ops_apply] at split
    rcases append_singleton_cases split with rfl | ⟨rest, rfl, split'⟩
    · rw [List.append_nil] at split
      rcases append_singleton_cases split with rfl | ⟨rest, rfl, split'⟩
      · simp
      · have quiet' : .reset ∉ rest := fun hr => quiet (by simp [hr])
        by_cases here : op = .complete id
        · have none : rest.count (.complete id) = 0 := List.count_eq_zero.mpr fun done =>
            new id here (h.known before rest id split' quiet' done)
          rw [List.count_append, none, here]
          simp
        · have old := h.once before rest [] id (by simpa using split') quiet'
          rw [List.count_append, List.count_singleton, if_neg (by simpa using here)]
          exact old
    · exact h.once before stretch rest id split' quiet

end View

def Change.opens : Change → Bool
  | begin .. | fail | resetView => true
  | _ => false

lemma opens_of_mem (h : c ∈ changes g helpers t i) (hc : c.opens = true) : i.opens = true := by
  cases c with
  | begin =>
    obtain ⟨payload, rfl⟩ := callStart_of_mem h
    rfl
  | fail =>
    obtain ⟨payload, rfl⟩ := failure_of_mem h
    rfl
  | resetView => cases i <;> simp only [changes] at h <;> grind [Input.opens]
  | _ => simp [Change.opens] at hc

structure Recorded (t : Tracker) : Prop where
  completed : t.view.completed = t.state.visited
  resets : t.view.ops.count .reset = t.state.epoch
  tidy : t.view.Tidy

namespace Recorded

lemma perform (h : Recorded t) (hc : c.opens = false) : Recorded (c.perform stamp t) := by
  obtain ⟨completed, resets, tidy⟩ := h
  cases c with
  | begin | fail | resetView => simp [Change.opens] at hc
  | complete node =>
    cases visited : t.state.isVisited node with
    | true =>
      have same : (Change.complete node).perform stamp t = t := by
        simp [Change.perform, Change.onState, State.visit, Change.op?, visited, Change.onView,
          Change.onTickets]
      rw [same]
      exact ⟨completed, resets, tidy⟩
    | false =>
      have new : node ∉ t.view.completed := by simpa [completed, State.isVisited] using visited
      have state : (t.state.visit node).visited = t.state.visited ++ [node] := by
        simp [State.visit, visited]
      have view : ((Change.complete node).perform stamp t).view =
          t.view.apply (.complete node) := by
        simp [Change.perform, Change.op?, visited, Change.onView]
      refine ⟨?_, ?_, ?_⟩
      · have done : (t.view.apply (.complete node)).completed = t.view.completed ++ [node] :=
          if_neg new
        rw [view, done, completed]
        exact state.symm
      · rw [view, View.ops_apply, List.count_append, resets, perform_state, Change.onState,
          State.visit_epoch]
        rfl
      · rw [view]
        refine tidy.apply _ ?_
        intro id same
        obtain rfl : node = id := by simpa using same
        exact new
  | moveTo node =>
    refine ⟨completed, ?_, tidy.apply (.highlight (some node)) (by simp)⟩
    exact (List.count_append).trans resets
  | highlight node =>
    refine ⟨completed, ?_, tidy.apply (.highlight node) (by simp)⟩
    exact (List.count_append).trans resets
  | record role content =>
    have state : ((Change.record role content).perform stamp t).state.visited = t.state.visited ∧
        ((Change.record role content).perform stamp t).state.epoch = t.state.epoch := by
      simp only [perform_state, Change.onState, State.record, and_self]
    have view : ((Change.record role content).perform stamp t).view = t.view := by
      simp only [perform_view, Change.op?, Change.onView]
    exact ⟨by rw [view, state.1, completed], by rw [view, state.2, resets],
      by rwa [view]⟩
  | _ => exact ⟨completed, resets, tidy⟩

lemma resets_succ (h : Recorded t) :
    (t.view.apply .reset).ops.count .reset = t.state.epoch + 1 := by
  rw [View.ops_apply, List.count_append, h.resets]
  rfl

lemma begin (h : Recorded t) (phone handle : Option String) :
    Recorded (Change.resetView.perform stamp ((Change.begin phone handle).perform stamp t)) :=
  ⟨rfl, h.resets_succ, h.tidy.apply .reset (by simp)⟩

lemma fail (h : Recorded t) :
    Recorded (Change.fail.perform stamp (Change.resetView.perform stamp t)) :=
  ⟨rfl, h.resets_succ, h.tidy.apply .reset (by simp)⟩

lemma follow {cs : List Change} (h : Recorded t) (hc : ∀ c ∈ cs, c.opens = false) :
    Recorded (follow stamp cs t) :=
  follow_invariant h fun c hm _ hu => hu.perform (hc c hm)

end Recorded

def arrival (g : Flow) (s : State) : List Change :=
  match g.start? with
  | some n => [.moveTo n.id, .spawn (.completion (s.epoch + 1) n.id false false)]
  | none => []

lemma mem_arrival {s : State} (h : c ∈ arrival g s) : ∃ n, g.start? = some n ∧
    (c = .moveTo n.id ∨ c = .spawn (.completion (s.epoch + 1) n.id false false)) := by
  unfold arrival at h
  cases start : g.start? with
  | none => simp [start] at h
  | some n => exact ⟨n, rfl, by simpa [start] using h⟩

namespace Stage

lemma apply_of_accepts (accepts : ∀ op, S.refuses op = false) (stamp : Stamp) (t : Tracker)
    (i : Input) : S.apply stamp t i = (follow stamp (changes S.flow S.helpers t i) t,
      (changes S.flow S.helpers t i).filterMap Change.work?) :=
  apply_shown (Moment.isShown_of_accepts accepts)

lemma recorded (accepts : ∀ op, S.refuses op = false) (h : Recorded t) :
    Recorded (S.apply stamp t i).1 := by
  rw [apply_of_accepts accepts]
  cases opens : i.opens with
  | false =>
    refine h.follow ?_
    intro c hc
    by_contra opened
    have := opens_of_mem hc (by simpa using opened)
    exact absurd (this.symm.trans opens) (by simp)
  | true =>
    cases i with
    | event e =>
      cases e with
      | callStart payload =>
        have split : changes S.flow S.helpers t (.event (.callStart payload)) =
            .begin (Event.phone payload) (Event.handle payload) :: .resetView ::
              arrival S.flow t.state := rfl
        rw [split, follow_cons, follow_cons]
        refine (h.begin _ _).follow ?_
        intro c hc
        obtain ⟨n, -, rfl | rfl⟩ := mem_arrival hc <;> rfl
      | failure payload => exact h.fail
      | _ => simp [Input.opens] at opens
    | _ => simp [Input.opens] at opens

end Stage

end Dialogue.Call
