import Dialogue.Proofs.Call.Ending
import Dialogue.Proofs.Call.Life

/-! The visited steps are the path that the call has left behind: each step that the position has
left, and no step at which it has never been but the ending that a hang-up completes. -/

namespace Dialogue.Call

variable {S : Stage} {σ τ : Scene} {m k : Moment} {ms : List Moment} {os : List Occurrence}
  {stamp : Stamp} {g : Flow} {helpers : Helpers} {t : Tracker} {i : Input} {id : String}

def Moment.Opens (m : Moment) : Prop :=
  m.input.opens = true ∧ m.after.state.epoch ≠ m.before.state.epoch

def Stood (ms : List Moment) (id : String) : Prop :=
  ∃ before m later, ms = before ++ m :: later ∧ m.after.state.current = some id ∧
    ∀ k ∈ later, ¬ k.Opens

/-- A call has ended, and the ending that it left glowing has been completed since. -/
def Concluded (S : Stage) (ms : List Moment) (epoch : Nat) (id : String) : Prop :=
  (∃ n, S.flow.ending? = some n ∧ n.id = id) ∧
    (∃ k ∈ ms, k.input = .event .callEnd ∧
      ∃ isEnding, .completion epoch id true isEnding ∈ k.started) ∧
    ∃ m ∈ ms, m.input = .completed epoch id true

lemma Concluded.mono {ns : List Moment} {epoch : Nat} (h : Concluded S ms epoch id)
    (sub : ms ⊆ ns) : Concluded S ns epoch id := by
  obtain ⟨ending, ⟨k, hk, hung⟩, m, hm, due⟩ := h
  exact ⟨ending, ⟨k, sub hk, hung⟩, m, sub hm, due⟩

lemma stood_snoc : Stood (ms ++ [m]) id ↔
    m.after.state.current = some id ∨ Stood ms id ∧ ¬ m.Opens := by
  constructor
  · rintro ⟨before, k, later, split, there, closed⟩
    rcases List.eq_nil_or_concat later with rfl | ⟨rest, n, rfl⟩
    · obtain ⟨-, rfl⟩ := List.append_singleton_inj.mp split
      exact .inl there
    · have same : ms ++ [m] = (before ++ k :: rest) ++ [n] := by simpa using split
      obtain ⟨rfl, rfl⟩ := List.append_singleton_inj.mp same
      exact .inr ⟨⟨before, k, rest, rfl, there, fun j hj => closed j (by simp [hj])⟩,
        closed m (by simp)⟩
  · rintro (there | ⟨⟨before, k, later, rfl, there, closed⟩, still⟩)
    · exact ⟨ms, m, [], rfl, there, by simp⟩
    · refine ⟨before, k, later ++ [m], by simp, there, ?_⟩
      intro j hj
      rcases List.mem_append.mp hj with hj | hj
      · exact closed j hj
      · obtain rfl : j = m := by simpa using hj
        exact still

lemma completed_before_move {next : String} (here : t.state.current = some id)
    (h : .moveTo next ∈ changes g helpers t i) (away : next ≠ id) (closed : i.opens = false) :
    ∃ before rest, changes g helpers t i = before ++ .complete id :: rest ∧
      ∀ c ∈ before, ∀ s, c.op? s = none := by
  have silent : ∀ role transcript, ∀ c ∈ noted role transcript, ∀ s, c.op? s = none :=
    fun _ _ _ => op?_of_noted
  cases moves_of_mem h with
  | opening => simp [Input.opens] at closed
  | @onward x next active here' waits done ahead new =>
    obtain rfl : x = id := Option.some.inj (here'.symm.trans here)
    exact ⟨[], [.moveTo next], changes_onward active here waits done ahead new, by simp⟩
  | spoken active =>
    obtain ⟨rest, split⟩ : ∃ rest, changes g helpers t (.event .speechEnd) =
        [] ++ .complete id :: rest := by
      simp [changes, onEvent, onSpeechEnd, active, here]
    exact ⟨[], rest, split, by simp⟩
  | @marked transcript _ active named =>
    obtain ⟨rest, split⟩ : ∃ rest, leaving t.state transcript id ++ arrive g t.state next =
        noted .assistant transcript ++ .complete id :: rest := by
      simp [leaving]
    exact ⟨_, rest, (changes_named active named here away.symm).trans split,
      silent .assistant transcript⟩
  | @begun transcript x next active named here' kind new ahead =>
    obtain rfl : x = id := Option.some.inj (here'.symm.trans here)
    have leads : onAssistant g t.state transcript = .complete x :: [.moveTo next] := by
      simp [onAssistant, named, onUnmarked, here, kind, new, ahead]
    exact ⟨_, _, leads ▸ changes_assistant active (isEmpty_of_move h), silent .assistant transcript⟩
  | @recalled transcript x intent e active named here' kind cached edge =>
    obtain rfl : x = id := Option.some.inj (here'.symm.trans here)
    have filled : intent.isEmpty = false := by
      by_contra blank
      obtain rfl : intent = "" := by simpa using blank
      have none : g.matchEdge x "" = none := rfl
      simp [none] at edge
    have leads : onAssistant g t.state transcript =
        .complete x :: [.moveTo e.target, .remember none] := by
      simp [onAssistant, named, onUnmarked, here, kind, cached, filled, edge]
    exact ⟨_, _, leads ▸ changes_assistant active (isEmpty_of_move h), silent .assistant transcript⟩
  | @heard transcript x next active here' kind ahead =>
    obtain rfl : x = id := Option.some.inj (here'.symm.trans here)
    obtain ⟨rest, leads⟩ : ∃ rest, onUser g t transcript = .complete x :: rest := by
      simp [onUser, here, kind]
    exact ⟨_, rest, leads ▸ changes_user active (isEmpty_of_move h), silent .user transcript⟩
  | @chosen ticket branch intent e active awaited here' edge =>
    obtain rfl : branch = id := Option.some.inj (here'.symm.trans here)
    refine ⟨[.forgetTicket, .remember (some intent)], [.moveTo e.target, .remember none], ?_,
      by simp [Change.op?]⟩
    simp [changes, onClassified, active, awaited, here, edge]

lemma changes_marked (helpers : Helpers) {transcript marked : String}
    (active : t.state.isActive = true) (named : markedStep g transcript = some marked) :
    ∃ before, changes g helpers t (.event (.message .assistant transcript)) =
        before ++ arrive g t.state marked ∧ ∀ w, .spawn w ∉ before := by
  by_cases leaves : ∃ previous, t.state.current = some previous ∧ previous ≠ marked
  · obtain ⟨previous, here, away⟩ := leaves
    refine ⟨_, changes_named active named here away, ?_⟩
    intro w hw
    simpa using mem_leaving hw
  · have stays : onMarker g t.state marked = arrive g t.state marked := by
      cases here : t.state.current with
      | none => simp [onMarker, here]
      | some previous =>
        have same : previous = marked := by
          by_contra away
          exact leaves ⟨previous, here, away⟩
        simp [onMarker, here, same]
    refine ⟨noted .assistant transcript, ?_, ?_⟩
    · rw [changes_assistant active (isEmpty_of_marked named), onAssistant, named, ← stays]
    · intro w hw
      exact absurd (mem_noted hw) (by simp)

namespace Stage

lemma epoch_of_closed (h : ¬ (S.moment stamp t i).Opens) :
    (S.apply stamp t i).1.state.epoch = t.state.epoch := by
  by_contra new
  exact h ⟨opens_of_new new, new⟩

lemma opens_iff (shown : (S.moment stamp t i).isShown S = true) :
    (S.moment stamp t i).Opens ↔ i.opens = true := by
  refine ⟨fun h => h.1, fun h => ⟨h, fun same => ?_⟩⟩
  exact absurd (h.symm.trans (opens_of_shown shown same)) (by simp)

lemma callEnd_of_nowhere (here : t.state.current = some id)
    (gone : (S.apply stamp t i).1.state.current = none)
    (same : (S.apply stamp t i).1.state.epoch = t.state.epoch) :
    i = .event .callEnd ∧ t.state.isActive = true := by
  have lost : t.state.epoch ≤ (S.apply stamp t i).1.state.epoch ∧
      ((S.apply stamp t i).1.state.current = none →
        .hangUp ∈ changes S.flow S.helpers t i ∨
          t.state.epoch < (S.apply stamp t i).1.state.epoch) := by
    refine apply_invariant (P := fun u => t.state.epoch ≤ u.state.epoch ∧
      (u.state.current = none → .hangUp ∈ changes S.flow S.helpers t i ∨
        t.state.epoch < u.state.epoch)) ⟨Nat.le_refl _, fun h => by simp [here] at h⟩ ?_
    rintro c hc u ⟨le, hu⟩
    refine ⟨Nat.le_trans le (c.epoch_le_onState stamp u.state), ?_⟩
    cases c with
    | begin | fail => exact fun _ => .inr (Nat.lt_succ_of_le le)
    | hangUp => exact fun _ => .inl hc
    | moveTo node => simp [Change.onState]
    | complete | record => simpa [Change.onState, State.record] using hu
    | _ => exact hu
  have hangs := (lost.2 gone).resolve_right (by omega)
  obtain rfl := callEnd_of_mem hangs
  cases active : t.state.isActive with
  | true => exact ⟨rfl, rfl⟩
  | false => simp [changes, onEvent, active] at hangs

lemma isVisited_of_departed (here : t.state.current = some id)
    (gone : (S.apply stamp t i).1.state.current ≠ some id)
    (same : (S.apply stamp t i).1.state.epoch = t.state.epoch) :
    (S.apply stamp t i).1.state.isVisited id = true := by
  cases there : (S.apply stamp t i).1.state.current with
  | none =>
    obtain ⟨rfl, active⟩ := callEnd_of_nowhere here there same
    exact isVisited_of_ended active here
  | some next =>
    have away : next ≠ id := by
      rintro rfl
      exact gone there
    have move : .moveTo next ∈ changes S.flow S.helpers t i :=
      (moved there).resolve_left fun h => away (Option.some.inj (h.symm.trans here))
    have closed : i.opens = false := by
      cases moves_of_mem move with
      | opening => rw [epoch_callStart] at same; omega
      | _ => rfl
    obtain ⟨before, rest, split, unseen⟩ := completed_before_move here move away closed
    exact isVisited_of_complete split unseen closed

lemma reached_of_started {before : List Change} {w : Work}
    (split : changes S.flow S.helpers t i = before ++ [.moveTo id, .spawn w])
    (new : .spawn w ∉ before) (h : w ∈ (S.apply stamp t i).2) :
    (S.apply stamp t i).1.state.current = some id := by
  rw [apply, split] at h ⊢
  rw [(carryOut_reached h new).1]
  simp only [carryOut]
  split_ifs <;> rfl

lemma stands_of_started {epoch : Nat} {clears isEnding : Bool}
    (h : .completion epoch id clears isEnding ∈ (S.apply stamp t i).2) :
    (S.apply stamp t i).1.state.current = some id ∨
      i = .event .callEnd ∧ clears = true ∧ ∃ n, S.flow.ending? = some n ∧ n.id = id := by
  cases starts h with
  | @opening payload n start =>
    have split : changes S.flow S.helpers t (.event (.callStart payload)) =
        [.begin (Event.phone payload) (Event.handle payload), .resetView] ++
          [.moveTo n.id, .spawn (.completion (t.state.epoch + 1) n.id false false)] := by
      simp [changes, onEvent, onCallStart, start]
    exact .inl (reached_of_started split (by simp) h)
  | @spoken x n next active here node spoken ahead new kind =>
    have split : changes S.flow S.helpers t (.event .speechEnd) =
        (.complete x :: lookupWork S.helpers t.state n) ++
          [.moveTo next.id, .spawn (.completion t.state.epoch next.id false true)] := by
      simp [changes, onEvent, onSpeechEnd, active, here, node, spoken, ahead, new, arrive, kind]
    refine .inl (reached_of_started split ?_ h)
    intro mem
    obtain ⟨_, _, _, _, _, _, other⟩ := mem_lookupWork ((List.mem_cons.mp mem).resolve_left (by simp))
    simp at other
  | @marked transcript marked active named kind =>
    obtain ⟨before, split, idle⟩ := changes_marked S.helpers active named
    rw [arrive, if_pos kind] at split
    exact .inl (reached_of_started split (idle _) h)
  | ended active ending => exact .inr ⟨rfl, rfl, _, ending, rfl⟩

end Stage

namespace Run

lemma stood_of_current (h : Run S {} ms σ) (here : σ.tracker.state.current = some id) :
    Stood ms id := by
  induction h with
  | nil => simp at here
  | snoc _ hs ih =>
    cases hs with
    | submit | finish => simpa using ih here
    | take => exact stood_snoc.mpr (.inl here)

lemma isVisited_of_stood (h : Run S {} ms σ) (stood : Stood ms id)
    (away : σ.tracker.state.current ≠ some id) : σ.tracker.state.isVisited id = true := by
  induction h with
  | nil => obtain ⟨before, m, later, split, -⟩ := stood; simp at split
  | @snoc α β ms m h hs ih =>
    cases hs with
    | submit | finish => exact ih (by simpa using stood) away
    | take stamp hq =>
      rcases stood_snoc.mp stood with there | ⟨stood, closed⟩
      · exact absurd there away
      · have same := Stage.epoch_of_closed closed
        by_cases here : α.tracker.state.current = some id
        · exact Stage.isVisited_of_departed here away same
        · exact Stage.isVisited_mono (ih stood here) same

lemma closed_of_epoch (h : Run S σ ms τ)
    (same : τ.tracker.state.epoch = σ.tracker.state.epoch) (hk : k ∈ ms) : ¬ k.Opens := by
  rintro ⟨-, new⟩
  have last := h.epoch_le_of_mem hk
  have step : k.before.state.epoch ≤ k.after.state.epoch := by
    rw [h.moment_eq hk]
    exact Stage.epoch_le
  obtain ⟨before, later, rfl⟩ := List.append_of_mem hk
  obtain ⟨α, β, hα, hs, -⟩ := h.split
  have begun : k.before = α.tracker := congrArg Moment.before hs.moment_eq.1
  have first : σ.tracker.state.epoch ≤ k.before.state.epoch := begun ▸ hα.epoch_le
  omega

lemma stood_of_mem (h : Run S σ ms τ) (hk : k ∈ ms)
    (same : k.after.state.epoch = τ.tracker.state.epoch)
    (there : k.after.state.current = some id) : Stood ms id := by
  obtain ⟨before, later, rfl⟩ := List.append_of_mem hk
  obtain ⟨α, β, -, hs, hβ⟩ := h.split
  refine ⟨before, k, later, rfl, there, ?_⟩
  exact fun j hj => hβ.closed_of_epoch (same.symm.trans (hs.moment_eq.2 ▸ rfl)) hj

lemma stood_of_started {clears isEnding : Bool} (h : Run S {} ms σ) (hk : k ∈ ms)
    (hw : .completion σ.tracker.state.epoch id clears isEnding ∈ k.started) :
    Stood ms id ∨
      k.input = .event .callEnd ∧ clears = true ∧ ∃ n, S.flow.ending? = some n ∧ n.id = id := by
  have begun := h.epoch_of_started hk hw rfl
  have reached : k.after.state.current = some id ∨
      k.input = .event .callEnd ∧ clears = true ∧ ∃ n, S.flow.ending? = some n ∧ n.id = id := by
    rw [h.moment_eq hk] at hw ⊢
    exact Stage.stands_of_started hw
  exact reached.imp_left (h.stood_of_mem hk begun)

lemma stood_or_concluded (h : Run S {} ms σ) (visited : σ.tracker.state.isVisited id = true) :
    Stood ms id ∨ Concluded S ms σ.tracker.state.epoch id := by
  induction h with
  | nil => simp [State.isVisited] at visited
  | @snoc α β ms m h hs ih =>
    cases hs with
    | submit | finish => simpa using ih visited
    | @take i rest stamp hq =>
      have same : (S.apply stamp α.tracker i).1.state.epoch = α.tracker.state.epoch := by
        by_contra new
        exact absurd (visited.symm.trans (Stage.fresh_of_new new).isVisited) (by simp)
      have closed : ¬ (S.moment stamp α.tracker i).Opens := fun opens => opens.2 same
      have earlier : Stood ms id → Stood (ms ++ [S.moment stamp α.tracker i]) id :=
        fun stood => stood_snoc.mpr (.inr ⟨stood, closed⟩)
      have present : α.tracker.state.current = some id →
          Stood (ms ++ [S.moment stamp α.tracker i]) id :=
        fun here => earlier (h.stood_of_current here)
      simp only [same]
      rcases Stage.completes visited with before | completes
      · exact (ih before).imp earlier fun done => done.mono (List.subset_append_left _ _)
      · cases completes with
        | @due node clears =>
          -- The completion was started in this call, as the position came to the step or at the end.
          obtain ⟨k, hk, isEnding, hw⟩ := h.completion_of_queued (hq ▸ List.mem_cons_self)
          refine (h.stood_of_started hk hw).imp earlier ?_
          rintro ⟨hung, rfl, ending⟩
          exact ⟨ending, ⟨k, List.mem_append_left _ hk, hung, isEnding, hw⟩, _,
            List.mem_append_right _ List.mem_cons_self, rfl⟩
        | passed _ here | spoken _ here | left _ _ here | unmarked _ _ here | heard _ here
        | ended _ here | chosen _ _ here => exact .inl (present here)

end Run

end Dialogue.Call
