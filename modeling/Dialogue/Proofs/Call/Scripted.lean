import Dialogue.Proofs.Call.Branching
import Dialogue.Proofs.Call.Following
import Dialogue.Proofs.Script.Coverage

/-! Where a call goes beyond its script: an agent that starts to speak at an ending that is done
goes on along the first edge drawn there, while the script ends at it. -/

namespace Dialogue.Call

open Script

variable {S : Stage} {σ τ : Scene} {m : Moment} {ms : List Moment} {os : List Occurrence}
  {stamp : Stamp} {t : Tracker} {i : Input} {a b id : String}

inductive Moment.Overruns (S : Stage) (m : Moment) : Prop
  | intro {a b : String} : m.input = .event .speechStart → m.before.state.isActive = true →
      m.before.state.current = some a → kindOf S.flow a = some .ending →
      m.before.state.isVisited a = true → S.flow.next? a = some b →
      m.before.state.isVisited b = false → linesOf S.flow b = [] → Overruns S m

lemma Moment.Overruns.beyond (h : (S.moment stamp t i).Overruns S) :
    i.opens = false ∧ ∃ b, (S.apply stamp t i).1.state.current = some b ∧
      linesOf S.flow b = [] := by
  obtain ⟨hi, active, here, kind, done, ahead, new, unwritten⟩ := h
  obtain rfl : i = .event .speechStart := hi
  exact ⟨rfl, _, Stage.current_of_onward active here (by simp [kind]) done ahead new, unwritten⟩

lemma Moves.scripted (move : Moves S.flow t i b) (sound : S.flow.Sound)
    (earlier : ∀ a, t.state.current = some a → a ∈ stepIds S.flow)
    (asked : ∀ epoch ticket branch intent, i = .classified epoch ticket branch (some intent) →
      kindOf S.flow branch = some .branch)
    (unnamed : ¬ (S.moment stamp t i).Names S b) :
    b ∈ stepIds S.flow ∨ (S.moment stamp t i).Overruns S := by
  have passed {a : String} {n : Node} (here : t.state.current = some a)
      (node : S.flow.node? a = some n) (other : n.kind ≠ .ending)
      (ahead : S.flow.next? a = some b) : b ∈ stepIds S.flow :=
    (follows_of_next node other ahead).mem_stepIds sound (earlier a here)
  have chose {a intent : String} {e : Edge} (here : t.state.current = some a)
      (kind : kindOf S.flow a = some .branch) (edge : S.flow.matchEdge a intent = some e) :
      e.target ∈ stepIds S.flow := by
    obtain ⟨n, node, branch⟩ := exists_node_of_kind kind
    exact (Follows.choice node branch (Flow.leads_of_match edge)).mem_stepIds sound (earlier a here)
  cases move with
  | opening start => exact .inl (start_mem_stepIds start)
  | @onward a b active here waits done ahead new =>
    obtain ⟨-, n, node⟩ := mem_stepIds.mp (earlier a here)
    by_cases ending : n.kind = .ending
    · have kind : kindOf S.flow a = some .ending := ending ▸ kindOf_of_node node
      by_cases written : b ∈ stepIds S.flow
      · exact .inl written
      · exact .inr (.intro rfl active here kind (done.resolve_left (by simp [kind])) ahead new
          (linesOf_eq_nil.mpr written))
    · exact .inl (passed here node ending ahead)
  | @spoken a n next active here node kind ahead =>
    have other : n.kind ≠ .ending := by rcases kind with kind | kind <;> simp [kind]
    exact .inl (passed here node other (nodes_of_ahead ahead).1)
  | marked active named => exact absurd ⟨active, _, rfl, markedStep_eq_some.mp named⟩ unnamed
  | begun active named here kind new ahead =>
    obtain ⟨n, node, start⟩ := exists_node_of_kind kind
    exact .inl (passed here node (by simp [start]) ahead)
  | recalled active named here kind cached edge => exact .inl (chose here kind edge)
  | heard active here kind ahead =>
    obtain ⟨n, node, listen⟩ := exists_node_of_kind kind
    exact .inl (passed here node (by simp [listen]) (nodes_of_ahead ahead).1)
  | chosen active awaited here edge => exact .inl (chose here (asked _ _ _ _ rfl) edge)

lemma Run.scripted_of_stood (h : Run S {} ms σ) (sound : S.flow.Sound)
    (unnamed : Unnamed S σ.tracker.state.epoch ms)
    (within : ∀ m ∈ ms, m.before.state.epoch = σ.tracker.state.epoch →
      (∀ a, m.before.state.current = some a → a ∈ stepIds S.flow) → ¬ m.Overruns S)
    (stood : Stood ms id) : id ∈ stepIds S.flow := by
  refine h.stood_invariant (P := (· ∈ stepIds S.flow)) (fun n => start_mem_stepIds) ?_ stood
  rintro α β m b ⟨ns, run⟩ step hm now same move earlier
  cases step with
  | @take i rest stamp hq =>
    have asked : ∀ epoch ticket branch intent, i = .classified epoch ticket branch (some intent) →
        kindOf S.flow branch = some .branch := by
      rintro epoch ticket branch intent rfl
      exact (run.answered (hq ▸ List.mem_cons_self) stamp).1
    exact (move.scripted sound earlier asked (unnamed _ hm now b)).resolve_right
      (within _ hm now earlier)

/-- In a call of a sound flow in which the agent names no step, every step at which the call stands
has a line in the script just if the agent never speaks on at an ending to a step without a line; in
particular where no ending of the script leads to such a step. -/
theorem stays_in_script_iff (sound : S.flow.isSound = true) (life : Life S {} os σ)
    (unnamed : Unnamed S σ.tracker.state.epoch (moments os)) :
    ((∀ id, Stood (moments os) id → linesOf S.flow id ≠ []) ↔
      ∀ m ∈ moments os, m.before.state.epoch = σ.tracker.state.epoch → ¬ m.Overruns S) ∧
    ((∀ n ∈ steps S.flow, n.kind = .ending → ∀ next, S.flow.next? n.id = some next →
        linesOf S.flow next ≠ []) →
      ∀ id, Stood (moments os) id → linesOf S.flow id ≠ []) := by
  obtain ⟨ws, run, -⟩ := life.run
  have sound := Flow.sound_of_isSound sound
  have within (straight : ∀ m ∈ moments os, m.before.state.epoch = σ.tracker.state.epoch →
      (∀ a, m.before.state.current = some a → a ∈ stepIds S.flow) → ¬ m.Overruns S) :
      ∀ id, Stood (moments os) id → linesOf S.flow id ≠ [] :=
    fun id stood none => linesOf_eq_nil.mp none (run.scripted_of_stood sound unnamed straight stood)
  refine ⟨⟨?_, fun straight => within fun m hm now _ => straight m hm now⟩, ?_⟩
  · intro written m hm now overruns
    have hm' := run.moment_eq hm
    rw [hm'] at overruns
    obtain ⟨closed, b, there, unwritten⟩ := overruns.beyond
    have same : m.after.state.epoch = m.before.state.epoch := by
      rw [hm']
      exact Stage.epoch_eq closed
    refine written b (run.stood_of_mem hm (same.trans now) ?_) unwritten
    rw [hm']
    exact there
  · intro closed
    refine within fun m hm now earlier overruns => ?_
    obtain ⟨-, -, here, kind, -, ahead, -, unwritten⟩ := overruns
    obtain ⟨n, hn, rfl⟩ := List.mem_map.mp (earlier _ here)
    have ending : n.kind = .ending :=
      Option.some.inj ((kindOf_of_node (node?_of_mem_steps hn)).symm.trans kind)
    exact closed n hn ending _ ahead unwritten

theorem listening_stays_in_script :
    Stage.initial.flow.isSound = true ∧
      Unnamed Stage.initial 1 (moments ((Stage.initial.heard "" {} listening).map .taken)) ∧
      ∀ id, Stood (moments ((Stage.initial.heard "" {} listening).map .taken)) id →
        linesOf Flow.initial id ≠ [] := by
  have life : Life Stage.initial {} ((Stage.initial.heard "" {} listening).map .taken)
      (Stage.initial.hear "" {} listening) := Run.life (.hear rfl _)
  have sound : Stage.initial.flow.isSound = true := by decide +kernel
  have endings : ∀ n ∈ Flow.initial.nodes, n.kind = .ending → Flow.initial.next? n.id = none := by
    decide +kernel
  have unnamed : Unnamed Stage.initial 1
      (moments ((Stage.initial.heard "" {} listening).map .taken)) :=
    unnamed_of_heard (by simp [listening])
  refine ⟨sound, unnamed, ?_⟩
  refine (stays_in_script_iff sound life unnamed).2 fun n hn ending next ahead => ?_
  have last := endings n (Flow.node?_mem (node?_of_mem_steps hn)) ending
  cases last.symm.trans ahead

def Stage.sidetracked : Stage where
  flow := Script.sidetracked
  helpers := ⟨false, false⟩

def speakingOn : List Event := [.callStart [], .speechStart, .speechEnd, .speechStart]

theorem call_goes_on_behind_ending :
    Stage.sidetracked.flow.isSound = true ∧
      Life Stage.sidetracked {} ((Stage.sidetracked.heard "" {} speakingOn).map .taken)
        (Stage.sidetracked.hear "" {} speakingOn) ∧
      Unnamed Stage.sidetracked 1
        (moments ((Stage.sidetracked.heard "" {} speakingOn).map .taken)) ∧
      (Stage.sidetracked.hear "" {} speakingOn).tracker.state.epoch = 1 ∧
      (Stage.sidetracked.hear "" {} speakingOn).tracker.state.current = some "message-2" ∧
      Stood (moments ((Stage.sidetracked.heard "" {} speakingOn).map .taken)) "message-2" ∧
      linesOf Stage.sidetracked.flow "message-2" = [] := by
  have quiet : Unnamed Stage.sidetracked 1
      (moments ((Stage.sidetracked.heard "" {} speakingOn).map .taken)) :=
    unnamed_of_heard (by simp [speakingOn])
  have beyond : Stood (moments ((Stage.sidetracked.heard "" {} speakingOn).map .taken))
      "message-2" := by
    rw [moments_taken]
    exact ⟨[_, _, _], _, [], rfl, rfl, by simp⟩
  exact ⟨by decide +kernel, Run.life (.hear rfl _), quiet, rfl, rfl, beyond,
    linesOf_sidetracked (by decide)⟩

end Dialogue.Call
