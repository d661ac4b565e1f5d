import Dialogue.Proofs.Call.Path
import Dialogue.Proofs.Flow.Soundness

/-! How the position goes on within a call: along an edge of the flow, or to a step that the agent
names. -/

namespace Dialogue.Call

variable {S : Stage} {σ τ : Scene} {m : Moment} {ms : List Moment} {os : List Occurrence}
  {stamp : Stamp} {g : Flow} {t : Tracker} {i : Input} {a b id : String} {epoch : Nat}

def Moment.Names (S : Stage) (m : Moment) (id : String) : Prop :=
  m.before.state.isActive = true ∧ ∃ transcript,
    m.input = .event (.message .assistant transcript) ∧
      Marker.parseText transcript = some id ∧ ∃ n, S.flow.node? id = some n

def Unnamed (S : Stage) (epoch : Nat) (ms : List Moment) : Prop :=
  ∀ m ∈ ms, m.before.state.epoch = epoch → ∀ id, ¬ m.Names S id

lemma markedStep_eq_some {transcript : String} : markedStep g transcript = some id ↔
    Marker.parseText transcript = some id ∧ ∃ n, g.node? id = some n := by
  simp only [markedStep, Option.filter_eq_some_iff, Option.isSome_iff_exists]

lemma Moves.leads_or_names (h : Moves S.flow t i b)
    (same : (S.apply stamp t i).1.state.epoch = t.state.epoch) :
    (∃ a, t.state.current = some a ∧ S.flow.Leads a b) ∨ (S.moment stamp t i).Names S b := by
  cases h with
  | opening => rw [Stage.epoch_callStart] at same; omega
  | onward _ here _ _ ahead => exact .inl ⟨_, here, Flow.leads_of_next ahead⟩
  | spoken _ here _ _ ahead | heard _ here _ ahead =>
    exact .inl ⟨_, here, Flow.leads_of_next (nodes_of_ahead ahead).1⟩
  | marked active named => exact .inr ⟨active, _, rfl, markedStep_eq_some.mp named⟩
  | begun _ _ here _ _ ahead => exact .inl ⟨_, here, Flow.leads_of_next ahead⟩
  | recalled _ _ here _ _ edge | chosen _ _ here edge =>
    exact .inl ⟨_, here, Flow.leads_of_match edge⟩

namespace Stage

lemma leads_or_names (here : t.state.current = some a)
    (there : (S.apply stamp t i).1.state.current = some b) (away : b ≠ a)
    (same : (S.apply stamp t i).1.state.epoch = t.state.epoch) :
    S.flow.Leads a b ∨ (S.moment stamp t i).Names S b := by
  have move := (moves there).resolve_left fun h => away (Option.some.inj (h.symm.trans here))
  refine (move.leads_or_names same).imp_left ?_
  rintro ⟨x, here', lead⟩
  obtain rfl : x = a := Option.some.inj (here'.symm.trans here)
  exact lead

end Stage

namespace Run

lemma stood_invariant {P : String → Prop} (h : Run S {} ms σ)
    (opening : ∀ n, S.flow.start? = some n → P n.id)
    (moving : ∀ α β m b, Reachable S α → Step S α (some m) β → m ∈ ms →
      m.before.state.epoch = σ.tracker.state.epoch → m.after.state.epoch = m.before.state.epoch →
      Moves S.flow m.before m.input b → (∀ a, m.before.state.current = some a → P a) → P b)
    (stood : Stood ms id) : P id := by
  induction h generalizing id with
  | nil => obtain ⟨before, m, later, split, -⟩ := stood; simp at split
  | @snoc α β ms m h hs ih =>
    cases hs with
    | submit | finish => exact ih (by simpa using moving) (by simpa using stood)
    | @take i rest stamp hq =>
      by_cases same : (S.apply stamp α.tracker i).1.state.epoch = α.tracker.state.epoch
      · have earlier : ∀ x, Stood ms x → P x := by
          intro x
          refine ih fun α' β' m b reached step hm now => ?_
          exact moving α' β' m b reached step (List.mem_append_left _ hm) (now.trans same.symm)
        rcases stood_snoc.mp stood with there | ⟨before, -⟩
        · rcases Stage.moves there with before | move
          · exact earlier id (h.stood_of_current before)
          · exact moving α _ _ id ⟨ms, h⟩ (.take stamp hq)
              (List.mem_append_right _ List.mem_cons_self) same.symm same move
              fun a here => earlier a (h.stood_of_current here)
        · exact earlier id before
      -- A new epoch forgets where the call stood before it, so only the start is left.
      · rcases stood_snoc.mp stood with there | ⟨-, closed⟩
        · obtain ⟨n, start, rfl⟩ := (Stage.fresh_of_new same).current _ there
          exact opening n start
        · exact absurd (Stage.epoch_of_closed closed) same

lemma exists_node (h : Run S {} ms σ) (ends : ∀ e ∈ S.flow.edges, e.target ∈ S.flow.ids)
    (here : σ.tracker.state.current = some id) : ∃ n, S.flow.node? id = some n := by
  refine h.stood_invariant (P := fun id => ∃ n, S.flow.node? id = some n)
    (fun n => Flow.exists_node_of_start) ?_ (h.stood_of_current here)
  rintro α β m b - step - - same move -
  cases step with
  | take stamp =>
    rcases move.leads_or_names same with ⟨a, -, e, he, -, rfl⟩ | ⟨-, transcript, -, -, node⟩
    · exact Flow.mem_ids.mp (ends e he)
    · exact node

lemma reaches_of_stood (h : Run S {} ms σ) (unnamed : Unnamed S σ.tracker.state.epoch ms)
    (stood : Stood ms id) : S.flow.Reaches id := by
  refine h.stood_invariant (P := S.flow.Reaches) (fun n => .start) ?_ stood
  rintro α β m b - step hm now same move earlier
  cases step with
  | take stamp =>
    rcases move.leads_or_names same with ⟨a, here, lead⟩ | named
    · exact (earlier a here).tail lead
    · exact absurd named (unnamed _ hm now _)

end Run

/-- Within a call the position goes along an edge or to a step that the agent names. So it never
leaves a flow whose edges end at steps, and without names it goes, and leaves done behind it, only
what edges lead to from the start; save that a hang-up completes the ending. -/
theorem positions_follow_edges_or_names (life : Life S {} os σ) :
    (∀ m ∈ moments os, ∀ a b, m.before.state.current = some a → m.after.state.current = some b →
      b ≠ a → m.after.state.epoch = m.before.state.epoch → S.flow.Leads a b ∨ m.Names S b) ∧
    ((∀ e ∈ S.flow.edges, e.source ∈ S.flow.ids ∧ e.target ∈ S.flow.ids) →
      ∀ id, σ.tracker.state.current = some id → ∃ n, S.flow.node? id = some n) ∧
    (Unnamed S σ.tracker.state.epoch (moments os) →
      (∀ id, Stood (moments os) id → S.flow.Reaches id) ∧
      ∀ id, σ.tracker.state.isVisited id = true →
        S.flow.Reaches id ∨ Concluded S (moments os) σ.tracker.state.epoch id) := by
  obtain ⟨ws, run, -⟩ := life.run
  refine ⟨?_, ?_, ?_⟩
  · intro m hm a b here there away same
    rw [run.moment_eq hm] at here there same ⊢
    exact Stage.leads_or_names here there away same
  · intro ends id here
    exact run.exists_node (fun e he => (ends e he).2) here
  · intro unnamed
    refine ⟨fun id => run.reaches_of_stood unnamed, fun id visited => ?_⟩
    exact (run.stood_or_concluded visited).imp_left (run.reaches_of_stood unnamed)

lemma unnamed_of_heard {es : List Event}
    (quiet : ∀ transcript, .message .assistant transcript ∉ es) :
    Unnamed S epoch (moments ((S.heard stamp t es).map .taken)) := by
  rw [moments_taken]
  rintro m hm - id ⟨-, transcript, said, -⟩
  obtain ⟨e, he, heard⟩ := Stage.input_of_heard hm
  obtain rfl : e = .message .assistant transcript := Input.event.inj (heard.symm.trans said)
  exact quiet transcript he

def listening : List Event := [.callStart [], .speechStart, .speechEnd, .message .user "Support"]

theorem listening_leads_to_branch :
    (∃ m ∈ moments ((Stage.initial.heard "" {} listening).map .taken),
      m.before.state.current = some "listen-1" ∧ m.after.state.current = some "branch-1" ∧
        (Flow.initial.Leads "listen-1" "branch-1" ∨ m.Names Stage.initial "branch-1")) ∧
      (∃ n, Flow.initial.node? "branch-1" = some n) ∧
      Unnamed Stage.initial 1 (moments ((Stage.initial.heard "" {} listening).map .taken)) ∧
      Flow.initial.Reaches "branch-1" := by
  have life : Life Stage.initial {} ((Stage.initial.heard "" {} listening).map .taken)
      (Stage.initial.hear "" {} listening) := Run.life (.hear rfl _)
  have heard : moments ((Stage.initial.heard "" {} listening).map .taken) =
      Stage.initial.heard "" {} listening := moments_taken _
  have unnamed : Unnamed Stage.initial 1
      (moments ((Stage.initial.heard "" {} listening).map .taken)) :=
    unnamed_of_heard (by simp [listening])
  have stood : Stood (moments ((Stage.initial.heard "" {} listening).map .taken)) "branch-1" :=
    heard ▸ ⟨[_, _, _], _, [], rfl, rfl, by simp⟩
  obtain ⟨justified, inside, reached⟩ := positions_follow_edges_or_names life
  have asked : (Stage.initial.heard "" {} listening)[3] ∈
      moments ((Stage.initial.heard "" {} listening).map .taken) := by
    rw [heard]
    exact List.getElem_mem _
  refine ⟨⟨_, asked, rfl, rfl, justified _ asked _ _ rfl rfl (by decide) rfl⟩, ?_, unnamed, ?_⟩
  · exact inside (by decide +kernel) _ rfl
  · exact (reached unnamed).1 _ stood

end Dialogue.Call
