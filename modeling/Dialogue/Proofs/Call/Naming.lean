import Dialogue.Proofs.Call.Following
import Dialogue.Proofs.Script.Coverage
import Dialogue.Proofs.Text.Marking

/-! Scripts and calls agree on the names of steps: the marker that a script prints for a step brings
the call to this step, provided that a marker carries its id. -/

namespace Dialogue.Call

open Script

variable {S : Stage} {g : Flow} {n : Node} {stamp : Stamp} {t : Tracker}
  {id transcript prompt : String}

lemma Stage.current_of_named (active : t.state.isActive = true)
    (named : markedStep S.flow transcript = some id)
    (shown : (S.moment stamp t (.event (.message .assistant transcript))).isShown S = true) :
    (S.apply stamp t (.event (.message .assistant transcript))).1.state.current = some id := by
  obtain ⟨before, split, -⟩ := changes_marked S.helpers active named
  rw [apply_shown shown, split, follow_append, arrive]
  split <;> rfl

/-- A published script prints the marker of each of its steps. Whatever follows it, the marker is read
back as the id of the step just if a marker carries the id, and then it brings the call to the step. -/
theorem marker_is_read_back_iff (published : publish g = .ok prompt) (hn : n ∈ steps g) :
    (∃ (number : Nat) (before after : List String), prompt = "\n".intercalate (before ++
      (toString number ++ ". " ++ Marker.formatText n.id ++ " " ++ instruction n) :: after)) ∧
    ((∀ s, Marker.parseText (Marker.formatText n.id ++ s) = some n.id) ↔
      Marker.Carried n.id.toList) ∧
    (Marker.Carried n.id.toList → ∀ (S : Stage) (stamp : Stamp) (t : Tracker) (s : String),
      S.flow = g → t.state.isActive = true →
      (S.moment stamp t (.event (.message .assistant (Marker.formatText n.id ++ s)))).isShown S =
        true →
      (S.apply stamp t (.event (.message .assistant
        (Marker.formatText n.id ++ s)))).1.state.current = some n.id) := by
  refine ⟨?_, Marker.parseText_formatText_iff, ?_⟩
  · obtain ⟨-, rfl⟩ := sound_of_publish published
    obtain ⟨number, line⟩ := linesOf_of_mem hn
    have written : stepLine number n ∈ lines g :=
      (linesOf_sublist g n.id).subset (line ▸ List.mem_cons_self)
    obtain ⟨before, after, split⟩ := List.append_of_mem written
    exact ⟨number, preamble ++ before, after ++ [""] ++ closingRules, by simp [split, stepLine]⟩
  · rintro carried S stamp t s rfl active shown
    have named : markedStep S.flow (Marker.formatText n.id ++ s) = some n.id :=
      markedStep_eq_some.mpr
        ⟨Marker.parseText_formatText_iff.mpr carried s, n, node?_of_mem_steps hn⟩
    exact Stage.current_of_named active named shown

theorem greeting_marker_is_read_back :
    (∃ prompt, publish Flow.initial = .ok prompt) ∧ "message-1" ∈ stepIds Flow.initial ∧
      Marker.Carried "message-1".toList ∧
      (∀ s, Marker.parseText (Marker.formatText "message-1" ++ s) = some "message-1") ∧
      (Stage.initial.apply "" (Stage.initial.hear "" {} [.callStart []]).tracker
        (.event (.message .assistant (Marker.formatText "message-1" ++ " Hello!")))).1.state.current =
          some "message-1" := by
  have accepted : Flow.initial.isSound = true := by decide +kernel
  have published : publish Flow.initial = .ok (compile Flow.initial) := if_pos accepted
  have start : "start-1" ∈ stepIds Flow.initial := start_mem_stepIds (n := Flow.step ..) rfl
  have greets : Follows Flow.initial "start-1" "message-1" := .onward rfl (by decide) (by decide) rfl
  have written := greets.mem_stepIds (Flow.sound_of_isSound accepted) start
  obtain ⟨n, hn, named⟩ := List.mem_map.mp written
  have carried : Marker.Carried "message-1".toList := by decide
  have agreed := marker_is_read_back_iff published hn
  simp only [named] at agreed
  obtain ⟨-, read, arrives⟩ := agreed
  refine ⟨⟨_, published⟩, written, carried, read.mpr carried, ?_⟩
  exact arrives carried Stage.initial "" _ _ rfl rfl (Moment.isShown_of_accepts fun _ => rfl)

def Stage.misnaming : Stage where
  flow := {
    nodes := [
      Flow.step "start-1" 0.0 0.0 "Call Starts" .start,
      Flow.step "offer" 0.0 100.0 "Offer" (.message none),
      Flow.step "offer]again" 0.0 200.0 "Second Offer" (.message none),
      Flow.step "end-1" 0.0 300.0 "End Call" (.ending none none)]
    edges := [
      Flow.arrow "e1" "start-1" "offer" none,
      Flow.arrow "e2" "offer" "offer]again" none,
      Flow.arrow "e3" "offer]again" "end-1" none] }
  helpers := ⟨false, false⟩

theorem marker_is_read_back_as_other_step :
    (∃ prompt, publish Stage.misnaming.flow = .ok prompt) ∧
      (∃ n ∈ steps Stage.misnaming.flow, n.id = "offer]again") ∧
      Marker.parseText (Marker.formatText "offer]again" ++ " Hello") = some "offer" ∧
      (Stage.misnaming.hear "" {} [.callStart [],
        .message .assistant (Marker.formatText "offer]again" ++ " Hello")]).tracker.state.current =
          some "offer" := by
  have accepted : Stage.misnaming.flow.isSound = true := by decide +kernel
  have sound := Flow.sound_of_isSound accepted
  have start : "start-1" ∈ stepIds Stage.misnaming.flow := start_mem_stepIds (n := Flow.step ..) rfl
  have offers : Follows Stage.misnaming.flow "start-1" "offer" :=
    .onward rfl (by decide) (by decide) rfl
  have again : Follows Stage.misnaming.flow "offer" "offer]again" :=
    .onward rfl (by decide) (by decide) rfl
  have written := again.mem_stepIds sound (offers.mem_stepIds sound start)
  exact ⟨⟨_, if_pos accepted⟩, List.mem_map.mp written, rfl, rfl⟩

end Dialogue.Call
