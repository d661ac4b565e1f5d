import Dialogue.Proofs.Call.Effect
import Dialogue.Proofs.Flow.Choices
import Dialogue.Proofs.Intent.Choosing

/-! Where an answer leads. A choice that a branch offers selects an edge, unless it is blank: a step
behind an edge without a label offers its own label, be it blank, and no edge is selected by that. -/

namespace Dialogue

open Intent Text

variable {g : Flow} {branch c : String} {e : Edge}

namespace Flow

lemma matchEdge_of_candidate_iff (offered : c ∈ g.candidates branch) :
    (∃ e ∈ g.outgoing branch, g.matchEdge branch c = some e) ↔ isBlankText c = false := by
  constructor
  · rintro ⟨e, -, selected⟩
    by_contra blank
    have none : g.matchEdge branch c = none :=
      matchEdge_of_blank (wanted_eq_nil_iff.mpr (by simpa using blank))
    simp [none] at selected
  · intro filled
    have words : wanted c ≠ [] := fun empty => by simp [wanted_eq_nil_iff.mp empty] at filled
    obtain ⟨e, selected⟩ := matchEdge_of_candidate offered words
    exact ⟨e, matchEdge_mem selected, selected⟩

lemma source_of_blank_candidate (offered : c ∈ g.candidates branch)
    (blank : isBlankText c = true) :
    ∃ e ∈ g.outgoing branch, e.hasLabel = false ∧ ∃ n, g.node? e.target = some n ∧ n.label = c := by
  obtain ⟨filled, e, he, named⟩ := mem_candidates.mp offered
  refine ⟨e, he, ?_⟩
  by_cases labeled : e.hasLabel = true
  · obtain ⟨label, hl, marked⟩ := Edge.exists_label labeled
    rw [choiceLabel, if_pos labeled, hl, Option.getD_some] at named
    simp [named, blank] at marked
  · refine ⟨by simpa using labeled, ?_⟩
    rw [choiceLabel, if_neg labeled] at named
    cases target : g.node? e.target with
    | none => simp [← named, target] at filled
    | some n => exact ⟨n, rfl, by simpa [target] using named⟩

end Flow

namespace Call

variable {S : Stage} {stamp : Stamp} {t : Tracker} {ticket : Nat}

namespace Stage

lemma routed (active : t.state.isActive = true) (awaited : t.state.ticket = some ticket)
    (here : t.state.current = some branch) (selected : S.flow.matchEdge branch c = some e)
    (shown : (S.moment stamp t (.classified t.state.epoch ticket branch (some c))).isShown S = true) :
    (S.apply stamp t (.classified t.state.epoch ticket branch (some c))).1.state.current =
        some e.target ∧
      (S.apply stamp t (.classified t.state.epoch ticket branch (some c))).1.state.intent = none := by
  have onward : changes S.flow S.helpers t (.classified t.state.epoch ticket branch (some c)) =
      [.forgetTicket, .remember (some c), .complete branch, .moveTo e.target, .remember none] := by
    simp [changes, onClassified, active, awaited, here, selected]
  rw [apply_shown shown, onward]
  exact ⟨rfl, rfl⟩

lemma unrouted (active : t.state.isActive = true) (awaited : t.state.ticket = some ticket)
    (here : t.state.current = some branch) (unselected : S.flow.matchEdge branch c = none) :
    (S.apply stamp t (.classified t.state.epoch ticket branch (some c))).1.state.current =
        some branch ∧
      (S.apply stamp t (.classified t.state.epoch ticket branch (some c))).1.state.intent = some c := by
  have stays : changes S.flow S.helpers t (.classified t.state.epoch ticket branch (some c)) =
      [.forgetTicket, .remember (some c)] := by
    simp [changes, onClassified, active, awaited, here, unselected]
  rw [apply, stays]
  exact ⟨here, rfl⟩

end Stage

/-- Every choice that a branch offers selects an edge, and as an answer leads along it, unless the
choice is blank; a blank one is the label of a step behind an edge without a label, and with it as
the answer the call stays at the branch. -/
theorem offered_choice_is_routed_iff (S : Stage) (branch : String) :
    ∀ c ∈ S.flow.candidates branch,
      ((∃ e ∈ S.flow.outgoing branch, S.flow.matchEdge branch c = some e) ↔
        isBlankText c = false) ∧
      (isBlankText c = true → ∃ e ∈ S.flow.outgoing branch, e.hasLabel = false ∧
        ∃ n, S.flow.node? e.target = some n ∧ n.label = c) ∧
      ∀ stamp t ticket, t.state.isActive = true → t.state.ticket = some ticket →
        t.state.current = some branch →
        ∀ m, m = S.moment stamp t (.classified t.state.epoch ticket branch (some c)) →
          m.isShown S = true →
          if isBlankText c then m.after.state.current = some branch ∧ m.after.state.intent = some c
          else ∃ e ∈ S.flow.outgoing branch, S.flow.matchEdge branch c = some e ∧
            m.after.state.current = some e.target ∧ m.after.state.intent = none := by
  intro c offered
  have routes := Flow.matchEdge_of_candidate_iff offered
  refine ⟨routes, Flow.source_of_blank_candidate offered, ?_⟩
  rintro stamp t ticket active awaited here m rfl shown
  cases blank : isBlankText c with
  | true =>
    have unselected : S.flow.matchEdge branch c = none :=
      Flow.matchEdge_of_blank (wanted_eq_nil_iff.mpr blank)
    exact Stage.unrouted active awaited here unselected
  | false =>
    obtain ⟨e, he, selected⟩ := routes.mpr blank
    exact ⟨e, he, selected, Stage.routed active awaited here selected shown⟩

def wondering : List Event :=
  [.callStart [], .message .assistant "[[NODE:branch-1]]", .message .user "Where is your shop?"]

theorem info_is_routed :
    (Stage.initial.hear "" {} wondering).tracker.state.ticket = some 1 ∧
      "Info" ∈ Flow.initial.candidates "branch-1" ∧ isBlankText "Info" = false ∧
      ∃ e ∈ Flow.initial.outgoing "branch-1",
        Flow.initial.matchEdge "branch-1" "Info" = some e ∧
        (Stage.initial.apply "" (Stage.initial.hear "" {} wondering).tracker
          (.classified 1 1 "branch-1" (some "Info"))).1.state.current = some e.target := by
  have offered : "Info" ∈ Flow.initial.candidates "branch-1" := by decide +kernel
  have filled : isBlankText "Info" = false := by decide +kernel
  obtain ⟨-, -, leads⟩ := offered_choice_is_routed_iff Stage.initial "branch-1" "Info" offered
  have answered := leads "" (Stage.initial.hear "" {} wondering).tracker 1 rfl rfl rfl _ rfl
    (Moment.isShown_of_accepts fun _ => rfl)
  rw [if_neg (by simp [filled])] at answered
  obtain ⟨e, he, selected, there, -⟩ := answered
  exact ⟨rfl, offered, filled, e, he, selected, there⟩

def nameless : Flow where
  nodes := [
    Flow.step "start-1" 0.0 0.0 "Call Starts" .start,
    Flow.step "branch-1" 0.0 100.0 "Route by Intent" .branch,
    Flow.step "message-1" 0.0 200.0 " " (.message (some "One moment please.")),
    Flow.step "transfer-1" 200.0 200.0 "Support" (.transfer none)]
  edges := [
    Flow.arrow "e1" "start-1" "branch-1" none,
    Flow.arrow "e2" "branch-1" "message-1" none,
    Flow.arrow "e3" "branch-1" "transfer-1" none]

theorem blank_choice_is_not_routed :
    kindOf nameless "branch-1" = some .branch ∧ " " ∈ nameless.candidates "branch-1" ∧
      bestMatch "I need help" (nameless.candidates "branch-1") = some " " ∧
      nameless.matchEdge "branch-1" " " = none :=
  ⟨by decide +kernel, by decide +kernel, by decide +kernel, Flow.matchEdge_of_blank rfl⟩

end Call

end Dialogue
