import Dialogue.Flow.Template
import Dialogue.Intent.Routing
import Dialogue.Script
import Dialogue.Proofs.Flow.Soundness
import Dialogue.Proofs.Text.Trimming
import Mathlib.Data.List.Find

/-! The choices that a script names at a branch and the edges that they select. A sound flow tells
its choices apart by their labels, while an intent selects an edge by the label of its target as
well. -/

namespace Dialogue

variable {g : Flow} {n m : Node} {e f : Edge} {before after : List Edge} {query : List Char}

namespace Edge

def key (e : Edge) : List Char := Flow.choiceKey (e.label.getD "")

lemma exists_label (h : e.hasLabel = true) :
    ∃ label, e.label = some label ∧ Text.isBlankText label = false := by
  cases label : e.label with
  | none => simp [hasLabel, label] at h
  | some text => exact ⟨text, rfl, by simpa [hasLabel, label] using h⟩

lemma key_ne_nil (h : e.hasLabel = true) : e.key ≠ [] := by
  obtain ⟨label, hl, blank⟩ := exists_label h
  have trimmed : Text.strip label.toList ≠ [] := Text.strip_ne_nil blank
  have lowered : Text.lower (Text.strip label.toList) ≠ [] := Text.lower_ne_nil trimmed
  simpa only [key, hl, Option.getD_some, Flow.choiceKey] using lowered

end Edge

lemma Intent.wanted_eq_choiceKey (s : String) : wanted s = Flow.choiceKey s :=
  Text.strip_lower s.toList

lemma Script.wanted_choiceName (h : e.hasLabel = true) :
    Intent.wanted (choiceName e m) = e.key := by
  obtain ⟨label, hl, blank⟩ := Edge.exists_label h
  have name : choiceName e m = Text.within Text.strip label := by simp [choiceName, hl, blank]
  have again : Flow.choiceKey (Text.within Text.strip label) = Flow.choiceKey label := by
    simp only [Flow.choiceKey, Text.within, String.toList_ofList, Text.strip_strip]
  rw [name, Intent.wanted_eq_choiceKey, again, Edge.key, hl, Option.getD_some]

namespace Flow

lemma told_apart_of_unviolated {branch : String} {seen : List (List Char)} {es : List Edge}
    (h : choiceViolations branch seen es = []) :
    (∀ e ∈ es, e.hasLabel = true ∧ e.key ∉ seen) ∧ (es.map Edge.key).Nodup := by
  induction es generalizing seen with
  | nil => simp
  | cons e rest ih =>
    cases label : e.label with
    | none => simp [choiceViolations, label] at h
    | some text =>
      have key : e.key = choiceKey text := by simp [Edge.key, label]
      simp only [choiceViolations, label] at h
      split_ifs at h with blank known
      obtain ⟨labeled, apart⟩ := ih h
      have labels : e.hasLabel = true := by simp [Edge.hasLabel, label, blank]
      have new : e.key ∉ rest.map Edge.key := by
        intro mem
        obtain ⟨f, hf, same⟩ := List.mem_map.mp mem
        exact (labeled f hf).2 (by simp [same, key])
      refine ⟨?_, List.nodup_cons.mpr ⟨new, apart⟩⟩
      intro f hf
      rcases List.mem_cons.mp hf with rfl | hf
      · exact ⟨labels, key ▸ known⟩
      · exact ⟨(labeled f hf).1, fun old => (labeled f hf).2 (by simp [old])⟩

lemma told_apart_of_sound (sound : g.isSound = true) (hn : n ∈ g.nodes)
    (kind : n.kind = .branch) :
    (∀ e ∈ g.outgoing n.id, e.hasLabel = true) ∧ ((g.outgoing n.id).map Edge.key).Nodup := by
  have branch := (sound_of_isSound sound).branch n hn
  rw [branchViolations, if_pos kind] at branch
  obtain ⟨labeled, apart⟩ := told_apart_of_unviolated branch
  exact ⟨fun e he => (labeled e he).1, apart⟩

/-- The step behind an edge is called what the choice of another edge is called. -/
def isNamesake (g : Flow) (e f : Edge) : Bool :=
  (g.node? f.target).any fun k => Intent.wanted k.label == e.key

lemma isNamesake_iff : g.isNamesake e f = true ↔
    ∃ k, g.node? f.target = some k ∧ Intent.wanted k.label = e.key := by
  simp only [isNamesake, Option.any_eq_true, beq_iff_eq]

lemma mem_selectors (hq : query ≠ []) : query ∈ g.selectors f ↔
    f.key = query ∨ ∃ k, g.node? f.target = some k ∧ Intent.wanted k.label = query := by
  have own : Intent.wanted (f.label.getD "") = f.key := Intent.wanted_eq_choiceKey _
  have filled : (!query.isEmpty) = true := by simpa using hq
  simp only [selectors, own, List.mem_filter, List.mem_pair, filled, and_true, eq_comm (a := query)]
  refine or_congr_right ?_
  cases g.node? f.target with
  | none =>
    have blank : Intent.wanted "" = [] := rfl
    simp only [Option.map_none, Option.getD_none, blank, hq.symm, reduceCtorEq, false_and,
      exists_false]
  | some k => simp only [Option.map_some, Option.getD_some, Option.some.injEq, exists_eq_left']

lemma mem_candidates {branch c : String} : c ∈ g.candidates branch ↔
    c.isEmpty = false ∧ ∃ e ∈ g.outgoing branch, g.choiceLabel e = c := by
  simp only [candidates, List.mem_filter, List.mem_map, Bool.not_eq_true', and_comm]

lemma matchEdge_of_candidate {branch c : String} (hc : c ∈ g.candidates branch)
    (words : Intent.wanted c ≠ []) : ∃ e, g.matchEdge branch c = some e := by
  obtain ⟨-, e, he, rfl⟩ := mem_candidates.mp hc
  have selected : Intent.wanted (g.choiceLabel e) ∈ g.selectors e := by
    refine (mem_selectors words).mpr ?_
    by_cases labeled : e.hasLabel = true
    · have own : g.choiceLabel e = e.label.getD "" := by simp only [choiceLabel, if_pos labeled]
      exact .inl (own ▸ (Intent.wanted_eq_choiceKey _).symm)
    · cases target : g.node? e.target with
      | none =>
        have nameless : g.choiceLabel e = "" := by
          simp only [choiceLabel, if_neg labeled, target]
        exact absurd (congrArg Intent.wanted nameless) words
      | some k =>
        have named : g.choiceLabel e = k.label := by
          simp only [choiceLabel, if_neg labeled, target]
        exact .inr ⟨k, rfl, by rw [named]⟩
  have found : ((g.outgoing branch).find? fun f =>
      (g.selectors f).contains (Intent.wanted (g.choiceLabel e))).isSome = true :=
    List.find?_isSome.mpr ⟨e, he, List.contains_iff_mem.mpr selected⟩
  obtain ⟨f, hf⟩ := Option.isSome_iff_exists.mp found
  refine ⟨f, ?_⟩
  simp only [matchEdge, List.isEmpty_iff, if_neg words, hf, Option.some_or]

lemma matchEdge_of_blank {branch intent : String} (blank : Intent.wanted intent = []) :
    g.matchEdge branch intent = none := by
  simp only [matchEdge, blank, List.isEmpty_nil, if_true]

lemma matchEdge_of_choice {branch c : String} (drawn : g.outgoing branch = before ++ e :: after)
    (labeled : e.hasLabel = true) (apart : ((g.outgoing branch).map Edge.key).Nodup)
    (named : Intent.wanted c = e.key) :
    g.matchEdge branch c = some ((before.find? (g.isNamesake e)).getD e) := by
  have words : e.key ≠ [] := Edge.key_ne_nil labeled
  have own : (g.selectors e).contains e.key = true :=
    List.contains_iff_mem.mpr ((mem_selectors words).mpr (.inl rfl))
  have others : ∀ f ∈ before, (g.selectors f).contains e.key = g.isNamesake e f := by
    intro f hf
    have differ : f.key ≠ e.key := by
      rw [drawn, List.map_append, List.map_cons] at apart
      have disjoint := List.nodup_append.mp apart
      exact disjoint.2.2 _ (List.mem_map_of_mem hf) _ List.mem_cons_self
    rw [Bool.eq_iff_iff, List.contains_iff_mem, mem_selectors words, isNamesake_iff]
    exact or_iff_right differ
  have first : (g.outgoing branch).find? (fun f => (g.selectors f).contains e.key) =
      some ((before.find? (g.isNamesake e)).getD e) := by
    have here : (e :: after).find? (fun f => (g.selectors f).contains e.key) = some e :=
      List.find?_cons_of_pos own
    rw [drawn, List.find?_append, here, List.find?_congr others]
    cases before.find? (g.isNamesake e) <;> rfl
  simp only [matchEdge, named, List.isEmpty_iff, if_neg words, first, Option.some_or]

end Flow

lemma Script.mem_details (kind : n.kind = .branch) {line : String} :
    line ∈ details g n ↔
      ∃ e ∈ g.outgoing n.id, ∃ m, g.node? e.target = some m ∧ choiceLine e m = line := by
  have branch : n.content = .branch := by
    cases content : n.content <;> simp_all [Node.kind, Content.kind]
  simp only [details, branch, List.mem_filterMap, Option.map_eq_some_iff]

namespace Flow

/-- Each choice of the script of a sound flow selects an edge: its own, unless the target of an edge
drawn earlier is called like the choice; then the first such edge. -/
theorem choice_selects_its_edge_iff (sound : g.isSound = true) (hn : n ∈ g.nodes)
    (kind : n.kind = .branch) :
    (∀ line ∈ Script.details g n, ∃ e ∈ g.outgoing n.id, ∃ m, g.node? e.target = some m ∧
      line = Script.choiceLine e m) ∧
    ∀ before e after m, g.outgoing n.id = before ++ e :: after → g.node? e.target = some m →
      Script.choiceLine e m ∈ Script.details g n ∧
      ∃ f, g.matchEdge n.id (Script.choiceName e m) = some f ∧
        (f.target = m.id ↔ ∀ k, before.find? (g.isNamesake e) = some k → k.target = m.id) := by
  refine ⟨?_, ?_⟩
  · intro line printed
    obtain ⟨e, he, m, target, rfl⟩ := (Script.mem_details kind).mp printed
    exact ⟨e, he, m, target, rfl⟩
  · intro before e after m drawn target
    have he : e ∈ g.outgoing n.id := by simp [drawn]
    obtain ⟨labeled, apart⟩ := told_apart_of_sound sound hn kind
    have selected := matchEdge_of_choice drawn (labeled e he) apart
      (Script.wanted_choiceName (m := m) (labeled e he))
    refine ⟨(Script.mem_details kind).mpr ⟨e, he, m, target, rfl⟩, _, selected, ?_⟩
    have there : e.target = m.id := (node?_id target).symm
    cases before.find? (g.isNamesake e) <;> simp [there]

theorem choice_of_initial_selects_its_edge :
    initial.isSound = true ∧ ∃ f, initial.matchEdge "branch-1" "Info" = some f ∧
      f.target = "message-2" := by
  have sound : initial.isSound = true := by decide +kernel
  have hn : step "branch-1" 400.0 440.0 "Route by Intent" .branch ∈ initial.nodes := by
    simp [initial]
  have drawn : initial.outgoing "branch-1" =
      [arrow "e4-5" "branch-1" "action-1" (some "Appointment")] ++
        arrow "e4-6" "branch-1" "message-2" (some "Info") ::
          [arrow "e4-7" "branch-1" "transfer-1" (some "Support")] := rfl
  have target : initial.node? "message-2" = some (step "message-2" 400.0 580.0 "Provide Info"
      (.message (some "Let me provide you with that information..."))) := rfl
  have apart : [arrow "e4-5" "branch-1" "action-1" (some "Appointment")].find?
      (initial.isNamesake (arrow "e4-6" "branch-1" "message-2" (some "Info"))) = none := by
    rw [List.find?_singleton, if_neg (by decide +kernel)]
  obtain ⟨-, f, selected, there⟩ :=
    (choice_selects_its_edge_iff sound hn rfl).2 _ _ _ _ drawn target
  refine ⟨sound, f, selected, there.mpr ?_⟩
  intro k hk
  rw [apart] at hk
  cases hk

def misleading : Flow where
  nodes := [
    step "start-1" 0.0 0.0 "Call Starts" .start,
    step "branch-1" 0.0 100.0 "Route by Intent" .branch,
    step "transfer-1" 0.0 200.0 "Billing" (.transfer none),
    step "transfer-2" 200.0 200.0 "Accounts" (.transfer none)]
  edges := [
    arrow "e1" "start-1" "branch-1" none,
    arrow "e2" "branch-1" "transfer-1" (some "Support"),
    arrow "e3" "branch-1" "transfer-2" (some "Billing")]

theorem choice_selects_edge_to_namesake :
    misleading.isSound = true ∧
      ∃ n ∈ misleading.nodes, n.kind = .branch ∧
        "   - If the detected choice is \"Billing\": proceed to \"Accounts\" [[NODE:transfer-2]]" ∈
          Script.details misleading n ∧
        (misleading.matchEdge n.id "Billing").map (·.target) = some "transfer-1" := by
  have hn : step "branch-1" 0.0 100.0 "Route by Intent" .branch ∈ misleading.nodes := by
    simp [misleading]
  exact ⟨by decide +kernel, _, hn, rfl, by decide +kernel, by decide +kernel⟩

end Flow

end Dialogue
