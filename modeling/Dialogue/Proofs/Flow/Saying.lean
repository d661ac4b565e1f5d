import Dialogue.Proofs.Flow.Choices

/-! What a caller has to say for a choice. The words of a label select it whatever their case and
the blanks around them, but for a label that has blanks around it itself: then an earlier choice that
overlaps with it is taken first. -/

namespace Dialogue

open Intent Text

variable {g : Flow} {n : Node} {e f : Edge} {branch utterance : String}
  {before after : List Edge}

namespace Edge

def text (e : Edge) : String := e.label.getD ""

lemma key_eq (e : Edge) : e.key = wanted e.text := (wanted_eq_choiceKey _).symm

lemma strip_key (e : Edge) : strip e.key = e.key := by rw [key_eq, wanted, strip_strip]

lemma key_of_equals (h : equals e.key f.text = true) : f.key = e.key := by
  rw [key_eq, wanted, beq_iff_eq.mp h, strip_key]

lemma equals_key (e : Edge) :
    equals e.key e.text = true ↔ strip e.text.toList = e.text.toList := by
  rw [strip_eq_self_iff_lower, ← strip_lower, equals, beq_iff_eq, key_eq, wanted, eq_comm]

def overlaps (e f : Edge) : Bool := contains e.key f.text

lemma overlaps_self (h : e.hasLabel = true) : e.overlaps e = true := by
  obtain ⟨label, hl, blank⟩ := exists_label h
  have filled : e.text.isEmpty = false := by
    rw [text, hl, Option.getD_some]
    by_contra empty
    obtain rfl : label = "" := by simpa using empty
    cases blank
  obtain ⟨front, back, split, -, -⟩ := exists_margins (lower e.text.toList)
  have occurs : occursIn e.key (lower e.text.toList) = true :=
    occursIn_iff.mpr ⟨front, back, by rwa [key_eq, wanted]⟩
  simp only [overlaps, contains, filled, overlap, occurs, Bool.or_true, Bool.not_false, Bool.and_self]

lemma text_ne_of_before (apart : ((before ++ e :: after).map Edge.key).Nodup) (hf : f ∈ before) :
    f.text ≠ e.text := by
  intro same
  rw [List.map_append, List.map_cons] at apart
  refine (List.nodup_append.mp apart).2.2 _ (List.mem_map_of_mem hf) _ List.mem_cons_self ?_
  rw [key_eq, same, ← key_eq]

end Edge

namespace Flow

lemma candidates_of_labeled (labeled : ∀ e ∈ g.outgoing branch, e.hasLabel = true) :
    g.candidates branch = (g.outgoing branch).map Edge.text := by
  have own : (g.outgoing branch).map g.choiceLabel = (g.outgoing branch).map Edge.text :=
    List.map_congr_left fun e he => if_pos (labeled e he)
  rw [candidates, own, List.filter_eq_self]
  intro c hc
  obtain ⟨e, he, rfl⟩ := List.mem_map.mp hc
  exact ((Bool.and_eq_true _ _).mp (Edge.overlaps_self (labeled e he))).1

end Flow

namespace Intent

lemma find?_equals_key (apart : ((before ++ e :: after).map Edge.key).Nodup) :
    ((before ++ e :: after).map Edge.text).find? (equals e.key) =
      if strip e.text.toList = e.text.toList then some e.text else none := by
  have other : ∀ f ∈ before ++ after, ¬ (equals e.key ∘ Edge.text) f = true := by
    intro f hf same
    rw [List.map_append, List.map_cons, List.nodup_middle] at apart
    refine (List.nodup_cons.mp apart).1 ?_
    rw [← List.map_append, ← Edge.key_of_equals same]
    exact List.mem_map_of_mem hf
  have earlier : before.find? (equals e.key ∘ Edge.text) = none :=
    List.find?_eq_none.mpr fun f hf => other f (List.mem_append_left _ hf)
  have later : after.find? (equals e.key ∘ Edge.text) = none :=
    List.find?_eq_none.mpr fun f hf => other f (List.mem_append_right _ hf)
  rw [List.find?_map, List.find?_append, earlier, Option.none_or, List.find?_cons, later]
  cases same : (equals e.key ∘ Edge.text) e with
  | true => rw [if_pos (e.equals_key.mp same), Option.map_some]
  | false =>
    have untrimmed : ¬ strip e.text.toList = e.text.toList := fun trimmed =>
      Bool.false_ne_true (same.symm.trans (e.equals_key.mpr trimmed))
    rw [if_neg untrimmed, Option.map_none]

lemma find?_contains_key (labeled : e.hasLabel = true) :
    ((before ++ e :: after).map Edge.text).find? (contains e.key) =
      some ((before.find? e.overlaps).getD e).text := by
  have own : e.overlaps e = true := Edge.overlaps_self labeled
  have first : (before ++ e :: after).find? e.overlaps = some ((before.find? e.overlaps).getD e) := by
    rw [List.find?_append, List.find?_cons_of_pos own]
    cases before.find? e.overlaps <;> rfl
  exact List.find?_map.trans (congrArg (Option.map Edge.text) first)

lemma bestMatch_of_said (labeled : e.hasLabel = true)
    (apart : ((before ++ e :: after).map Edge.key).Nodup) (said : wanted utterance = e.key) :
    bestMatch utterance ((before ++ e :: after).map Edge.text) =
      some (if strip e.text.toList = e.text.toList then e
        else (before.find? e.overlaps).getD e).text := by
  have filled : ¬ e.key.isEmpty = true := by simpa using Edge.key_ne_nil labeled
  rw [bestMatch, said]
  simp only [if_neg filled, rules, List.findSome?_cons, find?_equals_key apart,
    find?_contains_key labeled]
  split_ifs <;> rfl

end Intent

namespace Flow

/-- Whatever is said like the label of a choice matches a choice: this one, unless its label has
blanks around it and overlaps with the label of a choice drawn earlier. -/
theorem said_choice_is_matched_iff (sound : g.isSound = true) (hn : n ∈ g.nodes)
    (kind : n.kind = .branch) (drawn : g.outgoing n.id = before ++ e :: after) :
    ∃ label, e.label = some label ∧ ∀ utterance, wanted utterance = wanted label →
      (∃ c ∈ g.candidates n.id, bestMatch utterance (g.candidates n.id) = some c) ∧
      (bestMatch utterance (g.candidates n.id) = some label ↔
        strip label.toList = label.toList ∨ ∀ f ∈ before, e.overlaps f = false) := by
  obtain ⟨labeled, apart⟩ := told_apart_of_sound sound hn kind
  have own : e.hasLabel = true := labeled e (by simp [drawn])
  obtain ⟨label, hl, -⟩ := Edge.exists_label own
  obtain rfl : e.text = label := by rw [Edge.text, hl, Option.getD_some]
  refine ⟨e.text, hl, fun utterance said => ?_⟩
  rw [drawn] at apart
  have matched := bestMatch_of_said own apart (said.trans e.key_eq.symm)
  rw [← drawn, ← candidates_of_labeled labeled] at matched
  refine ⟨⟨_, bestMatch_mem matched, matched⟩, ?_⟩
  rw [matched, Option.some_inj]
  by_cases trimmed : strip e.text.toList = e.text.toList
  · exact iff_of_true (by rw [if_pos trimmed]) (.inl trimmed)
  · rw [if_neg trimmed, or_iff_right trimmed]
    cases first : before.find? e.overlaps with
    | none => simpa using List.find?_eq_none.mp first
    | some f =>
      have hf : f ∈ before := List.mem_of_find?_eq_some first
      have blocked : ¬ ∀ k ∈ before, e.overlaps k = false := fun clear =>
        Bool.false_ne_true ((clear f hf).symm.trans (List.find?_some first))
      exact iff_of_false (Edge.text_ne_of_before apart hf) blocked

theorem initial_choice_is_matched : initial.isSound = true ∧
    wanted "  INFO " = wanted "Info" ∧
      bestMatch "  INFO " (initial.candidates "branch-1") = some "Info" := by
  have sound : initial.isSound = true := by decide +kernel
  have hn : step "branch-1" 400.0 440.0 "Route by Intent" .branch ∈ initial.nodes := by
    simp [initial]
  have drawn : initial.outgoing "branch-1" =
      [arrow "e4-5" "branch-1" "action-1" (some "Appointment")] ++
        arrow "e4-6" "branch-1" "message-2" (some "Info") ::
          [arrow "e4-7" "branch-1" "transfer-1" (some "Support")] := rfl
  have said : wanted "  INFO " = wanted "Info" := by decide +kernel
  obtain ⟨label, hl, matched⟩ := said_choice_is_matched_iff sound hn rfl drawn
  obtain rfl : "Info" = label := Option.some.inj hl
  exact ⟨sound, said, (matched _ said).2.mpr (.inl (by decide +kernel))⟩

def padded : Flow where
  nodes := [
    step "start-1" 0.0 0.0 "Call Starts" .start,
    step "branch-1" 0.0 100.0 "Route by Intent" .branch,
    step "transfer-1" 0.0 200.0 "Sales" (.transfer none),
    step "transfer-2" 200.0 200.0 "Accounts" (.transfer none)]
  edges := [
    arrow "e1" "start-1" "branch-1" none,
    arrow "e2" "branch-1" "transfer-1" (some "Billing Questions"),
    arrow "e3" "branch-1" "transfer-2" (some " Billing ")]

theorem padded_choice_is_not_matched :
    padded.isSound = true ∧ ∃ n ∈ padded.nodes, n.kind = .branch ∧
      ∃ e ∈ padded.outgoing n.id, e.label = some " Billing " ∧
        wanted "billing" = wanted " Billing " ∧
        bestMatch "billing" (padded.candidates n.id) = some "Billing Questions" := by
  have hn : step "branch-1" 0.0 100.0 "Route by Intent" .branch ∈ padded.nodes := by
    simp [padded]
  have he : arrow "e3" "branch-1" "transfer-2" (some " Billing ") ∈ padded.outgoing "branch-1" := by
    simp [padded, outgoing, arrow]
  exact ⟨by decide +kernel, _, hn, rfl, _, he, rfl, by decide +kernel, by decide +kernel⟩

end Flow

end Dialogue
