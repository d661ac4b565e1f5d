import Dialogue.Flow.Template
import Dialogue.Script
import Dialogue.Proofs.Flow.Soundness

/-! The steps that have a line in a script: those to which it leads on from the start, each once. -/

namespace Dialogue.Script

open Relation

variable {g : Flow} {n : Node} {a b id : String} {seen stack : List String}

/-- Where a script leads on: from a branch along every edge, from an ending along none, and from any
other step along the edge drawn first. -/
inductive Follows (g : Flow) (a b : String) : Prop
  | choice {n : Node} : g.node? a = some n → n.kind = .branch → g.Leads a b → Follows g a b
  | onward {n : Node} : g.node? a = some n → n.kind ≠ .branch → n.kind ≠ .ending →
      g.next? a = some b → Follows g a b

def Followed (g : Flow) (id : String) : Prop :=
  ∃ start, g.start? = some start ∧ ReflTransGen (Follows g) start.id id

lemma mem_follow (hn : g.node? a = some n) : b ∈ follow g n ↔ Follows g a b := by
  obtain rfl := Flow.node?_id hn
  constructor
  · intro h
    unfold follow at h
    split at h
    · simp at h
    · next kind => exact .choice hn kind (Flow.mem_successors.mp h)
    · next other branch => exact .onward hn branch other (by simpa using h)
  · rintro (⟨hm, kind, lead⟩ | ⟨hm, branch, other, next⟩)
    · obtain rfl := Option.some.inj (hm.symm.trans hn)
      simpa [follow, kind] using Flow.mem_successors.mpr lead
    · obtain rfl := Option.some.inj (hm.symm.trans hn)
      unfold follow
      split
      · contradiction
      · contradiction
      · simp [next]

lemma follows_of_next (hn : g.node? a = some n) (other : n.kind ≠ .ending)
    (next : g.next? a = some b) : Follows g a b := by
  by_cases branch : n.kind = .branch
  · exact .choice hn branch (Flow.leads_of_next next)
  · exact .onward hn branch other next

lemma Follows.exists_node (h : Follows g a b) : ∃ n, g.node? a = some n := by
  cases h with
  | choice hn | onward hn => exact ⟨_, hn⟩

lemma Follows.leads (h : Follows g a b) : g.Leads a b := by
  cases h with
  | choice _ _ lead => exact lead
  | onward _ _ _ next => exact Flow.leads_of_next next

lemma mem_walk (h : n ∈ walk g seen stack) : g.node? n.id = some n ∧ n.id ∉ seen ∧
    ∃ a ∈ stack, ReflTransGen (Follows g) a n.id := by
  fun_induction walk g seen stack with
  | case1 => simp at h
  | case2 seen id stack known ih =>
    obtain ⟨hn, new, a, ha, path⟩ := ih h
    exact ⟨hn, new, a, by simp [ha], path⟩
  | case3 seen id stack new missing ih =>
    obtain ⟨hn, fresh, a, ha, path⟩ := ih h
    exact ⟨hn, fun old => fresh (by simp [old]), a, by simp [ha], path⟩
  | case4 seen id stack new m hm ih =>
    rcases List.mem_cons.mp h with rfl | h
    · obtain rfl := Flow.node?_id hm
      exact ⟨hm, new, n.id, by simp, .refl⟩
    · obtain ⟨hn, fresh, a, ha, path⟩ := ih h
      refine ⟨hn, fun old => fresh (by simp [old]), ?_⟩
      rcases List.mem_append.mp ha with ha | ha
      · exact ⟨id, by simp, path.head ((mem_follow hm).mp ha)⟩
      · exact ⟨a, by simp [ha], path⟩

lemma nodup_walk (g : Flow) (seen stack : List String) :
    ((walk g seen stack).map (·.id)).Nodup := by
  fun_induction walk g seen stack with
  | case1 => simp
  | case2 _ _ _ _ ih => exact ih
  | case3 _ _ _ _ _ ih => exact ih
  | case4 seen id stack new m hm ih =>
    refine List.nodup_cons.mpr ⟨?_, ih⟩
    intro again
    obtain ⟨k, hk, same⟩ := List.mem_map.mp again
    exact (mem_walk hk).2.1 (by simp [same, Flow.node?_id hm])

def Settled (g : Flow) (seen stack : List String) (id : String) : Prop :=
  id ∈ seen ∨ id ∈ (walk g seen stack).map (·.id) ∨ g.node? id = none

lemma settled_seen (h : id ∈ seen) :
    Settled g seen (id :: stack) a ↔ Settled g seen stack a := by
  simp only [Settled, walk_seen h]

lemma settled_missing (h : id ∉ seen) (hn : g.node? id = none) :
    Settled g seen (id :: stack) a ↔ Settled g (id :: seen) stack a := by
  simp only [Settled, walk_missing h hn, List.mem_cons]
  constructor
  · rintro (old | met | missing)
    · exact .inl (.inr old)
    · exact .inr (.inl met)
    · exact .inr (.inr missing)
  · rintro ((rfl | old) | met | missing)
    · exact .inr (.inr hn)
    · exact .inl old
    · exact .inr (.inl met)
    · exact .inr (.inr missing)

lemma settled_found (h : id ∉ seen) (hn : g.node? id = some n) :
    Settled g seen (id :: stack) a ↔ Settled g (id :: seen) (follow g n ++ stack) a := by
  simp only [Settled, walk_found h hn, List.map_cons, List.mem_cons, Flow.node?_id hn]
  tauto

lemma settled_of_stacked (h : a ∈ stack) : Settled g seen stack a := by
  fun_induction walk g seen stack with
  | case1 => simp at h
  | case2 seen id stack known ih =>
    rw [settled_seen known]
    rcases List.mem_cons.mp h with rfl | h
    · exact .inl known
    · exact ih h
  | case3 seen id stack new missing ih =>
    rw [settled_missing new missing]
    rcases List.mem_cons.mp h with rfl | h
    · exact .inl List.mem_cons_self
    · exact ih h
  | case4 seen id stack new n hn ih =>
    rw [settled_found new hn]
    rcases List.mem_cons.mp h with rfl | h
    · exact .inl List.mem_cons_self
    · exact ih (List.mem_append_right _ h)

lemma Settled.onward (closed : ∀ a ∈ seen, ∀ b, Follows g a b → Settled g seen stack b)
    (h : Settled g seen stack a) (hb : Follows g a b) : Settled g seen stack b := by
  -- What lies behind the ids already seen is settled, as they leave it on the stack.
  fun_induction walk g seen stack with
  | case1 seen =>
    rcases h with old | met | missing
    · exact closed a old b hb
    · simp [walk] at met
    · obtain ⟨n, hn⟩ := hb.exists_node
      simp [hn] at missing
  | case2 seen id stack known ih =>
    simp only [settled_seen known] at closed h ⊢
    exact ih closed h
  | case3 seen id stack new missing ih =>
    simp only [settled_missing new missing] at closed h ⊢
    refine ih (fun x hx y hy => ?_) h
    rcases List.mem_cons.mp hx with rfl | hx
    · obtain ⟨n, hn⟩ := hy.exists_node
      simp [hn] at missing
    · exact closed x hx y hy
  | case4 seen id stack new n hn ih =>
    simp only [settled_found new hn] at closed h ⊢
    refine ih (fun x hx y hy => ?_) h
    rcases List.mem_cons.mp hx with rfl | hx
    · exact settled_of_stacked (List.mem_append_left _ ((mem_follow hn).mpr hy))
    · exact closed x hx y hy

def stepIds (g : Flow) : List String := (steps g).map (·.id)

lemma nodup_stepIds (g : Flow) : (stepIds g).Nodup := by
  unfold stepIds steps
  split
  · exact nodup_walk g _ _
  · simp

lemma node?_of_mem_steps (h : n ∈ steps g) : g.node? n.id = some n := by
  unfold steps at h
  split at h
  · exact (mem_walk h).1
  · simp at h

lemma mem_stepIds : id ∈ stepIds g ↔ Followed g id ∧ ∃ n, g.node? id = some n := by
  cases hs : g.start? with
  | none => simp [stepIds, steps, Followed, hs]
  | some start =>
    have split : stepIds g = (walk g [] [start.id]).map (·.id) := by simp [stepIds, steps, hs]
    rw [split]
    constructor
    · intro h
      obtain ⟨n, hn, rfl⟩ := List.mem_map.mp h
      obtain ⟨node, -, a, ha, path⟩ := mem_walk hn
      obtain rfl := List.mem_singleton.mp ha
      exact ⟨⟨start, hs, path⟩, n, node⟩
    · rintro ⟨⟨start', hs', path⟩, n, hn⟩
      obtain rfl := Option.some.inj (hs'.symm.trans hs)
      have reached : Settled g [] [start'.id] id := by
        clear hn
        induction path with
        | refl => exact settled_of_stacked List.mem_cons_self
        | tail _ hb ih => exact ih.onward (by simp) hb
      rcases reached with old | met | missing
      · simp at old
      · exact met
      · simp [hn] at missing

def linesOf (g : Flow) (id : String) : List String :=
  ((steps g).zipIdx.filter (·.1.id = id)).map fun p => stepLine (p.2 + 1) p.1

lemma sublist_flatMap {α β : Type} (p : α → Bool) (first : α → β) (others : α → List β)
    (xs : List α) : ((xs.filter p).map first).Sublist (xs.flatMap fun x => first x :: others x) := by
  induction xs with
  | nil => simp
  | cons x rest ih =>
    rw [List.flatMap_cons, List.filter_cons]
    split
    · exact (ih.trans (List.sublist_append_right _ _)).cons_cons _
    · exact ih.trans (List.sublist_append_right _ _)

lemma linesOf_sublist (g : Flow) (id : String) : (linesOf g id).Sublist (lines g) :=
  sublist_flatMap _ _ (fun p : Node × Nat => details g p.1) (steps g).zipIdx

lemma filter_zipIdx_eq_nil {ns : List Node} {k : Nat} (h : ∀ n ∈ ns, n.id ≠ id) :
    (ns.zipIdx k).filter (·.1.id = id) = [] := by
  refine List.filter_eq_nil_iff.mpr fun p hp => ?_
  simpa using h p.1 (List.fst_mem_of_mem_zipIdx hp)

lemma linesOf_of_mem (h : n ∈ steps g) : ∃ number, linesOf g n.id = [stepLine number n] := by
  obtain ⟨before, after, split⟩ := List.append_of_mem h
  have apart := nodup_stepIds g
  rw [stepIds, split, List.map_append, List.map_cons, List.nodup_middle, List.nodup_cons] at apart
  have others : ∀ m ∈ before ++ after, m.id ≠ n.id := by
    intro m hm same
    exact apart.1 (by rw [← List.map_append, ← same]; exact List.mem_map_of_mem hm)
  refine ⟨before.length + 1, ?_⟩
  rw [linesOf, split, List.zipIdx_append, List.zipIdx_cons, List.filter_append,
    List.filter_cons_of_pos (by simp),
    filter_zipIdx_eq_nil fun m hm => others m (List.mem_append_left _ hm),
    filter_zipIdx_eq_nil fun m hm => others m (List.mem_append_right _ hm)]
  simp

lemma linesOf_eq_nil : linesOf g id = [] ↔ id ∉ stepIds g := by
  constructor
  · intro none mem
    obtain ⟨n, hn, rfl⟩ := List.mem_map.mp mem
    obtain ⟨number, line⟩ := linesOf_of_mem hn
    simp [line] at none
  · intro away
    have others : ∀ n ∈ steps g, n.id ≠ id :=
      fun n hn same => away (List.mem_map.mpr ⟨n, hn, same⟩)
    rw [linesOf, filter_zipIdx_eq_nil others, List.map_nil]

lemma start_mem_stepIds (h : g.start? = some n) : n.id ∈ stepIds g :=
  mem_stepIds.mpr ⟨⟨n, h, .refl⟩, Flow.exists_node_of_start h⟩

lemma Follows.mem_stepIds (h : Follows g a b) (sound : g.Sound) (ha : a ∈ stepIds g) :
    b ∈ stepIds g := by
  obtain ⟨⟨start, hs, path⟩, -⟩ := Script.mem_stepIds.mp ha
  exact Script.mem_stepIds.mpr ⟨⟨start, hs, path.tail h⟩, sound.exists_node h.leads⟩

lemma sound_of_publish {prompt : String} (h : publish g = .ok prompt) : g.Sound ∧
    prompt = "\n".intercalate (preamble ++ lines g ++ [""] ++ closingRules) := by
  unfold publish at h
  split at h
  · next accepted =>
    obtain rfl := Except.ok.inj h
    have sound := Flow.sound_of_isSound accepted
    obtain ⟨start, hs⟩ := sound.start
    exact ⟨sound, by simp [compile, hs]⟩
  · cases h

/-- A published script has one line for each step to which it leads on from the start, and none for
any other. -/
theorem followed_steps_have_one_line {prompt : String} (published : publish g = .ok prompt) :
    prompt = "\n".intercalate (preamble ++ lines g ++ [""] ++ closingRules) ∧
    ∀ n ∈ g.nodes, (linesOf g n.id).Sublist (lines g) ∧
      (Followed g n.id → ∃ number, linesOf g n.id = [stepLine number n]) ∧
      (¬ Followed g n.id → linesOf g n.id = []) := by
  obtain ⟨sound, text⟩ := sound_of_publish published
  refine ⟨text, fun n hn => ?_⟩
  have node := sound.node?_of_mem hn
  refine ⟨linesOf_sublist g n.id, ?_, ?_⟩
  · intro followed
    obtain ⟨m, hm, same⟩ := List.mem_map.mp (mem_stepIds.mpr ⟨followed, n, node⟩)
    have found : g.node? n.id = some m := same ▸ node?_of_mem_steps hm
    obtain rfl := Option.some.inj (found.symm.trans node)
    exact linesOf_of_mem hm
  · intro away
    exact linesOf_eq_nil.mpr fun mem => away (mem_stepIds.mp mem).1

theorem routed_message_has_one_line :
    (∃ prompt, publish Flow.initial = .ok prompt) ∧ Followed Flow.initial "message-2" ∧
      ∃ n ∈ Flow.initial.nodes, n.id = "message-2" ∧
        ∃ number, linesOf Flow.initial n.id = [stepLine number n] := by
  have sound : Flow.initial.isSound = true := by decide +kernel
  have published : publish Flow.initial = .ok (compile Flow.initial) := if_pos sound
  have greets : Follows Flow.initial "start-1" "message-1" := .onward rfl (by decide) (by decide) rfl
  have asks : Follows Flow.initial "message-1" "listen-1" := .onward rfl (by decide) (by decide) rfl
  have hears : Follows Flow.initial "listen-1" "branch-1" := .onward rfl (by decide) (by decide) rfl
  have routes : Follows Flow.initial "branch-1" "message-2" :=
    .choice rfl rfl (Flow.mem_successors.mp (by decide))
  have followed : Followed Flow.initial "message-2" :=
    ⟨_, rfl, .tail (.tail (.tail (.single greets) asks) hears) routes⟩
  have node : Flow.initial.node? "message-2" = some (Flow.step "message-2" 400.0 580.0
      "Provide Info" (.message (some "Let me provide you with that information..."))) := rfl
  refine ⟨⟨_, published⟩, followed, _, Flow.node?_mem node, rfl, ?_⟩
  exact ((followed_steps_have_one_line published).2 _ (Flow.node?_mem node)).2.1 followed

def sidetracked : Flow where
  nodes := [
    Flow.step "start-1" 0.0 0.0 "Call Starts" .start,
    Flow.step "end-1" 0.0 100.0 "End Call" (.ending none none),
    Flow.step "message-1" 200.0 100.0 "Greeting" (.message none),
    Flow.step "message-2" 0.0 200.0 "Survey" (.message none)]
  edges := [
    Flow.arrow "e1" "start-1" "end-1" none,
    Flow.arrow "e2" "start-1" "message-1" none,
    Flow.arrow "e3" "end-1" "message-2" none,
    Flow.arrow "e4" "message-1" "end-1" none,
    Flow.arrow "e5" "message-2" "end-1" none]

lemma stepIds_sidetracked : stepIds sidetracked = ["start-1", "end-1"] := by
  have start : sidetracked.node? "start-1" =
      some (Flow.step "start-1" 0.0 0.0 "Call Starts" .start) := rfl
  have ending : sidetracked.node? "end-1" =
      some (Flow.step "end-1" 0.0 100.0 "End Call" (.ending none none)) := rfl
  change (walk sidetracked [] ["start-1"]).map (·.id) = _
  rw [walk_found (by simp) start, show follow _ _ ++ [] = ["end-1"] from rfl,
    walk_found (by decide) ending, show follow _ _ ++ [] = [] from rfl, walk]
  rfl

lemma linesOf_sidetracked (h : id ∉ ["start-1", "end-1"]) : linesOf sidetracked id = [] :=
  linesOf_eq_nil.mpr (stepIds_sidetracked ▸ h)

theorem side_tracks_have_no_line :
    (∃ prompt, publish sidetracked = .ok prompt) ∧
      sidetracked.Reaches "message-1" ∧ linesOf sidetracked "message-1" = [] ∧
      sidetracked.Reaches "message-2" ∧ linesOf sidetracked "message-2" = [] := by
  have sound : sidetracked.isSound = true := by decide +kernel
  have start : sidetracked.Reaches "start-1" := ⟨_, rfl, .refl⟩
  have beside : sidetracked.Reaches "message-1" := start.tail ⟨_, .tail _ (.head _), rfl, rfl⟩
  have beyond : sidetracked.Reaches "message-2" :=
    (start.tail ⟨_, .head _, rfl, rfl⟩).tail ⟨_, .tail _ (.tail _ (.head _)), rfl, rfl⟩
  exact ⟨⟨_, if_pos sound⟩, beside, linesOf_sidetracked (by decide), beyond,
    linesOf_sidetracked (by decide)⟩

end Dialogue.Script
