import Dialogue.Proofs.Flow.Choices

/-! Exactness of the check of a flow. A breach is a rule together with the place of the flow where it
is broken; a flow passes the check if and only if it is well formed, and else it is told each of its
breaches once. -/

namespace Dialogue

section Places

variable {α β κ : Type}

lemma nodup_flatMap_of_marks {xs : List α} {f : α → List β} (key : α → κ) (mark : β → κ)
    (keys : (xs.map key).Nodup) (each : ∀ x ∈ xs, (f x).Nodup)
    (marks : ∀ x ∈ xs, ∀ b ∈ f x, mark b = key x) : (xs.flatMap f).Nodup := by
  refine List.nodup_flatMap.mpr ⟨each, ?_⟩
  refine (List.pairwise_map.mp keys).imp_of_mem fun {x y} hx hy differ b hbx hby => differ ?_
  rw [← marks x hx b hbx, ← marks y hy b hby]

lemma nodup_places (xs : List α) : (xs.zipIdx.map Prod.snd).Nodup := by
  rw [List.zipIdx_map_snd]
  exact List.nodup_range'

lemma nodup_map_iff {xs : List α} {key : α → κ} : (xs.map key).Nodup ↔
    ∀ i x, xs[i]? = some x → ∀ y ∈ xs.take i, key y ≠ key x := by
  rw [List.Nodup, List.pairwise_map, List.pairwise_iff_getElem]
  refine ⟨fun apart i x hx y hy => ?_, fun apart i j hi hj before => ?_⟩
  · obtain ⟨hi, rfl⟩ := List.getElem?_eq_some_iff.mp hx
    obtain ⟨j, hj, rfl⟩ := List.mem_take_iff_getElem.mp hy
    exact apart j i (by omega) hi (by omega)
  · exact apart j _ (List.getElem?_eq_getElem hj) _
      (List.mem_take_iff_getElem.mpr ⟨i, by omega, rfl⟩)

lemma flatMap_zipIdx (f : α → List β) (xs : List α) :
    xs.zipIdx.flatMap (fun p => f p.1) = xs.flatMap f := by
  rw [← List.flatMap_map, List.zipIdx_map_fst]

lemma repeated_eq_flatMap [DecidableEq α] (before seen : List α)
    (same : ∀ y, y ∈ seen ↔ y ∈ before) (xs : List α) :
    repeated seen xs = (xs.zipIdx before.length).flatMap fun p =>
      if p.1 ∈ (before ++ xs).take p.2 then [p.1] else [] := by
  induction xs generalizing before seen with
  | nil => rfl
  | cons x rest ih =>
    have onward : before ++ x :: rest = (before ++ [x]) ++ rest := by simp
    have first : (before ++ x :: rest).take before.length = before := by simp
    have next : before.length + 1 = (before ++ [x]).length := by simp
    rw [repeated, List.zipIdx_cons, List.flatMap_cons, first, onward, next]
    simp only [same]
    split_ifs with known
    · rw [← ih (before ++ [x]) seen]
      · rfl
      · intro y
        rw [same, List.mem_append, List.mem_singleton]
        exact (or_iff_left_of_imp fun e => e ▸ known).symm
    · rw [← ih (before ++ [x]) (x :: seen)]
      · rfl
      · intro y
        rw [List.mem_cons, same, List.mem_append, List.mem_singleton, or_comm]

end Places

/-- A broken rule and the place where it is broken: a step or an edge with its position, and at a
branch also an edge drawn from it with its position among those. -/
inductive Breach where
  | noStart
  | severalStarts (starts : List Node)
  | noTerminal
  | repeatedId (i : Nat) (n : Node)
  | unknownSource (i : Nat) (e : Edge)
  | unknownTarget (i : Nat) (e : Edge)
  | noIncoming (i : Nat) (n : Node)
  | noOutgoing (i : Nat) (n : Node)
  | unlabeledChoice (i : Nat) (n : Node) (j : Nat) (e : Edge)
  | repeatedChoice (i : Nat) (n : Node) (j : Nat) (e : Edge)

namespace Breach

def violation : Breach → Violation
  | noStart => .noStart
  | severalStarts starts => .severalStarts (starts.map (·.displayName))
  | noTerminal => .noTerminal
  | repeatedId _ n => .repeatedId n.id
  | unknownSource _ e => .unknownSource e.id e.source
  | unknownTarget _ e => .unknownTarget e.id e.target
  | noIncoming _ n => .noIncoming n.displayName
  | noOutgoing _ n => .noOutgoing n.displayName
  | unlabeledChoice _ n _ _ => .unlabeledChoice n.displayName
  | repeatedChoice _ n _ e => .repeatedChoice n.displayName (e.label.getD "")

inductive Part where
  | starts
  | terminals
  | ids
  | ends
  | connections
  | choices

def Part.all : List Part := [starts, terminals, ids, ends, connections, choices]

def part : Breach → Part
  | noStart | severalStarts _ => .starts
  | noTerminal => .terminals
  | repeatedId _ _ => .ids
  | unknownSource _ _ | unknownTarget _ _ => .ends
  | noIncoming _ _ | noOutgoing _ _ => .connections
  | unlabeledChoice _ _ _ _ | repeatedChoice _ _ _ _ => .choices

def place : Breach → Nat
  | noStart | severalStarts _ | noTerminal => 0
  | repeatedId i _ | unknownSource i _ | unknownTarget i _ | noIncoming i _ | noOutgoing i _
  | unlabeledChoice i _ _ _ | repeatedChoice i _ _ _ => i

def choice : Breach → Nat
  | unlabeledChoice _ _ j _ | repeatedChoice _ _ j _ => j
  | _ => 0

end Breach

variable {g : Flow} {b : Breach} {n : Node} {e : Edge} {i : Nat}

namespace Flow

def Breaks (g : Flow) : Breach → Prop
  | .noStart => ∀ n ∈ g.nodes, n.kind ≠ .start
  | .severalStarts starts => starts = g.nodesOfKind .start ∧ 2 ≤ starts.length
  | .noTerminal => ∀ n ∈ g.nodes, n.kind ≠ .ending ∧ n.kind ≠ .transfer
  | .repeatedId i n => g.nodes[i]? = some n ∧ ∃ m ∈ g.nodes.take i, m.id = n.id
  | .unknownSource i e => g.edges[i]? = some e ∧ ∀ n ∈ g.nodes, n.id ≠ e.source
  | .unknownTarget i e => g.edges[i]? = some e ∧ ∀ n ∈ g.nodes, n.id ≠ e.target
  | .noIncoming i n => g.nodes[i]? = some n ∧ n.kind ≠ .start ∧ ∀ e ∈ g.edges, e.target ≠ n.id
  | .noOutgoing i n => g.nodes[i]? = some n ∧ (n.kind ≠ .ending ∧ n.kind ≠ .transfer) ∧
      ∀ e ∈ g.edges, e.source ≠ n.id
  | .unlabeledChoice i n j e => g.nodes[i]? = some n ∧ n.kind = .branch ∧
      (g.outgoing n.id)[j]? = some e ∧ e.hasLabel = false
  | .repeatedChoice i n j e => g.nodes[i]? = some n ∧ n.kind = .branch ∧
      (g.outgoing n.id)[j]? = some e ∧ e.hasLabel = true ∧
      ∃ f ∈ (g.outgoing n.id).take j, f.hasLabel = true ∧ f.key = e.key

structure WellFormed (g : Flow) : Prop where
  start : g.nodes.countP (·.kind = .start) = 1
  terminal : ∃ n ∈ g.nodes, n.kind = .ending ∨ n.kind = .transfer
  ids : (g.nodes.map (·.id)).Nodup
  source : ∀ e ∈ g.edges, ∃ n ∈ g.nodes, n.id = e.source
  target : ∀ e ∈ g.edges, ∃ n ∈ g.nodes, n.id = e.target
  incoming : ∀ n ∈ g.nodes, n.kind ≠ .start → ∃ e ∈ g.edges, e.target = n.id
  outgoing : ∀ n ∈ g.nodes, n.kind ≠ .ending ∧ n.kind ≠ .transfer → ∃ e ∈ g.edges, e.source = n.id
  labels : ∀ n ∈ g.nodes, n.kind = .branch → ∀ e ∈ g.outgoing n.id, e.hasLabel = true
  keys : ∀ n ∈ g.nodes, n.kind = .branch → ((g.outgoing n.id).map Edge.key).Nodup

/-! The breaches, in the order in which they are told. -/

def startBreaches (g : Flow) : List Breach :=
  match g.nodesOfKind .start with
  | [] => [.noStart]
  | [_] => []
  | starts => [.severalStarts starts]

def terminalBreaches (g : Flow) : List Breach :=
  if g.nodes.any (·.isTerminal) then [] else [.noTerminal]

def idBreaches (g : Flow) (p : Node × Nat) : List Breach :=
  if p.1.id ∈ g.ids.take p.2 then [.repeatedId p.2 p.1] else []

def edgeBreaches (g : Flow) (p : Edge × Nat) : List Breach :=
  (if p.1.source ∈ g.ids then [] else [.unknownSource p.2 p.1]) ++
    (if p.1.target ∈ g.ids then [] else [.unknownTarget p.2 p.1])

def nodeBreaches (g : Flow) (p : Node × Nat) : List Breach :=
  (if p.1.kind ≠ .start ∧ p.1.id ∉ g.edges.map (·.target) then [.noIncoming p.2 p.1] else []) ++
    (if ¬ p.1.isTerminal ∧ p.1.id ∉ g.edges.map (·.source) then [.noOutgoing p.2 p.1] else [])

def keys (es : List Edge) : List (List Char) := (es.filter (·.hasLabel)).map Edge.key

def choiceBreaches (p : Node × Nat) (before : List Edge) (q : Edge × Nat) : List Breach :=
  if q.1.hasLabel then if (keys before).contains q.1.key then [.repeatedChoice p.2 p.1 q.2 q.1] else []
  else [.unlabeledChoice p.2 p.1 q.2 q.1]

def branchBreaches (g : Flow) (p : Node × Nat) : List Breach :=
  if p.1.kind = .branch then
    (g.outgoing p.1.id).zipIdx.flatMap fun q =>
      choiceBreaches p ((g.outgoing p.1.id).take q.2) q
  else []

def breachesOf (g : Flow) : Breach.Part → List Breach
  | .starts => g.startBreaches
  | .terminals => g.terminalBreaches
  | .ids => g.nodes.zipIdx.flatMap g.idBreaches
  | .ends => g.edges.zipIdx.flatMap g.edgeBreaches
  | .connections => g.nodes.zipIdx.flatMap g.nodeBreaches
  | .choices => g.nodes.zipIdx.flatMap g.branchBreaches

def breaches (g : Flow) : List Breach := Breach.Part.all.flatMap g.breachesOf

lemma keys_snoc_of_labeled (labeled : e.hasLabel = true) (before : List Edge) :
    keys (before ++ [e]) = keys before ++ [e.key] := by
  simp [keys, labeled]

lemma keys_snoc_of_unlabeled (unlabeled : e.hasLabel = false) (before : List Edge) :
    keys (before ++ [e]) = keys before := by
  simp [keys, unlabeled]

lemma choiceViolations_cons_of_labeled (labeled : e.hasLabel = true) (branch : String)
    (seen : List (List Char)) (rest : List Edge) :
    choiceViolations branch seen (e :: rest) =
      if e.key ∈ seen then
        .repeatedChoice branch (e.label.getD "") :: choiceViolations branch seen rest
      else choiceViolations branch (e.key :: seen) rest := by
  obtain ⟨label, hl, blank⟩ := Edge.exists_label labeled
  simp [choiceViolations, hl, blank, Edge.key]

lemma choiceViolations_cons_of_unlabeled (unlabeled : e.hasLabel = false) (branch : String)
    (seen : List (List Char)) (rest : List Edge) :
    choiceViolations branch seen (e :: rest) =
      .unlabeledChoice branch :: choiceViolations branch seen rest := by
  cases hl : e.label with
  | none => simp [choiceViolations, hl]
  | some label =>
    have blank : Text.isBlankText label = true := by simpa [Edge.hasLabel, hl] using unlabeled
    simp [choiceViolations, hl, blank]

lemma choiceViolations_eq_map (p : Node × Nat) (before : List Edge) (seen : List (List Char))
    (same : ∀ key, key ∈ seen ↔ key ∈ keys before) (es : List Edge) :
    choiceViolations p.1.displayName seen es = ((es.zipIdx before.length).flatMap fun q =>
      choiceBreaches p ((before ++ es).take q.2) q).map Breach.violation := by
  induction es generalizing before seen with
  | nil => rfl
  | cons e rest ih =>
    have onward : before ++ e :: rest = (before ++ [e]) ++ rest := by simp
    have first : (before ++ e :: rest).take before.length = before := by simp
    have next : before.length + 1 = (before ++ [e]).length := by simp
    rw [List.zipIdx_cons, List.flatMap_cons, first, List.map_append, onward, next]
    cases labeled : e.hasLabel with
    | true =>
      rw [choiceViolations_cons_of_labeled labeled]
      simp only [same]
      split_ifs with known
      · rw [← ih (before ++ [e]) seen]
        · simp [choiceBreaches, labeled, known, Breach.violation]
        · intro key
          rw [same, keys_snoc_of_labeled labeled, List.mem_append, List.mem_singleton]
          exact (or_iff_left_of_imp fun e => e ▸ known).symm
      · rw [← ih (before ++ [e]) (e.key :: seen)]
        · simp [choiceBreaches, labeled, known]
        · intro key
          rw [List.mem_cons, same, keys_snoc_of_labeled labeled, List.mem_append,
            List.mem_singleton, or_comm]
    | false =>
      rw [choiceViolations_cons_of_unlabeled labeled, ← ih (before ++ [e]) seen]
      · simp [choiceBreaches, labeled, Breach.violation]
      · intro key
        rw [same, keys_snoc_of_unlabeled labeled]

lemma violations_eq_map (g : Flow) : g.violations = g.breaches.map Breach.violation := by
  have starts : g.startViolations = g.startBreaches.map Breach.violation := by
    rw [startViolations, startBreaches]
    rcases g.nodesOfKind .start with _ | ⟨n, _ | ⟨m, rest⟩⟩ <;> rfl
  have terminals : g.terminalViolations = g.terminalBreaches.map Breach.violation := by
    simp only [terminalViolations, terminalBreaches]
    split_ifs <;> rfl
  have ids : g.idViolations = (g.nodes.zipIdx.flatMap g.idBreaches).map Breach.violation := by
    have split := repeated_eq_flatMap [] [] (fun _ => Iff.rfl) g.ids
    have places : g.ids.zipIdx = g.nodes.zipIdx.map (Prod.map (·.id) id) := List.zipIdx_map ..
    rw [idViolations, split, List.length_nil, places, List.flatMap_map, List.map_flatMap,
      List.map_flatMap]
    congr 1
    funext p
    by_cases known : p.1.id ∈ g.ids.take p.2 <;> simp [idBreaches, known, Breach.violation]
  have ends : g.edges.flatMap g.edgeViolations =
      (g.edges.zipIdx.flatMap g.edgeBreaches).map Breach.violation := by
    rw [← flatMap_zipIdx, List.map_flatMap]
    congr 1
    funext p
    simp only [edgeViolations, edgeBreaches, List.map_append]
    split_ifs <;> rfl
  have connections : g.nodes.flatMap g.nodeViolations =
      (g.nodes.zipIdx.flatMap g.nodeBreaches).map Breach.violation := by
    rw [← flatMap_zipIdx, List.map_flatMap]
    congr 1
    funext p
    simp only [nodeViolations, nodeBreaches, List.map_append]
    split_ifs <;> rfl
  have choices : g.nodes.flatMap g.branchViolations =
      (g.nodes.zipIdx.flatMap g.branchBreaches).map Breach.violation := by
    rw [← flatMap_zipIdx, List.map_flatMap]
    congr 1
    funext p
    simp only [branchViolations, branchBreaches]
    split_ifs
    · exact choiceViolations_eq_map p [] [] (fun _ => Iff.rfl) (g.outgoing p.1.id)
    · rfl
  simp only [violations, breaches, Breach.Part.all, List.flatMap_cons, List.flatMap_nil, breachesOf,
    List.append_nil, List.map_append, starts, terminals, ids, ends, connections, choices,
    List.append_assoc]

/-! Each part holds the breaches of its rules. -/

lemma mem_take_ids {id : String} : id ∈ g.ids.take i ↔ ∃ m ∈ g.nodes.take i, m.id = id := by
  rw [ids, ← List.map_take, List.mem_map]

lemma isTerminal_iff : n.isTerminal = true ↔ ¬ (n.kind ≠ .ending ∧ n.kind ≠ .transfer) := by
  simp [Node.isTerminal, Classical.or_iff_not_imp_left]

lemma mem_starts : b ∈ g.breachesOf .starts ↔ b.part = .starts ∧ g.Breaks b := by
  have none : (∀ n ∈ g.nodes, n.kind ≠ .start) ↔ g.nodesOfKind .start = [] := by
    simp [nodesOfKind, List.filter_eq_nil_iff]
  rw [breachesOf, startBreaches]
  cases b <;> simp only [Breach.part, Breaks, none]
  all_goals rcases g.nodesOfKind .start with _ | ⟨n, _ | ⟨m, rest⟩⟩ <;> simp
  all_goals
    rintro rfl
    simp

lemma mem_terminals : b ∈ g.breachesOf .terminals ↔ b.part = .terminals ∧ g.Breaks b := by
  simp only [breachesOf, terminalBreaches, List.mem_ite_nil_left, List.mem_singleton]
  cases b <;> simp [Breach.part, Breaks, isTerminal_iff]

lemma mem_repeats : b ∈ g.breachesOf .ids ↔ b.part = .ids ∧ g.Breaks b := by
  simp only [breachesOf, idBreaches, List.mem_flatMap, List.mem_ite_nil_right, List.mem_singleton,
    Prod.exists, List.mem_zipIdx_iff_getElem?, mem_take_ids]
  cases b <;> simp [Breach.part, Breaks]

lemma mem_ends : b ∈ g.breachesOf .ends ↔ b.part = .ends ∧ g.Breaks b := by
  have missing {id : String} : id ∉ g.ids ↔ ∀ n ∈ g.nodes, n.id ≠ id := by simp [ids]
  simp only [breachesOf, edgeBreaches, List.mem_flatMap, List.mem_append, List.mem_ite_nil_left,
    List.mem_singleton, Prod.exists, List.mem_zipIdx_iff_getElem?, missing]
  cases b <;> simp [Breach.part, Breaks]

lemma mem_connections : b ∈ g.breachesOf .connections ↔ b.part = .connections ∧ g.Breaks b := by
  simp only [breachesOf, nodeBreaches, List.mem_flatMap, List.mem_append, List.mem_ite_nil_right,
    List.mem_singleton, Prod.exists, List.mem_zipIdx_iff_getElem?, isTerminal_iff]
  cases b <;> simp [Breach.part, Breaks]

lemma mem_keys {key : List Char} {es : List Edge} :
    key ∈ keys es ↔ ∃ f ∈ es, f.hasLabel = true ∧ f.key = key := by
  simp [keys, and_assoc]

lemma mem_choiceBreaches {p : Node × Nat} {before : List Edge} {q : Edge × Nat} :
    b ∈ choiceBreaches p before q ↔
      (q.1.hasLabel = false ∧ b = .unlabeledChoice p.2 p.1 q.2 q.1) ∨
      (q.1.hasLabel = true ∧ q.1.key ∈ keys before ∧ b = .repeatedChoice p.2 p.1 q.2 q.1) := by
  cases labeled : q.1.hasLabel <;> simp [choiceBreaches, labeled]

lemma mem_choices : b ∈ g.breachesOf .choices ↔ b.part = .choices ∧ g.Breaks b := by
  simp only [breachesOf, branchBreaches, List.mem_flatMap, List.mem_ite_nil_right, Prod.exists,
    List.mem_zipIdx_iff_getElem?, mem_choiceBreaches, mem_keys]
  cases b <;> simp [Breach.part, Breaks]

lemma mem_breachesOf {part : Breach.Part} :
    b ∈ g.breachesOf part ↔ b.part = part ∧ g.Breaks b := by
  cases part with
  | starts => exact mem_starts
  | terminals => exact mem_terminals
  | ids => exact mem_repeats
  | ends => exact mem_ends
  | connections => exact mem_connections
  | choices => exact mem_choices

lemma mem_breaches : b ∈ g.breaches ↔ g.Breaks b := by
  have all : b.part ∈ Breach.Part.all := by cases b.part <;> simp [Breach.Part.all]
  simp only [breaches, List.mem_flatMap, mem_breachesOf]
  exact ⟨fun ⟨_, _, _, h⟩ => h, fun h => ⟨_, all, rfl, h⟩⟩

lemma nodup_breachesOf (part : Breach.Part) : (g.breachesOf part).Nodup := by
  cases part with
  | starts =>
    rw [breachesOf, startBreaches]
    rcases g.nodesOfKind .start with _ | ⟨n, _ | ⟨m, rest⟩⟩ <;> simp
  | terminals =>
    rw [breachesOf, terminalBreaches]
    split_ifs <;> simp
  | ids =>
    refine nodup_flatMap_of_marks Prod.snd Breach.place (nodup_places _) ?_ ?_
    · intro p _
      rw [idBreaches]
      split_ifs <;> simp
    · intro p _ b hb
      simp only [idBreaches, List.mem_ite_nil_right, List.mem_singleton] at hb
      simp [hb, Breach.place]
  | ends =>
    refine nodup_flatMap_of_marks Prod.snd Breach.place (nodup_places _) ?_ ?_
    · intro p _
      rw [edgeBreaches]
      split_ifs <;> simp
    · intro p _ b hb
      simp only [edgeBreaches, List.mem_append, List.mem_ite_nil_left, List.mem_singleton] at hb
      rcases hb with ⟨-, rfl⟩ | ⟨-, rfl⟩ <;> rfl
  | connections =>
    refine nodup_flatMap_of_marks Prod.snd Breach.place (nodup_places _) ?_ ?_
    · intro p _
      rw [nodeBreaches]
      split_ifs <;> simp
    · intro p _ b hb
      simp only [nodeBreaches, List.mem_append, List.mem_ite_nil_right, List.mem_singleton] at hb
      rcases hb with ⟨-, rfl⟩ | ⟨-, rfl⟩ <;> rfl
  | choices =>
    refine nodup_flatMap_of_marks Prod.snd Breach.place (nodup_places _) ?_ ?_
    · intro p _
      rw [branchBreaches]
      split_ifs
      · refine nodup_flatMap_of_marks Prod.snd Breach.choice (nodup_places _) ?_ ?_
        · intro q _
          rw [choiceBreaches]
          split_ifs <;> simp
        · intro q _ b hb
          rcases mem_choiceBreaches.mp hb with ⟨-, rfl⟩ | ⟨-, -, rfl⟩ <;> rfl
      · exact List.nodup_nil
    · intro p _ b hb
      simp only [branchBreaches, List.mem_ite_nil_right, List.mem_flatMap] at hb
      obtain ⟨-, q, -, hb⟩ := hb
      rcases mem_choiceBreaches.mp hb with ⟨-, rfl⟩ | ⟨-, -, rfl⟩ <;> rfl

lemma nodup_breaches (g : Flow) : g.breaches.Nodup := by
  refine nodup_flatMap_of_marks id Breach.part ?_ (fun part _ => nodup_breachesOf part) ?_
  · simp [Breach.Part.all]
  · exact fun part _ b hb => (mem_breachesOf.mp hb).1

lemma isSound_iff_unbroken : g.isSound = true ↔ ∀ b, ¬ g.Breaks b := by
  rw [isSound, List.isEmpty_iff, violations_eq_map, List.map_eq_nil_iff,
    List.eq_nil_iff_forall_not_mem]
  exact forall_congr' fun b => not_congr mem_breaches

lemma start_iff : g.nodes.countP (·.kind = .start) = 1 ↔
    ¬ g.Breaks .noStart ∧ ∀ starts, ¬ g.Breaks (.severalStarts starts) := by
  have none : g.Breaks .noStart ↔ (g.nodesOfKind .start).length = 0 := by
    simp [Breaks, nodesOfKind, List.filter_eq_nil_iff]
  have several : (∃ starts, g.Breaks (.severalStarts starts)) ↔
      2 ≤ (g.nodesOfKind .start).length := by
    simp [Breaks]
  rw [← not_exists, none, several, List.countP_eq_length_filter, ← nodesOfKind]
  omega

lemma wellFormed_iff_unbroken : g.WellFormed ↔ ∀ b, ¬ g.Breaks b := by
  refine ⟨fun h b => ?_, fun h => ?_⟩
  · cases b with
    | noStart => exact (start_iff.mp h.start).1
    | severalStarts starts => exact (start_iff.mp h.start).2 starts
    | noTerminal =>
      obtain ⟨n, hn, last⟩ := h.terminal
      exact fun none => last.elim (none n hn).1 (none n hn).2
    | repeatedId i n => exact fun ⟨hn, m, hm, same⟩ => nodup_map_iff.mp h.ids i n hn m hm same
    | unknownSource i e =>
      rintro ⟨he, missing⟩
      obtain ⟨n, hn, same⟩ := h.source e (List.mem_of_getElem? he)
      exact missing n hn same
    | unknownTarget i e =>
      rintro ⟨he, missing⟩
      obtain ⟨n, hn, same⟩ := h.target e (List.mem_of_getElem? he)
      exact missing n hn same
    | noIncoming i n =>
      rintro ⟨hn, later, missing⟩
      obtain ⟨e, he, same⟩ := h.incoming n (List.mem_of_getElem? hn) later
      exact missing e he same
    | noOutgoing i n =>
      rintro ⟨hn, goesOn, missing⟩
      obtain ⟨e, he, same⟩ := h.outgoing n (List.mem_of_getElem? hn) goesOn
      exact missing e he same
    | unlabeledChoice i n j e =>
      rintro ⟨hn, kind, he, unlabeled⟩
      have labeled := h.labels n (List.mem_of_getElem? hn) kind e (List.mem_of_getElem? he)
      simp [labeled] at unlabeled
    | repeatedChoice i n j e =>
      rintro ⟨hn, kind, he, -, f, hf, -, same⟩
      exact nodup_map_iff.mp (h.keys n (List.mem_of_getElem? hn) kind) j e he f hf same
  · have labels : ∀ n ∈ g.nodes, n.kind = .branch → ∀ e ∈ g.outgoing n.id, e.hasLabel = true := by
      intro n hn kind e he
      obtain ⟨i, hi⟩ := List.mem_iff_getElem?.mp hn
      obtain ⟨j, hj⟩ := List.mem_iff_getElem?.mp he
      simpa using fun unlabeled => h (.unlabeledChoice i n j e) ⟨hi, kind, hj, unlabeled⟩
    refine ⟨start_iff.mpr ⟨h _, fun starts => h _⟩, ?_, ?_, ?_, ?_, ?_, ?_, labels, ?_⟩
    · have some := h .noTerminal
      simp only [Breaks, not_forall, not_and_or, not_not, exists_prop] at some
      exact some
    · exact nodup_map_iff.mpr fun i n hn m hm same => h (.repeatedId i n) ⟨hn, m, hm, same⟩
    · intro e he
      obtain ⟨i, hi⟩ := List.mem_iff_getElem?.mp he
      have found := fun missing => h (.unknownSource i e) ⟨hi, missing⟩
      simpa using found
    · intro e he
      obtain ⟨i, hi⟩ := List.mem_iff_getElem?.mp he
      have found := fun missing => h (.unknownTarget i e) ⟨hi, missing⟩
      simpa using found
    · intro n hn later
      obtain ⟨i, hi⟩ := List.mem_iff_getElem?.mp hn
      have found := fun missing => h (.noIncoming i n) ⟨hi, later, missing⟩
      simpa using found
    · intro n hn goesOn
      obtain ⟨i, hi⟩ := List.mem_iff_getElem?.mp hn
      have found := fun missing => h (.noOutgoing i n) ⟨hi, goesOn, missing⟩
      simpa using found
    · intro n hn kind
      obtain ⟨i, hi⟩ := List.mem_iff_getElem?.mp hn
      refine nodup_map_iff.mpr fun j e he f hf same => h (.repeatedChoice i n j e) ?_
      exact ⟨hi, kind, he, labels n hn kind e (List.mem_of_getElem? he), f, hf,
        labels n hn kind f (List.mem_of_mem_take hf), same⟩

/-- A flow passes the check exactly if it is well formed, and each of its breaches is told once. -/
theorem violations_are_breaches (g : Flow) :
    (g.isSound = true ↔ g.WellFormed) ∧
    ∃ breaches : List Breach, breaches.Nodup ∧ (∀ b, b ∈ breaches ↔ g.Breaks b) ∧
      g.violations = breaches.map (·.violation) ∧
      g.errors = breaches.map (·.violation.message) := by
  refine ⟨isSound_iff_unbroken.trans wellFormed_iff_unbroken.symm, g.breaches, nodup_breaches g,
    fun b => mem_breaches, violations_eq_map g, ?_⟩
  rw [errors, violations_eq_map, List.map_map]
  rfl

end Flow

end Dialogue
