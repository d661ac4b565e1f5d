import Dialogue.Intent.Routing
import Dialogue.Proofs.Layout.Placing
import Dialogue.Script

/-! What does not depend on where the steps of a flow are: whatever is asked of the flow, its
soundness, its script, and its layers. -/

namespace Dialogue.Layout

variable {g : Flow} {P : Positions} {n m : Node} {e : Edge} {id : String}

@[simp] lemma moved_content (n : Node) : (moved P n).content = n.content := rfl

@[simp] lemma moved_label (n : Node) : (moved P n).label = n.label := rfl

@[simp] lemma moved_displayName (n : Node) : (moved P n).displayName = n.displayName := rfl

@[simp] lemma moved_isTerminal (n : Node) : (moved P n).isTerminal = n.isTerminal := rfl

lemma moved_of_notMem (unplaced : n.id ∉ P.map Prod.fst) : moved P n = n := by
  have absent : P.lookup n.id = none := by
    refine List.lookup_eq_none_iff.mpr fun p hp => bne_iff_ne.mpr fun same => unplaced ?_
    exact same ▸ List.mem_map_of_mem hp
  rw [moved, absent, Option.getD_none]

lemma node?_apply : (apply P g).node? id = (g.node? id).map (moved P) := by
  rw [Flow.node?, Flow.node?, nodes_apply, List.find?_map]
  rfl

lemma bind_node?_apply (o : Option String) :
    o.bind (apply P g).node? = (o.bind g.node?).map (moved P) := by
  rw [Option.map_bind]
  exact congrArg _ (funext fun _ => node?_apply)

lemma ending?_apply : (apply P g).ending? = g.ending?.map (moved P) := by
  rw [Flow.ending?, Flow.ending?, nodes_apply, List.find?_map]
  rfl

lemma nodesOfKind_apply (k : Kind) :
    (apply P g).nodesOfKind k = (g.nodesOfKind k).map (moved P) := by
  rw [Flow.nodesOfKind, Flow.nodesOfKind, nodes_apply, List.filter_map]
  rfl

lemma next?_apply : (apply P g).next? id = g.next? id := rfl

lemma outgoing_apply : (apply P g).outgoing id = g.outgoing id := rfl

/-! Soundness -/

lemma startViolations_apply : (apply P g).startViolations = g.startViolations := by
  rw [Flow.startViolations, Flow.startViolations, nodesOfKind_apply]
  match g.nodesOfKind .start with
  | [] => rfl
  | [_] => rfl
  | n :: m :: rest => simp [Function.comp_def]

lemma violations_apply : (apply P g).violations = g.violations := by
  have terminals : (apply P g).terminalViolations = g.terminalViolations := by
    simp [Flow.terminalViolations, nodes_apply, Function.comp_def]
  have repeats : (apply P g).idViolations = g.idViolations := by
    rw [Flow.idViolations, ids_apply, Flow.idViolations]
  have ends (e : Edge) : (apply P g).edgeViolations e = g.edgeViolations e := by
    simp only [Flow.edgeViolations, ids_apply]
  have places (f : Flow → Node → List Violation) (same : ∀ n, f (apply P g) (moved P n) = f g n) :
      (apply P g).nodes.flatMap (f (apply P g)) = g.nodes.flatMap (f g) := by
    simp only [nodes_apply, List.flatMap_map, same]
  rw [Flow.violations, startViolations_apply, terminals, repeats, funext ends,
    places Flow.nodeViolations fun _ => rfl, places Flow.branchViolations fun _ => rfl]
  rfl

/-! The script -/

lemma walk_apply (seen stack : List String) :
    Script.walk (apply P g) seen stack = (Script.walk g seen stack).map (moved P) := by
  fun_induction Script.walk g seen stack with
  | case1 seen => rw [Script.walk, List.map_nil]
  | case2 seen id stack known ih => rw [Script.walk_seen known, ih]
  | case3 seen id stack new missing ih =>
    rw [Script.walk_missing new (by rw [node?_apply, missing, Option.map_none]), ih]
  | case4 seen id stack new n hn ih =>
    have found : (apply P g).node? id = some (moved P n) := by
      rw [node?_apply, hn, Option.map_some]
    rw [Script.walk_found new found, List.map_cons, ← ih]
    rfl

lemma steps_apply : Script.steps (apply P g) = (Script.steps g).map (moved P) := by
  rw [Script.steps, Script.steps, start?_apply]
  cases g.start? with
  | none => rfl
  | some n => exact walk_apply [] [n.id]

lemma details_apply (n : Node) :
    Script.details (apply P g) (moved P n) = Script.details g n := by
  have choice (e : Edge) : ((apply P g).node? e.target).map (Script.choiceLine e) =
      (g.node? e.target).map (Script.choiceLine e) := by
    rw [node?_apply, Option.map_map]
    rfl
  simp only [Script.details, moved_content, moved_id, outgoing_apply, choice]

lemma compile_apply : Script.compile (apply P g) = Script.compile g := by
  have lines : Script.lines (apply P g) = Script.lines g := by
    rw [Script.lines, Script.lines, steps_apply, List.zipIdx_map, List.flatMap_map]
    refine List.flatMap_congr fun (n, i) _ => ?_
    exact congrArg (Script.stepLine (i + 1) n :: ·) (details_apply n)
  rw [Script.compile, Script.compile, start?_apply, lines]
  cases g.start? <;> rfl

lemma publish_apply : Script.publish (apply P g) = Script.publish g := by
  have sound : (apply P g).isSound = g.isSound := congrArg List.isEmpty violations_apply
  have errors : (apply P g).errors = g.errors := congrArg (List.map _) violations_apply
  rw [Script.publish, sound, compile_apply, errors, Script.publish]

/-! The choices of a branch -/

lemma candidates_apply : (apply P g).candidates id = g.candidates id := by
  have label (e : Edge) : (apply P g).choiceLabel e = g.choiceLabel e := by
    rw [Flow.choiceLabel, Flow.choiceLabel, node?_apply]
    cases g.node? e.target <;> rfl
  rw [Flow.candidates, Flow.candidates, outgoing_apply, funext label]

lemma matchEdge_apply (intent : String) :
    (apply P g).matchEdge id intent = g.matchEdge id intent := by
  have selectors (e : Edge) : (apply P g).selectors e = g.selectors e := by
    rw [Flow.selectors, Flow.selectors, node?_apply, Option.map_map]
    rfl
  simp only [Flow.matchEdge, outgoing_apply, selectors]

/-! Layers -/

lemma byLayer_apply (direction : Direction) (s : LayerSpacing Length) :
    byLayer direction s (apply P g) = byLayer direction s g := by
  have drawn : Digraph.ofFlow (apply P g) = Digraph.ofFlow g := by
    have first : (apply P g).start?.toList.map (·.id) = g.start?.toList.map (·.id) := by
      rw [start?_apply]
      cases g.start? <;> rfl
    have ids : (apply P g).nodes.map (·.id) = g.nodes.map (·.id) := ids_apply
    rw [Digraph.ofFlow, Digraph.ofFlow, first, ids]
    rfl
  rw [byLayer, byLayer, drawn]

end Dialogue.Layout
