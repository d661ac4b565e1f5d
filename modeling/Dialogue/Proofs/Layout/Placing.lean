import Dialogue.Flow.Validation
import Dialogue.Layout.Placement
import Mathlib.Data.List.Nodup
import Mathlib.Tactic.Common

/-! Moving the steps of a flow changes nothing but their positions, so a placement by level is a fixed
point: a flow moved by it is placed where it is. -/

namespace Dialogue

section Keys

variable {α β : Type} [BEq α] [LawfulBEq α]

lemma nodup_eraseDups (xs : List α) : xs.eraseDups.Nodup := by
  match xs with
  | [] => simp
  | x :: rest =>
    rw [List.eraseDups_cons, List.nodup_cons]
    exact ⟨by simp, nodup_eraseDups _⟩
termination_by xs.length
decreasing_by exact Nat.lt_succ_of_le (List.length_filter_le _ _)

lemma eraseDups_of_nodup {xs : List α} (distinct : xs.Nodup) : xs.eraseDups = xs := by
  induction xs with
  | nil => rfl
  | cons x rest ih =>
    obtain ⟨new, distinct⟩ := List.nodup_cons.mp distinct
    have kept : (rest.filter fun y => !y == x) = rest := by
      refine List.filter_eq_self.mpr fun y hy => ?_
      simpa using ne_of_mem_of_not_mem hy new
    rw [List.eraseDups_cons, kept, ih distinct]

lemma lookup_of_mem {entries : List (α × β)} (distinct : (entries.map Prod.fst).Nodup) {a : α}
    {b : β} (h : (a, b) ∈ entries) : entries.lookup a = some b := by
  obtain ⟨before, after, rfl⟩ := List.append_of_mem h
  refine List.lookup_eq_some_iff.mpr ⟨before, after, rfl, fun p hp => ?_⟩
  rw [List.map_append, List.map_cons] at distinct
  have apart := (List.nodup_append.mp distinct).2.2 p.1 (List.mem_map_of_mem hp) a (by simp)
  simpa using apart.symm

end Keys

namespace Layout

variable {g : Flow} {P : Positions} {s : LevelSpacing Length}

def moved (P : Positions) (n : Node) : Node :=
  { n with position := (P.lookup n.id).getD n.position }

@[simp] lemma moved_id (n : Node) : (moved P n).id = n.id := rfl

@[simp] lemma moved_kind (n : Node) : (moved P n).kind = n.kind := rfl

lemma nodes_apply : (apply P g).nodes = g.nodes.map (moved P) := by
  refine List.map_congr_left fun n _ => ?_
  cases h : P.lookup n.id <;> simp [moved, h]

lemma ids_apply : (apply P g).ids = g.ids := by
  simp [Flow.ids, nodes_apply]

lemma start?_apply : (apply P g).start? = g.start?.map (moved P) := by
  rw [Flow.start?, Flow.start?, nodes_apply, List.find?_map]
  rfl

lemma levelsFrom_apply (count : Nat) (seen level : List String) :
    levelsFrom (apply P g) count seen level = levelsFrom g count seen level := by
  induction count generalizing seen level with
  | zero => rfl
  | succ count ih =>
    have next (seen : List String) : nextLevel (apply P g) seen level = nextLevel g seen level := rfl
    rw [levelsFrom, levelsFrom, next, ih]

lemma levels_apply : levels (apply P g) = levels g := by
  rw [levels, levels, start?_apply]
  cases g.start? with
  | none => rfl
  | some n => exact levelsFrom_apply ..

lemma exists_last {id : String} (h : id ∈ g.ids) :
    ∃ n ∈ g.nodes, n.id = id ∧ g.nodes.reverse.find? (·.id = id) = some n := by
  obtain ⟨m, hm, named⟩ := List.mem_map.mp h
  have found : (g.nodes.reverse.find? (·.id = id)).isSome = true :=
    List.find?_isSome.mpr ⟨m, List.mem_reverse.mpr hm, decide_eq_true named⟩
  obtain ⟨n, hn⟩ := Option.isSome_iff_exists.mp found
  exact ⟨n, List.mem_reverse.mp (List.mem_of_find?_eq_some hn),
    of_decide_eq_true (List.find?_some hn :), hn⟩

lemma current_apply (keys : P.map Prod.fst = g.ids.eraseDups) : current (apply P g) = P := by
  have distinct : (P.map Prod.fst).Nodup := keys ▸ nodup_eraseDups _
  have ids : ((apply P g).nodes.map (·.id)).eraseDups = P.map Prod.fst := by
    rw [keys, ← ids_apply, Flow.ids]
  rw [current, ids, List.map_map]
  refine (List.map_congr_left fun p hp => ?_).trans (List.map_id P)
  have known : p.1 ∈ (apply P g).ids := by
    rw [ids_apply, ← List.mem_eraseDups, ← keys]
    exact List.mem_map_of_mem hp
  obtain ⟨n, hn, named, last⟩ := exists_last known
  rw [nodes_apply, List.mem_map] at hn
  obtain ⟨m, -, rfl⟩ := hn
  have placed : (moved P m).position = p.2 := by
    rw [moved, ← moved_id (P := P) m, named, lookup_of_mem distinct hp, Option.getD_some]
  simp [last, placed]

lemma keys_byLevel : (byLevel s g).map Prod.fst = g.ids.eraseDups := by
  simp [byLevel, current, Flow.ids, Function.comp_def]

lemma byLevel_apply : byLevel s (apply (byLevel s g) g) = current (apply (byLevel s g) g) := by
  have now := current_apply (g := g) (P := byLevel s g) keys_byLevel
  rw [byLevel, levels_apply, now, byLevel, List.map_map]
  refine List.map_congr_left fun p _ => ?_
  cases h : (slots (levels g)).lookup p.1 <;> simp [h]

lemma current_of_nodup (distinct : g.ids.Nodup) :
    current g = g.nodes.map fun n => (n.id, n.position) := by
  rw [current, ← Flow.ids, eraseDups_of_nodup distinct, Flow.ids, List.map_map]
  refine List.map_congr_left fun n hn => ?_
  obtain ⟨m, hm, named, last⟩ := exists_last (List.mem_map_of_mem (f := (·.id)) hn)
  obtain rfl := List.inj_on_of_nodup_map distinct hm hn named
  simp [last]

end Layout

end Dialogue
