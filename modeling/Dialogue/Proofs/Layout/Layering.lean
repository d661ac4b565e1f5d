import Dialogue.Layout.Placement
import Dialogue.Proofs.Layout.Ranking
import Mathlib.Algebra.Order.Field.Rat
import Mathlib.Data.List.Forall2
import Mathlib.Tactic.Linarith
import Mathlib.Tactic.Positivity

/-! Layers hold every step once, each on its rank, and the sweeps only change the order within them.
In exact arithmetic no two steps are placed on top of each other. -/

namespace Dialogue.Layout

def Reordered (rows rows' : List (List String)) : Prop := List.Forall₂ List.Perm rows rows'

namespace Reordered

variable {a b c : List (List String)}

lemma refl (a : List (List String)) : Reordered a a :=
  List.forall₂_same.mpr fun _ _ => .refl _

lemma trans (h : Reordered a b) (h' : Reordered b c) : Reordered a c := by
  induction h generalizing c with
  | nil => exact h'
  | cons same _ ih =>
    cases h' with
    | cons same' rest => exact .cons (same.trans same') (ih rest)

lemma reverse (h : Reordered a b) : Reordered a.reverse b.reverse :=
  List.forall₂_reverse_iff.mpr h

lemma getElem? (h : Reordered a b) {r : Nat} {row : List String} (hr : a[r]? = some row) :
    ∃ row', b[r]? = some row' ∧ row.Perm row' := by
  induction h generalizing r with
  | nil => simp at hr
  | cons same _ ih =>
    cases r with
    | zero => exact ⟨_, rfl, Option.some.inj hr ▸ same⟩
    | succ r => exact ih hr

end Reordered

variable {d : Digraph} {ranks : List (String × Nat)} {rows : List (List String)} {v w : String}

/-! The sweeps -/

lemma sorted_perm (neighbours : String → List String) (fixed free : List String) :
    (sorted neighbours fixed free).Perm free := by
  have keys : (free.zipIdx.map fun p => (p.1, meanPlace fixed (neighbours p.1) p.2)).map (·.1) =
      free := by
    rw [List.map_map]
    exact List.zipIdx_map_fst 0 free
  exact ((List.mergeSort_perm _ _).map _).trans (.of_eq keys)

lemma sweep_reordered (neighbours : String → List String) (rows : List (List String)) :
    Reordered (sweep neighbours rows) rows := by
  fun_induction sweep neighbours rows with
  | case1 fixed free rest ih =>
    exact .cons (.refl _) (ih.trans (.cons (sorted_perm ..) (Reordered.refl rest)))
  | case2 rows => exact .refl rows

lemma sweepBoth_reordered (d : Digraph) (rows : List (List String)) :
    Reordered (sweepBoth d rows) rows := by
  have down := sweep_reordered d.predecessors rows
  have up := (sweep_reordered d.successors (sweep d.predecessors rows).reverse).reverse
  rw [List.reverse_reverse] at up
  exact up.trans down

lemma orderedLayers_reordered (d : Digraph) : Reordered (orderedLayers d) (layers d) := by
  have swept (counts : List Nat) (rows : List (List String)) :
      Reordered (counts.foldl (fun rows _ => sweepBoth d.acyclic rows) rows) rows := by
    induction counts generalizing rows with
    | nil => exact .refl rows
    | cons _ rest ih => exact (ih _).trans (sweepBoth_reordered ..)
  exact swept _ _

/-! The layers -/

lemma getElem?_layersOf {r : Nat} {row : List String} (hr : (layersOf d ranks)[r]? = some row) :
    row = d.nodes.filter fun v => ranks.lookup v = some r := by
  obtain ⟨h, rfl⟩ := List.getElem?_eq_some_iff.mp hr
  simp [layersOf]

lemma lt_height {r : Nat} (h : ranks.lookup v = some r) :
    r < (ranks.map (·.2 + 1)).foldl max 0 := by
  obtain ⟨before, after, rfl, -⟩ := List.lookup_eq_some_iff.mp h
  exact (foldl_max_le_iff.mp (Nat.le_refl _)).2 _ (by simp)

lemma layersOf_flatten_perm (distinct : d.nodes.Nodup)
    (ranked : ∀ v ∈ d.nodes, ∃ r, ranks.lookup v = some r) :
    (layersOf d ranks).flatten.Perm d.nodes := by
  refine (List.perm_ext_iff_of_nodup ?_ distinct).mpr fun v => ?_
  · rw [layersOf, ← List.flatMap_def, List.nodup_flatMap]
    refine ⟨fun r _ => distinct.filter _, List.nodup_range.imp fun {r s} apart => ?_⟩
    rw [Function.onFun, List.disjoint_left]
    intro v hr hs
    have first : ranks.lookup v = some r := by simpa using (List.mem_filter.mp hr).2
    have second : ranks.lookup v = some s := by simpa using (List.mem_filter.mp hs).2
    exact apart (Option.some.inj (first.symm.trans second))
  · rw [layersOf, ← List.flatMap_def, List.mem_flatMap]
    constructor
    · rintro ⟨r, -, hv⟩
      exact List.mem_of_mem_filter hv
    · intro hv
      obtain ⟨r, hr⟩ := ranked v hv
      exact ⟨r, List.mem_range.mpr (lt_height hr), List.mem_filter.mpr ⟨hv, by simp [hr]⟩⟩

/-! Slots -/

lemma mem_slots {slot : Slot} : (v, slot) ∈ slots rows ↔
    ∃ row, rows[slot.row]? = some row ∧ row[slot.index]? = some v ∧ slot.size = row.length := by
  obtain ⟨r, i, size⟩ := slot
  simp only [slots, List.mem_flatMap, List.mem_map, Prod.exists, List.mem_zipIdx_iff_getElem?,
    Prod.mk.injEq, Slot.mk.injEq]
  constructor
  · rintro ⟨row, _, hrow, _, _, hv, rfl, rfl, rfl, rfl⟩
    exact ⟨row, hrow, hv, rfl⟩
  · rintro ⟨row, hrow, hv, rfl⟩
    exact ⟨row, r, hrow, v, i, hv, rfl, rfl, rfl, rfl⟩

lemma keys_slots (rows : List (List String)) : (slots rows).map Prod.fst = rows.flatten := by
  have row (p : List String × Nat) :
      (p.1.zipIdx.map fun q => (q.1, Slot.mk p.2 q.2 p.1.length)).map Prod.fst = p.1 := by
    rw [List.map_map]
    exact List.zipIdx_map_fst 0 p.1
  calc (slots rows).map Prod.fst
      = rows.zipIdx.flatMap Prod.fst := by
        rw [slots, List.map_flatMap]
        exact List.flatMap_congr fun p _ => row p
    _ = rows.flatten := by rw [List.flatMap_def, List.zipIdx_map_fst]

lemma eq_of_slots {slot slot' : Slot} (hv : (v, slot) ∈ slots rows) (hw : (w, slot') ∈ slots rows)
    (row : slot.row = slot'.row) (index : slot.index = slot'.index) : v = w := by
  obtain ⟨members, hr, hi, -⟩ := mem_slots.mp hv
  obtain ⟨members', hr', hi', -⟩ := mem_slots.mp hw
  rw [row, hr'] at hr
  obtain rfl := Option.some.inj hr
  rw [index, hi'] at hi
  exact (Option.some.inj hi).symm

/-! Coordinates -/

def widest (rows : List (List String)) : Nat := (rows.map (·.length)).foldl max 0

def layerPoints {α : Type} [Extent α] (direction : Direction) (s : LayerSpacing α) (g : Flow) :
    List (String × Point α) :=
  let rows := orderedLayers (.ofFlow g)
  (slots rows).map fun (id, slot) => (id, layerPoint direction s (widest rows) slot)

lemma mem_layerPoints {α : Type} [Extent α] {direction : Direction} {s : LayerSpacing α} {g : Flow}
    {p : Point α} : (v, p) ∈ layerPoints direction s g ↔
      ∃ slot, (v, slot) ∈ slots (orderedLayers (.ofFlow g)) ∧
        p = layerPoint direction s (widest (orderedLayers (.ofFlow g))) slot := by
  simp only [layerPoints, List.mem_map, Prod.exists, Prod.mk.injEq]
  constructor
  · rintro ⟨_, slot, hv, rfl, rfl⟩
    exact ⟨slot, hv, rfl⟩
  · rintro ⟨slot, hv, rfl⟩
    exact ⟨v, slot, hv, rfl, rfl⟩

lemma size_le_widest {slot : Slot} (hv : (v, slot) ∈ slots rows) : slot.size ≤ widest rows := by
  obtain ⟨row, hr, -, size⟩ := mem_slots.mp hv
  rw [size]
  exact (foldl_max_le_iff.mp (Nat.le_refl _)).2 _
    (List.mem_map_of_mem (List.mem_of_getElem? hr))

lemma byLayer_eq_map (direction : Direction) (s : LayerSpacing Length) (g : Flow) :
    byLayer direction s g =
      (layerPoints direction s g).map fun (id, p) => (id, p.toPosition) := by
  rw [byLayer, layerPoints, List.map_map]
  rfl

-- no instance, so that it is named where lengths are meant to be exact
abbrev rational : Extent ℚ where
  add := (· + ·)
  sub := (· - ·)
  mul := (· * ·)
  ofNat n := n
  half x := x / 2

def across (s : LayerSpacing ℚ) (widest : Nat) (slot : Slot) : ℚ :=
  margin + (widest - slot.size) * (boxSide + s.node) / 2 + slot.index * (boxSide + s.node)

def along (s : LayerSpacing ℚ) (slot : Slot) : ℚ := margin + slot.row * (boxSide + s.rank)

def exactPoint (direction : Direction) (s : LayerSpacing ℚ) (widest : Nat) (slot : Slot) :
    Point ℚ :=
  match direction with
  | .topToBottom => ⟨across s widest slot, along s slot⟩
  | .leftToRight => ⟨along s slot, across s widest slot⟩

lemma layerPoint_rational (direction : Direction) (s : LayerSpacing ℚ) {widest : Nat} {slot : Slot}
    (fits : slot.size ≤ widest) :
    @layerPoint ℚ rational direction s widest slot = exactPoint direction s widest slot := by
  have shift : ((widest - slot.size : Nat) : ℚ) = widest - slot.size := Nat.cast_sub fits
  cases direction with
  | topToBottom | leftToRight =>
    rw [exactPoint, across, ← shift]
    rfl

def Point.Covers (p z : Point ℚ) : Prop :=
  (p.x ≤ z.x ∧ z.x < p.x + boxSide) ∧ p.y ≤ z.y ∧ z.y < p.y + boxSide

lemma margin_le_across {s : LayerSpacing ℚ} (h : 0 ≤ s.node) {widest : Nat} {slot : Slot}
    (fits : slot.size ≤ widest) : margin ≤ across s widest slot := by
  have step : 0 ≤ (boxSide : ℚ) + s.node := add_nonneg (Nat.cast_nonneg _) h
  have room : 0 ≤ (widest : ℚ) - slot.size := sub_nonneg.mpr (mod_cast fits)
  rw [across, add_assoc]
  exact le_add_of_nonneg_right (by positivity)

lemma margin_le_along {s : LayerSpacing ℚ} (h : 0 ≤ s.rank) (slot : Slot) :
    margin ≤ along s slot := by
  have step : 0 ≤ (boxSide : ℚ) + s.rank := add_nonneg (Nat.cast_nonneg _) h
  exact le_add_of_nonneg_right (by positivity)

lemma box_le_of_lt {base gap : ℚ} (h : 0 ≤ gap) {m n : Nat} (lt : m < n) :
    base + m * (boxSide + gap) + boxSide ≤ base + n * (boxSide + gap) := by
  have next : (m : ℚ) + 1 ≤ n := mod_cast lt
  have step : 0 ≤ (boxSide : ℚ) + gap := add_nonneg (Nat.cast_nonneg _) h
  have reach := mul_le_mul_of_nonneg_right next step
  linarith

lemma box_disjoint {base gap z : ℚ} (h : 0 ≤ gap) {m n : Nat} (apart : m ≠ n)
    (hm : base + m * (boxSide + gap) ≤ z ∧ z < base + m * (boxSide + gap) + boxSide)
    (hn : base + n * (boxSide + gap) ≤ z ∧ z < base + n * (boxSide + gap) + boxSide) : False := by
  rcases Nat.lt_or_gt_of_ne apart with lt | gt
  · exact absurd (hm.2.trans_le (box_le_of_lt h lt)) (not_lt.mpr hn.1)
  · exact absurd (hn.2.trans_le (box_le_of_lt h gt)) (not_lt.mpr hm.1)

lemma exactPoint_disjoint {direction : Direction} {s : LayerSpacing ℚ} (node : 0 ≤ s.node)
    (rank : 0 ≤ s.rank) {widest : Nat} {slot slot' : Slot}
    (apart : slot.row = slot'.row → slot.size = slot'.size ∧ slot.index ≠ slot'.index)
    {z : Point ℚ} (h : (exactPoint direction s widest slot).Covers z)
    (h' : (exactPoint direction s widest slot').Covers z) : False := by
  by_cases row : slot.row = slot'.row
  · obtain ⟨size, index⟩ := apart row
    cases direction with
    | topToBottom =>
      have first := h.1
      have second := h'.1
      simp only [exactPoint, across, size] at first second
      exact box_disjoint node index first second
    | leftToRight =>
      have first := h.2
      have second := h'.2
      simp only [exactPoint, across, size] at first second
      exact box_disjoint node index first second
  · -- in different layers the boxes are apart along the layers, whatever their places
    cases direction with
    | topToBottom => exact box_disjoint rank row h.2 h'.2
    | leftToRight => exact box_disjoint rank row h.1 h'.1

lemma layers_flatten_perm (g : Flow) :
    (orderedLayers (.ofFlow g)).flatten.Perm g.ids.eraseDups := by
  have simple := Digraph.simple_ofFlow g
  have ranked := layersOf_flatten_perm (d := (Digraph.ofFlow g).acyclic) simple.nodes
    fun v hv => (Digraph.isOrder_order simple).exists_rank hv
  have nodes : (Digraph.ofFlow g).nodes.Perm g.ids.eraseDups := by
    refine (List.perm_ext_iff_of_nodup simple.nodes (nodup_eraseDups _)).mpr fun v => ?_
    rw [Digraph.mem_nodes_ofFlow, List.mem_eraseDups]
  exact ((List.Perm.flatten_congr (orderedLayers_reordered _)).trans ranked).trans nodes

lemma mem_orderedLayers {r : Nat} {row : List String} (hr : (orderedLayers d)[r]? = some row) :
    v ∈ row ↔ v ∈ d.nodes ∧ (ranksAlong d.acyclic d.order).lookup v = some r := by
  obtain ⟨row', hr', same⟩ := (orderedLayers_reordered d).getElem? hr
  rw [same.mem_iff, getElem?_layersOf hr', List.mem_filter, decide_eq_true_eq]
  rfl

lemma size_eq_of_row {slot slot' : Slot} (hv : (v, slot) ∈ slots rows)
    (hw : (w, slot') ∈ slots rows) (row : slot.row = slot'.row) : slot.size = slot'.size := by
  obtain ⟨members, hr, -, size⟩ := mem_slots.mp hv
  obtain ⟨members', hr', -, size'⟩ := mem_slots.mp hw
  rw [row, hr'] at hr
  rw [size, size', Option.some.inj hr]

lemma margin_le_exactPoint (direction : Direction) {s : LayerSpacing ℚ} (node : 0 ≤ s.node)
    (rank : 0 ≤ s.rank) {widest : Nat} {slot : Slot} (fits : slot.size ≤ widest) :
    (margin : ℚ) ≤ (exactPoint direction s widest slot).x ∧
      (margin : ℚ) ≤ (exactPoint direction s widest slot).y := by
  have left := margin_le_across node fits
  cases direction with
  | topToBottom => exact ⟨left, margin_le_along rank slot⟩
  | leftToRight => exact ⟨margin_le_along rank slot, left⟩

lemma keys_byLayer {direction : Direction} {s : LayerSpacing Length} {g : Flow} :
    (byLayer direction s g).map Prod.fst = (orderedLayers (.ofFlow g)).flatten := by
  rw [byLayer_eq_map, layerPoints, List.map_map, List.map_map]
  exact keys_slots _

lemma mem_byLayer {direction : Direction} {s : LayerSpacing Length} {g : Flow} {p : Position} :
    (v, p) ∈ byLayer direction s g ↔ ∃ slot, (v, slot) ∈ slots (orderedLayers (.ofFlow g)) ∧
      p = (layerPoint direction s (widest (orderedLayers (.ofFlow g))) slot).toPosition := by
  rw [byLayer_eq_map, List.mem_map]
  constructor
  · rintro ⟨⟨v, q⟩, hq, moved⟩
    obtain ⟨rfl, rfl⟩ := Prod.mk.inj moved
    obtain ⟨slot, hv, rfl⟩ := mem_layerPoints.mp hq
    exact ⟨slot, hv, rfl⟩
  · rintro ⟨slot, hv, rfl⟩
    exact ⟨_, mem_layerPoints.mpr ⟨slot, hv, rfl⟩, rfl⟩

lemma mem_layerPoints_rational {direction : Direction} {s : LayerSpacing ℚ} {g : Flow}
    {p : Point ℚ} : (v, p) ∈ @layerPoints ℚ rational direction s g ↔
      ∃ slot, (v, slot) ∈ slots (orderedLayers (.ofFlow g)) ∧
        p = exactPoint direction s (widest (orderedLayers (.ofFlow g))) slot := by
  refine (@mem_layerPoints v ℚ rational direction s g p).trans ?_
  refine exists_congr fun slot => and_congr_right fun hv => ?_
  rw [layerPoint_rational direction s (size_le_widest hv)]

/-- Every step is in one layer, once, the layer of its rank, and every step gets a position. A slot
holds one step and decides where it is drawn; without negative gaps, in exact arithmetic, the boxes
of two steps have no point in common, and all of them keep the margin. -/
theorem layers_hold_each_step_once (g : Flow) (direction : Direction) :
    let d := Digraph.ofFlow g
    let rows := orderedLayers d
    rows.flatten.Perm g.ids.eraseDups ∧
    (∀ (r : Nat) row, rows[r]? = some row → ∀ v ∈ row,
      (ranksAlong d.acyclic d.order).lookup v = some r) ∧
    (∀ s, ((byLayer direction s g).map Prod.fst).Perm g.ids.eraseDups) ∧
    (∀ v slot w slot', (v, slot) ∈ slots rows → (w, slot') ∈ slots rows → v ≠ w →
      (slot.row, slot.index) ≠ (slot'.row, slot'.index)) ∧
    (∀ s v p, (v, p) ∈ byLayer direction s g ↔ ∃ slot, (v, slot) ∈ slots rows ∧
      p = (layerPoint direction s (widest rows) slot).toPosition) ∧
    ∀ s : LayerSpacing ℚ,
      (∀ v p, (v, p) ∈ @layerPoints ℚ rational direction s g ↔
        ∃ slot, (v, slot) ∈ slots rows ∧ p = exactPoint direction s (widest rows) slot) ∧
      (0 ≤ s.node → 0 ≤ s.rank →
        (∀ v p, (v, p) ∈ @layerPoints ℚ rational direction s g →
          (margin : ℚ) ≤ p.x ∧ (margin : ℚ) ≤ p.y) ∧
        ∀ v p w q, (v, p) ∈ @layerPoints ℚ rational direction s g →
          (w, q) ∈ @layerPoints ℚ rational direction s g → v ≠ w →
          ∀ z, ¬ (p.Covers z ∧ q.Covers z)) := by
  intro d rows
  refine ⟨layers_flatten_perm g, fun r row hr v hv => ((mem_orderedLayers hr).mp hv).2,
    fun s => (List.Perm.of_eq keys_byLayer).trans (layers_flatten_perm g), ?_,
    fun s v p => mem_byLayer,
    fun s => ⟨fun v p => mem_layerPoints_rational, fun node rank => ⟨?_, ?_⟩⟩⟩
  · intro v slot w slot' hv hw apart same
    exact apart (eq_of_slots hv hw (congrArg Prod.fst same) (congrArg Prod.snd same))
  · intro v p hp
    obtain ⟨slot, hv, rfl⟩ := mem_layerPoints_rational.mp hp
    exact margin_le_exactPoint direction node rank (size_le_widest hv)
  · rintro v p w q hp hq apart z ⟨h, h'⟩
    obtain ⟨slot, hv, rfl⟩ := mem_layerPoints_rational.mp hp
    obtain ⟨slot', hw, rfl⟩ := mem_layerPoints_rational.mp hq
    refine exactPoint_disjoint node rank (fun row => ⟨size_eq_of_row hv hw row, ?_⟩) h h'
    exact fun index => apart (eq_of_slots hv hw row index)

theorem layers_hold_each_step_once_recurring :
    let points := @layerPoints ℚ rational .leftToRight ⟨0, 0⟩ recurring
    ∃ p q, ("start-1", p) ∈ points ∧ ("end-1", q) ∈ points ∧ ∀ z, ¬ (p.Covers z ∧ q.Covers z) := by
  intro points
  obtain ⟨whole, -, -, -, -, drawn⟩ := layers_hold_each_step_once recurring .leftToRight
  have placed (v : String) (known : v ∈ recurring.ids) : ∃ p, (v, p) ∈ points := by
    have key := whole.mem_iff.mpr (List.mem_eraseDups.mpr known)
    rw [← keys_slots] at key
    obtain ⟨⟨_, slot⟩, hv, rfl⟩ := List.mem_map.mp key
    exact ⟨_, ((drawn ⟨0, 0⟩).1 _ _).mpr ⟨slot, hv, rfl⟩⟩
  obtain ⟨p, hp⟩ := placed "start-1" (by decide)
  obtain ⟨q, hq⟩ := placed "end-1" (by decide)
  have disjoint := ((drawn ⟨0, 0⟩).2 le_rfl le_rfl).2
  exact ⟨p, q, hp, hq, disjoint _ _ _ _ hp hq (by decide)⟩

end Dialogue.Layout
