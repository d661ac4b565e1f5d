import Dialogue.Proofs.Flow.Soundness
import Dialogue.Proofs.Layout.Layering
import Mathlib.Order.Bounds.Basic
import Mathlib.Order.Nat

/-! Placement by level is breadth first: a level holds the steps at one distance from the start. A
queue that holds a step as often as it was met comes to the same levels, in the same order. -/

namespace Dialogue

open Relation (ReflTransGen)

namespace Flow

variable {g : Flow} {a u v : String} {k l : Nat}

inductive Hops (g : Flow) (a : String) : Nat → String → Prop
  | refl : Hops g a 0 a
  | tail {k : Nat} {u v : String} : Hops g a k u → g.Leads u v → Hops g a (k + 1) v

def IsDistance (g : Flow) (a v : String) (l : Nat) : Prop := IsLeast {k | g.Hops a k v} l

lemma Hops.reaches (h : g.Hops a k v) : ReflTransGen g.Leads a v := by
  induction h with
  | refl => exact .refl
  | tail _ lead ih => exact ih.tail lead

lemma exists_hops (way : ReflTransGen g.Leads a v) : ∃ k, g.Hops a k v := by
  induction way with
  | refl => exact ⟨0, .refl⟩
  | tail _ lead ih =>
    obtain ⟨k, hops⟩ := ih
    exact ⟨k + 1, hops.tail lead⟩

lemma exists_distance (way : ReflTransGen g.Leads a v) : ∃ l, g.IsDistance a v l := by
  classical
  exact ⟨_, Nat.isLeast_find (exists_hops way)⟩

lemma isDistance_zero_iff : g.IsDistance a v 0 ↔ v = a := by
  constructor
  · rintro ⟨hops, -⟩
    cases hops
    rfl
  · rintro rfl
    exact ⟨.refl, fun _ _ => Nat.zero_le _⟩

lemma isDistance_succ_iff : g.IsDistance a v (l + 1) ↔
    (∃ u, g.IsDistance a u l ∧ g.Leads u v) ∧ ∀ k ≤ l, ¬ g.Hops a k v := by
  constructor
  · rintro ⟨hops, least⟩
    refine ⟨?_, fun k hk shorter => Nat.not_succ_le_self l ((least shorter).trans hk)⟩
    cases hops with
    | @tail _ u _ hops lead =>
      refine ⟨u, ⟨hops, fun k shorter => ?_⟩, lead⟩
      exact Nat.le_of_succ_le_succ (least (Hops.tail shorter lead))
  · rintro ⟨⟨u, ⟨hops, -⟩, lead⟩, none⟩
    refine ⟨hops.tail lead, fun k shorter => ?_⟩
    by_contra less
    exact none k (Nat.le_of_lt_succ (not_le.mp less)) shorter

lemma IsDistance.exists_before {i : Nat} (h : g.IsDistance a v (l + i)) :
    ∃ u, g.IsDistance a u l := by
  induction i generalizing v with
  | zero => exact ⟨v, h⟩
  | succ i ih =>
    obtain ⟨⟨u, before, -⟩, -⟩ := isDistance_succ_iff.mp h
    exact ih before

end Flow

namespace Layout

variable {g : Flow} {a v : String} {l count : Nat} {seen level : List String}

/-! Levels -/

lemma mem_nextLevel :
    v ∈ nextLevel g seen level ↔ (∃ u ∈ level, g.Leads u v) ∧ v ∉ seen := by
  simp only [nextLevel, List.mem_eraseDups, List.mem_filter, List.mem_flatMap, Flow.mem_successors,
    Flow.Leads, Bool.not_eq_true', List.contains_eq_mem, decide_eq_false_iff_not]

structure Levelled (g : Flow) (a : String) (l : Nat) (seen level : List String) : Prop where
  nearer : ∀ v, v ∈ seen ↔ ∃ k < l, g.Hops a k v
  mem : ∀ v, v ∈ level ↔ g.IsDistance a v l
  distinct : level.Nodup

lemma Levelled.start (g : Flow) (a : String) : Levelled g a 0 [] [a] where
  nearer v := by simp
  mem v := by rw [List.mem_singleton, Flow.isDistance_zero_iff]
  distinct := List.nodup_singleton a

lemma Levelled.next (h : Levelled g a l seen level) :
    Levelled g a (l + 1) (seen ++ level) (nextLevel g (seen ++ level) level) := by
  -- with its own steps a level has met all that is no farther
  have met : ∀ v, v ∈ seen ++ level ↔ ∃ k ≤ l, g.Hops a k v := by
    intro v
    rw [List.mem_append, h.nearer, h.mem]
    constructor
    · rintro (⟨k, hk, hops⟩ | ⟨hops, -⟩)
      · exact ⟨k, hk.le, hops⟩
      · exact ⟨l, le_rfl, hops⟩
    · rintro ⟨k, hk, hops⟩
      by_cases nearer : ∃ k < l, g.Hops a k v
      · exact .inl nearer
      · have least : ∀ j, g.Hops a j v → l ≤ j := fun j hops =>
          not_lt.mp fun less => nearer ⟨j, less, hops⟩
        exact .inr ⟨(hk.antisymm (least k hops)) ▸ hops, fun j => least j⟩
  refine ⟨fun v => ?_, fun v => ?_, nodup_eraseDups _⟩
  · simp only [met, Nat.lt_succ_iff]
  · rw [mem_nextLevel, met, Flow.isDistance_succ_iff]
    simp only [h.mem, not_exists, not_and]

def Enough (g : Flow) (count : Nat) (seen level : List String) : Prop :=
  level ≠ [] → (g.edges.filter (·.target ∉ seen ++ level)).length < count

lemma Enough.start (g : Flow) (a : String) : Enough g (g.edges.length + 1) [] [a] :=
  fun _ => Nat.lt_succ_of_le (List.length_filter_le ..)

lemma Enough.next (h : Enough g (count + 1) seen level) (held : level ≠ []) :
    Enough g count (seen ++ level) (nextLevel g (seen ++ level) level) := by
  intro more
  obtain ⟨v, hv⟩ := List.exists_mem_of_ne_nil _ more
  obtain ⟨⟨u, -, e, he, -, rfl⟩, new⟩ := mem_nextLevel.mp hv
  -- the connection by which a step of the next level is reached no longer counts
  have left : g.edges.filter (·.target ∉ seen ++ level ++ nextLevel g (seen ++ level) level) =
      (g.edges.filter (·.target ∉ seen ++ level)).filter
        (·.target ∉ nextLevel g (seen ++ level) level) := by
    rw [List.filter_filter]
    refine List.filter_congr fun x _ => ?_
    simp only [List.mem_append (s := seen ++ level), not_or, Bool.decide_and, Bool.and_comm]
  have fewer : (g.edges.filter
      (·.target ∉ seen ++ level ++ nextLevel g (seen ++ level) level)).length <
      (g.edges.filter (·.target ∉ seen ++ level)).length := by
    rw [left, List.length_filter_lt_length_iff_exists]
    exact ⟨e, List.mem_filter.mpr ⟨he, decide_eq_true new⟩, by simpa using hv⟩
  exact fewer.trans_le (Nat.le_of_lt_succ (h held))

lemma levelsFrom_nil (g : Flow) (count : Nat) (seen : List String) :
    levelsFrom g count seen [] = [] := by
  cases count <;> rfl

lemma levelsFrom_succ (held : level ≠ []) : levelsFrom g (count + 1) seen level =
    level :: levelsFrom g count (seen ++ level) (nextLevel g (seen ++ level) level) := by
  simp [levelsFrom, held]

lemma Levelled.getD_nil (h : Levelled g a l seen []) (i : Nat) :
    (([] : List (List String)).getD i []).Nodup ∧
      ∀ v, v ∈ ([] : List (List String)).getD i [] ↔ g.IsDistance a v (l + i) := by
  refine ⟨List.nodup_nil, fun v => iff_of_false List.not_mem_nil fun far => ?_⟩
  obtain ⟨u, hu⟩ := far.exists_before
  exact List.not_mem_nil ((h.mem u).mpr hu)

lemma Levelled.getD (h : Levelled g a l seen level) (enough : Enough g count seen level) (i : Nat) :
    ((levelsFrom g count seen level).getD i []).Nodup ∧
      ∀ v, v ∈ (levelsFrom g count seen level).getD i [] ↔ g.IsDistance a v (l + i) := by
  induction count generalizing l seen level i with
  | zero =>
    have empty : level = [] := by
      by_contra held
      exact Nat.not_lt_zero _ (enough held)
    subst empty
    exact h.getD_nil i
  | succ count ih =>
    by_cases held : level = []
    · subst held
      exact levelsFrom_nil g .. ▸ h.getD_nil i
    · rw [levelsFrom_succ held]
      cases i with
      | zero => exact ⟨h.distinct, h.mem⟩
      | succ i =>
        have rest := ih h.next (enough.next held) i
        rwa [Nat.add_right_comm] at rest

/-! The queue -/

lemma length_untaken (new : v ∉ seen) :
    (g.edges.filter (·.source ∉ seen ++ [v])).length + (g.successors v).length =
      (g.edges.filter (·.source ∉ seen)).length := by
  have own : (g.edges.filter (·.source ∉ seen)).filter (·.source = v) = g.outgoing v := by
    rw [List.filter_filter, Flow.outgoing]
    exact List.filter_congr fun e _ => by grind
  have others : (g.edges.filter (·.source ∉ seen)).filter (fun e => ! decide (e.source = v)) =
      g.edges.filter (·.source ∉ seen ++ [v]) := by
    rw [List.filter_filter]
    exact List.filter_congr fun e _ => by grind
  rw [Flow.successors, List.length_map, ← own, ← others, Nat.add_comm,
    ← List.length_eq_length_filter_add]

/-- Empties a queue of steps, each with the level at which it was met. A step counts the first time it
is taken; what it leads to is met a level below, unless it was taken before. -/
def drain (g : Flow) (seen : List String) : List (String × Nat) → List (String × Nat)
  | [] => []
  | (v, l) :: queue =>
    if v ∈ seen then drain g seen queue
    else
      let met := (g.successors v).filter (· ∉ seen ++ [v])
      (v, l) :: drain g (seen ++ [v]) (queue ++ met.map (·, l + 1))
termination_by queue => queue.length + (g.edges.filter (·.source ∉ seen)).length
decreasing_by
  · simp
  · -- a step is taken with its connections, and no more than those is put behind
    have untaken := length_untaken (g := g) (by assumption : v ∉ seen)
    have fewer := List.length_filter_le (· ∉ seen ++ [v]) (g.successors v)
    rw [List.length_append, List.length_map, List.length_cons]
    omega

lemma drain_seen {queue : List (String × Nat)} (old : v ∈ seen) :
    drain g seen ((v, l) :: queue) = drain g seen queue := by
  rw [drain, if_pos old]

lemma drain_new {queue : List (String × Nat)} (new : v ∉ seen) :
    drain g seen ((v, l) :: queue) = (v, l) :: drain g (seen ++ [v])
      (queue ++ ((g.successors v).filter (· ∉ seen ++ [v])).map (·, l + 1)) := by
  rw [drain, if_neg new]

def fresh (seen met : List String) : List String := (met.filter (! seen.contains ·)).eraseDups

lemma fresh_seen {met : List String} (old : v ∈ seen) : fresh seen (v :: met) = fresh seen met := by
  simp [fresh, old]

lemma fresh_new {met : List String} (new : v ∉ seen) :
    fresh seen (v :: met) = v :: fresh (seen ++ [v]) met := by
  have kept : (met.filter (! seen.contains ·)).filter (fun w => !w == v) =
      met.filter (! (seen ++ [v]).contains ·) := by
    rw [List.filter_filter]
    exact List.filter_congr fun w _ => by by_cases h : w = v <;> simp [h]
  rw [fresh, List.filter_cons_of_pos (by simpa using new), List.eraseDups_cons, kept, fresh]

lemma drain_level (g : Flow) (seen : List String) (l : Nat) (met : List String)
    (later : List (String × Nat)) :
    ∃ below : List String, below.filter (! (seen ++ fresh seen met).contains ·) =
        ((fresh seen met).flatMap g.successors).filter (! (seen ++ fresh seen met).contains ·) ∧
      drain g seen (met.map (·, l) ++ later) = (fresh seen met).map (·, l) ++
        drain g (seen ++ fresh seen met) (later ++ below.map (·, l + 1)) := by
  induction met generalizing seen later with
  | nil => exact ⟨[], rfl, by simp [fresh]⟩
  | cons v met ih =>
    by_cases old : v ∈ seen
    · rw [fresh_seen old, List.map_cons, List.cons_append, drain_seen old]
      exact ih seen later
    · let led := (g.successors v).filter (· ∉ seen ++ [v])
      obtain ⟨below, waiting, rest⟩ := ih (seen ++ [v]) (later ++ led.map (·, l + 1))
      rw [fresh_new old, List.map_cons, List.cons_append, drain_new old, List.append_assoc, rest,
        List.append_cons seen v]
      refine ⟨led ++ below, ?_, by simp [led]⟩
      -- a step taken in the meantime may be waiting still, and does not count
      have kept : led.filter (! (seen ++ [v] ++ fresh (seen ++ [v]) met).contains ·) =
          (g.successors v).filter (! (seen ++ [v] ++ fresh (seen ++ [v]) met).contains ·) := by
        rw [List.filter_filter]
        exact List.filter_congr fun w _ => by grind
      rw [List.filter_append, kept, waiting, List.flatMap_cons, List.filter_append]

lemma drain_old {met : List String} (old : ∀ v ∈ met, v ∈ seen) :
    drain g seen (met.map (·, l)) = [] := by
  induction met with
  | nil => rw [List.map_nil, drain]
  | cons v met ih =>
    rw [List.map_cons, drain_seen (old v (by simp))]
    exact ih fun w hw => old w (List.mem_cons_of_mem v hw)

lemma fresh_eq_nil_iff {met : List String} : fresh seen met = [] ↔ ∀ v ∈ met, v ∈ seen := by
  simp only [fresh, List.eq_nil_iff_forall_not_mem, List.mem_eraseDups, List.mem_filter, not_and,
    Bool.not_eq_true', List.contains_eq_mem, decide_eq_false_iff_not, not_not]

def numbered (l : Nat) : List (List String) → List (String × Nat)
  | [] => []
  | row :: rows => row.map (·, l) ++ numbered (l + 1) rows

lemma drain_eq_numbered {met : List String} (enough : Enough g count seen (fresh seen met)) :
    drain g seen (met.map (·, l)) = numbered l (levelsFrom g count seen (fresh seen met)) := by
  induction count generalizing seen l met with
  | zero =>
    have none : fresh seen met = [] := by
      by_contra held
      exact Nat.not_lt_zero _ (enough held)
    rw [drain_old (fresh_eq_nil_iff.mp none), levelsFrom, numbered]
  | succ count ih =>
    by_cases held : fresh seen met = []
    · rw [drain_old (fresh_eq_nil_iff.mp held), held, levelsFrom_nil, numbered]
    · obtain ⟨below, waiting, rest⟩ := drain_level g seen l met []
      have next : fresh (seen ++ fresh seen met) below =
          nextLevel g (seen ++ fresh seen met) (fresh seen met) := by
        rw [fresh, waiting, nextLevel]
      rw [List.append_nil, List.nil_append] at rest
      rw [rest, ih (next ▸ enough.next held), next, levelsFrom_succ held, numbered]

lemma le_of_mem_numbered {rows : List (List String)} (h : (v, l) ∈ numbered count rows) :
    count ≤ l := by
  induction rows generalizing count with
  | nil => exact absurd h List.not_mem_nil
  | cons row rows ih =>
    rcases List.mem_append.mp h with here | below
    · obtain ⟨_, -, same⟩ := List.mem_map.mp here
      exact (Prod.mk.inj same).2.le
    · exact (Nat.le_succ count).trans (ih below)

lemma row_numbered (rows : List (List String)) (l i : Nat) :
    ((numbered l rows).filter (·.2 = l + i)).map Prod.fst = rows.getD i [] := by
  induction rows generalizing l i with
  | nil => rfl
  | cons row rows ih =>
    rw [numbered, List.filter_append, List.map_append]
    cases i with
    | zero =>
      have whole : (row.map (·, l)).filter (·.2 = l + 0) = row.map (·, l) :=
        List.filter_eq_self.mpr (by simp)
      have none : (numbered (l + 1) rows).filter (·.2 = l + 0) = [] := by
        refine List.filter_eq_nil_iff.mpr fun p hp same => ?_
        have deeper : l + 1 ≤ p.2 := le_of_mem_numbered hp
        have here : p.2 = l + 0 := of_decide_eq_true same
        omega
      rw [whole, none, List.map_map, List.map_nil, List.append_nil]
      exact List.map_id row
    | succ i =>
      have none : (row.map (·, l)).filter (·.2 = l + (i + 1)) = [] := by simp
      have rest := ih (l + 1) i
      rw [Nat.add_assoc, Nat.add_comm 1] at rest
      simp [none, rest]

/-! Placement -/

variable {start : Node}

lemma levels_eq (hs : g.start? = some start) :
    levels g = levelsFrom g (g.edges.length + 1) [] [start.id] := by
  rw [levels, hs]

lemma row_drain (hs : g.start? = some start) (l : Nat) :
    ((drain g [] [(start.id, 0)]).filter (·.2 = l)).map Prod.fst = (levels g).getD l [] := by
  have first : fresh [] [start.id] = [start.id] := by simp [fresh, List.eraseDups_cons]
  have queued := drain_eq_numbered (l := 0) (first.symm ▸ Enough.start g start.id)
  rw [first, ← levels_eq hs, List.map_singleton] at queued
  simpa [queued] using row_numbered (levels g) 0 l

lemma level_getD (hs : g.start? = some start) (l : Nat) :
    ((levels g).getD l []).Nodup ∧
      ∀ v, v ∈ (levels g).getD l [] ↔ g.IsDistance start.id v l := by
  have found := (Levelled.start g start.id).getD (Enough.start g start.id) l
  rwa [← levels_eq hs, Nat.zero_add] at found

lemma nodup_flatten_levels (hs : g.start? = some start) : (levels g).flatten.Nodup := by
  have row (l : Nat) (hl : l < (levels g).length) :
      (levels g)[l] = (levels g).getD l [] := by simp [hl]
  refine List.nodup_flatten.mpr ⟨fun row' hr => ?_, List.pairwise_iff_getElem.mpr ?_⟩
  · obtain ⟨l, hl, rfl⟩ := List.mem_iff_getElem.mp hr
    exact row l hl ▸ (level_getD hs l).1
  · intro l m hl hm lt v hv hv'
    rw [row, (level_getD hs _).2] at hv hv'
    exact lt.ne (hv.unique hv')

lemma lookup_slots_levels (hs : g.start? = some start) {i : Nat}
    (hv : ((levels g).getD l [])[i]? = some v) :
    (slots (levels g)).lookup v = some ⟨l, i, ((levels g).getD l []).length⟩ := by
  have distinct : ((slots (levels g)).map Prod.fst).Nodup :=
    keys_slots (levels g) ▸ nodup_flatten_levels hs
  refine lookup_of_mem distinct (mem_slots.mpr ⟨_, ?_, hv, rfl⟩)
  cases hr : (levels g)[l]? with
  | none => simp [hr] at hv
  | some row => simp [hr]

lemma lookup_byLevel {s : LevelSpacing Length} {p : Position} (known : (v, p) ∈ current g) :
    (byLevel s g).lookup v = some (match (slots (levels g)).lookup v with
      | some slot => (levelPoint s slot).toPosition
      | none => p) := by
  refine lookup_of_mem ?_ (List.mem_map_of_mem known)
  exact keys_byLevel (s := s) ▸ nodup_eraseDups _

lemma exists_current (known : v ∈ g.ids) : ∃ p, (v, p) ∈ current g :=
  ⟨_, List.mem_map_of_mem (List.mem_eraseDups.mpr known)⟩

lemma mem_current {before after : List Node} {n : Node} (split : g.nodes = before ++ n :: after)
    (last : n.id ∉ after.map (·.id)) : (n.id, n.position) ∈ current g := by
  have known : n.id ∈ g.nodes.map (·.id) := by simp [split]
  have found : g.nodes.reverse.find? (·.id = n.id) = some n := by
    have later : after.reverse.find? (·.id = n.id) = none := by simpa using last
    simp [split, later]
  exact List.mem_map.mpr ⟨n.id, List.mem_eraseDups.mpr known, by rw [found]; rfl⟩

lemma mem_ids_of_reaches (hs : g.start? = some start) (closed : ∀ e ∈ g.edges, e.target ∈ g.ids)
    (way : ReflTransGen g.Leads start.id v) : v ∈ g.ids := by
  cases way with
  | refl => exact List.mem_map_of_mem (List.mem_of_find?_eq_some hs)
  | tail _ lead =>
    obtain ⟨e, he, -, rfl⟩ := lead
    exact closed e he

lemma lookup_slots_eq_none (hs : g.start? = some start)
    (far : ¬ ReflTransGen g.Leads start.id v) : (slots (levels g)).lookup v = none := by
  by_contra placed
  obtain ⟨slot, hslot⟩ := Option.ne_none_iff_exists'.mp placed
  obtain ⟨_, _, split, -⟩ := List.lookup_eq_some_iff.mp hslot
  obtain ⟨row, hr, hi, -⟩ := mem_slots.mp (split ▸ List.mem_append_right _ List.mem_cons_self)
  have held : v ∈ (levels g).getD slot.row [] := by
    rw [List.getD_eq_getElem?_getD, hr]
    exact List.mem_of_getElem? hi
  exact far (((level_getD hs slot.row).2 v).mp held).1.reaches

lemma levelPoint_rational (s : LevelSpacing ℚ) {slot : Slot} (held : 1 ≤ slot.size) :
    @levelPoint ℚ rational s slot =
      ⟨s.center - (slot.size - 1) * s.x / 2 + slot.index * s.x, s.top + slot.row * s.y⟩ := by
  have shift : ((slot.size - 1 : Nat) : ℚ) = slot.size - 1 := by
    rw [Nat.cast_sub held, Nat.cast_one]
  rw [← shift]
  rfl

/-- A step to which the start leads is placed at its distance from the start; a level is made up of
the steps at one distance, in the order in which the queue gives them, and each has a place of its own
there. All other steps stay where they are, and there are no further entries. -/
theorem levels_by_distance {g : Flow} {start : Node} (hs : g.start? = some start)
    (closed : ∀ e ∈ g.edges, e.target ∈ g.ids) :
    let row (l : Nat) := ((drain g [] [(start.id, 0)]).filter (·.2 = l)).map Prod.fst
    (∀ l, (row l).Nodup ∧ ∀ v, v ∈ row l ↔ g.IsDistance start.id v l) ∧
    (∀ v, ReflTransGen g.Leads start.id v ↔ ∃ l, v ∈ row l) ∧
    (∀ l (i : Nat) v, (row l)[i]? = some v → ∀ s,
      (byLevel s g).lookup v = some (levelPoint s ⟨l, i, (row l).length⟩).toPosition) ∧
    (∀ l (i : Nat) v, (row l)[i]? = some v → ∀ s : LevelSpacing ℚ,
      @levelPoint ℚ rational s ⟨l, i, (row l).length⟩ =
        ⟨s.center - ((row l).length - 1) * s.x / 2 + i * s.x, s.top + l * s.y⟩) ∧
    (∀ before n after, g.nodes = before ++ n :: after → n.id ∉ after.map (·.id) →
      ¬ ReflTransGen g.Leads start.id n.id → ∀ s, (byLevel s g).lookup n.id = some n.position) ∧
    ∀ s, (byLevel s g).map Prod.fst = g.ids.eraseDups := by
  intro row
  have level (l : Nat) : row l = (levels g).getD l [] := row_drain hs l
  have found (l : Nat) : (row l).Nodup ∧ ∀ v, v ∈ row l ↔ g.IsDistance start.id v l :=
    level l ▸ level_getD hs l
  have reached (v : String) : ReflTransGen g.Leads start.id v ↔ ∃ l, v ∈ row l := by
    simp only [fun l => (found l).2 v]
    exact ⟨Flow.exists_distance, fun ⟨_, hops, _⟩ => hops.reaches⟩
  refine ⟨found, reached, fun l i v hv s => ?_, fun l i v hv s => ?_, ?_, fun s => keys_byLevel⟩
  · have way := (reached v).mpr ⟨l, List.mem_of_getElem? hv⟩
    obtain ⟨p, known⟩ := exists_current (mem_ids_of_reaches hs closed way)
    rw [level l] at hv ⊢
    rw [lookup_byLevel known, lookup_slots_levels hs hv]
  · exact levelPoint_rational s (List.length_pos_of_mem (List.mem_of_getElem? hv))
  · intro before n after split last far s
    rw [lookup_byLevel (mem_current split last), lookup_slots_eq_none hs far]

def detached : Flow :=
  { recurring with
    nodes := recurring.nodes ++ [Flow.step "message-2" 50.0 60.0 "Aside" (.message none)] }

theorem levels_by_distance_detached :
    detached.start? = some (Flow.step "start-1" 0.0 0.0 "Call Starts" .start) ∧
    (∀ e ∈ detached.edges, e.target ∈ detached.ids) ∧
    (byLevel .standard detached).lookup "end-1" =
      some (levelPoint .standard ⟨1, 1, 2⟩).toPosition ∧
    (byLevel .standard detached).lookup "message-2" = some ⟨50.0, 60.0⟩ := by
  have hs : detached.start? = some (Flow.step "start-1" 0.0 0.0 "Call Starts" .start) := rfl
  have closed : ∀ e ∈ detached.edges, e.target ∈ detached.ids := by
    simp [detached, recurring, Flow.ids, Flow.step, Flow.arrow]
  obtain ⟨-, -, placed, -, kept, -⟩ := levels_by_distance hs closed
  have below : ((drain detached [] [("start-1", 0)]).filter (·.2 = 1)).map Prod.fst =
      ["message-1", "end-1"] := (row_drain hs 1).trans (by decide)
  have far : ¬ ReflTransGen detached.Leads "start-1" "message-2" := by
    intro way
    rcases way.cases_tail with same | ⟨_, -, e, he, -, target⟩
    · exact absurd same (by decide)
    · exact (by decide : ∀ e ∈ detached.edges, e.target ≠ "message-2") e he target
  have last := placed 1 1 "end-1"
  simp only [Flow.step, below] at last
  exact ⟨hs, closed, last rfl .standard, kept recurring.nodes _ [] rfl List.not_mem_nil far _⟩

end Layout

end Dialogue
