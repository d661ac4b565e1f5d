import Dialogue.Proofs.Session.Overlap
import Mathlib.Data.List.Nodup

/-! Expiries under overlapping operations. A timer waits for a call exactly as long as the call is
registered and its last turn was its end or a failure, so that no timer drops a call that was opened
anew or has started again. -/

namespace Dialogue.Session

open Call

variable {E : Type} {deliver : Event → E → E} {b c : Switchboard E} {log : Log} {r : Registry E}
  {s : Entry E} {x : Expiry} {id : String} {p q : String × Nat} {due : Micros} {e : Event}

def Registry.numbering (r : Registry E) : List (String × Nat) :=
  r.sessions.map fun s => (s.id, s.number)

namespace Registry

lemma map_fst_numbering : r.numbering.map Prod.fst = r.ids := by
  simp [numbering, ids]

lemma mem_numbering (hs : s ∈ r.sessions) : (s.id, s.number) ∈ r.numbering :=
  List.mem_map.mpr ⟨s, hs, rfl⟩

lemma id_of_find? (h : r.find? id = some s) : s.id = id := of_decide_eq_true (List.find?_some h :)

lemma mem_numbering_of_find? (h : r.find? id = some s) : (id, s.number) ∈ r.numbering :=
  id_of_find? h ▸ mem_numbering (List.mem_of_find?_eq_some h)

lemma find?_of_mem_numbering (distinct : r.ids.Nodup) (h : p ∈ r.numbering) :
    ∃ s, r.find? p.1 = some s ∧ s.number = p.2 := by
  obtain ⟨s, hs, rfl⟩ := List.mem_map.mp h
  have found : (r.find? s.id).isSome = true :=
    List.find?_isSome.mpr ⟨s, hs, decide_eq_true rfl⟩
  obtain ⟨t, ht⟩ := Option.isSome_iff_exists.mp found
  obtain rfl :=
    List.inj_on_of_nodup_map distinct (List.mem_of_find?_eq_some ht) hs (id_of_find? ht)
  exact ⟨t, ht, rfl⟩

lemma numbering_remove : (r.remove id).numbering = r.numbering.filter (·.1 ≠ id) := by
  simp [numbering, remove, List.filter_map, Function.comp_def]

lemma numbering_update (f : E → E) : (r.update id f).numbering = r.numbering := by
  rw [numbering, update, List.map_map]
  refine List.map_congr_left fun s _ => ?_
  by_cases h : s.id = id <;> simp [h]

lemma numbering_expire : (r.expire x).numbering = r.numbering.filter (· ≠ (x.id, x.number)) := by
  simp [numbering, expire, spare, List.filter_map, Function.comp_def]

lemma expiries_expire : (r.expire x).expiries = r.expiries.filter (·.id ≠ x.id) := rfl

lemma submit_eq {deliver : Event → E → E} {raw : Json} (found : r.find? id = some s)
    (read : Event.ofJson raw = .ok e) :
    r.submit deliver due id raw = .ok ((r.update id (deliver e)).noteEvent due s e) := by
  simp only [submit, found, read]

/-! What an event does to the registry, whatever the event. -/

lemma numbering_noteEvent : (r.noteEvent due s e).numbering = r.numbering := by
  cases e <;> rfl

lemma opened_noteEvent : (r.noteEvent due s e).opened = r.opened := by
  cases e <;> rfl

lemma scheduled_noteEvent : (r.noteEvent due s e).scheduled =
    r.scheduled + if finishes e then 1 else 0 := by
  cases e <;> rfl

def fresh (r : Registry E) (due : Micros) (s : Entry E) (e : Event) : List Expiry :=
  if finishes e then [⟨s.id, s.number, due, r.scheduled⟩] else []

lemma mem_fresh : x ∈ r.fresh due s e ↔
    finishes e = true ∧ x = ⟨s.id, s.number, due, r.scheduled⟩ := by
  rw [fresh]
  split <;> simp_all

lemma expiries_noteEvent : (r.noteEvent due s e).expiries =
    r.expiries.filter (fun x => x.id ≠ s.id || !turns e) ++ r.fresh due s e := by
  cases e <;> simp [noteEvent, schedule, spare, turns, finishes, fresh]

lemma numbering_register (engine : E) :
    (r.register id engine).numbering = r.numbering ++ [(id, r.opened)] := by
  simp [numbering, register]

end Registry

open Registry

structure Exact (log : Log) (b : Switchboard E) : Prop where
  scheduled : b.registry.scheduled = log.countP (finishes ·.2)
  logged : ∀ a ∈ log, a.1 < b.registry.opened
  numbered : ∀ p ∈ b.registry.numbering, p.2 < b.registry.opened
  numbers : (b.registry.numbering.map Prod.snd).Nodup
  ids : (b.registry.numbering.map Prod.fst).Nodup
  free : ∀ id, b.opening = some id → id ∉ b.registry.numbering.map Prod.fst
  timers : b.timers.map (·.expiry) = b.registry.expiries
  single : (b.registry.expiries.map (·.id)).Nodup
  call : ∀ x ∈ b.registry.expiries, (x.id, x.number) ∈ b.registry.numbering
  set : ∀ x ∈ b.registry.expiries, SetBy log x
  pending : ∀ p ∈ b.registry.numbering, Ended log p.2 → ∃ x ∈ b.registry.expiries, x.id = p.1

/-! Which timers an operation leaves. -/

lemma timers_adopt {keep : Expiry → Bool} {fresh : List Expiry}
    (timers : b.timers.map (·.expiry) = b.registry.expiries)
    (expiries : r.expiries = b.registry.expiries.filter keep ++ fresh)
    (new : ∀ x ∈ fresh, x ∉ b.registry.expiries) :
    (b.adopt r).timers.map (·.expiry) = r.expiries := by
  have kept : ∀ t ∈ b.timers, (t.expiry ∉ b.registry.expiries || t.expiry ∈ r.expiries) =
      keep t.expiry := by
    intro t ht
    have known : t.expiry ∈ b.registry.expiries := timers ▸ List.mem_map_of_mem ht
    have old : t.expiry ∉ fresh := fun there => new _ there known
    simp [expiries, known, old]
  have started : r.expiries.filter (· ∉ b.registry.expiries) = fresh := by
    have none : (b.registry.expiries.filter keep).filter (· ∉ b.registry.expiries) = [] := by
      refine List.filter_eq_nil_iff.mpr fun x hx => ?_
      simpa using (List.mem_filter.mp hx).1
    rw [expiries, List.filter_append, none, List.nil_append]
    exact List.filter_eq_self.mpr fun x hx => by simpa using new x hx
  have map : (b.timers.filter fun t => keep t.expiry).map (·.expiry) =
      b.registry.expiries.filter keep := by
    rw [← timers, List.filter_map]
    rfl
  rw [Switchboard.adopt, List.map_append, List.filter_congr kept, map, started, List.map_map,
    expiries]
  simp [Function.comp_def]

namespace Exact

lemma start : Exact [] ({} : Switchboard E) where
  scheduled := rfl
  logged := by simp
  numbered := by simp [numbering]
  numbers := List.nodup_nil
  ids := List.nodup_nil
  free := by simp
  timers := rfl
  single := List.nodup_nil
  call := by simp
  set := by simp
  pending := by simp [numbering]

lemma eq_of_id (h : Exact log b) (hp : p ∈ b.registry.numbering) (hq : q ∈ b.registry.numbering)
    (same : p.1 = q.1) : p = q :=
  List.inj_on_of_nodup_map h.ids hp hq same

lemma eq_of_number (h : Exact log b) (hp : p ∈ b.registry.numbering)
    (hq : q ∈ b.registry.numbering) (same : p.2 = q.2) : p = q :=
  List.inj_on_of_nodup_map h.numbers hp hq same

lemma thin (h : Exact log b) {keep : String × Nat → Bool} {keepExpiry : Expiry → Bool}
    (opened : c.registry.opened = b.registry.opened)
    (scheduled : c.registry.scheduled = b.registry.scheduled)
    (numbering : c.registry.numbering = b.registry.numbering.filter keep)
    (expiries : c.registry.expiries = b.registry.expiries.filter keepExpiry)
    (together : ∀ p ∈ b.registry.numbering, ∀ x ∈ b.registry.expiries, x.id = p.1 →
      keep p = keepExpiry x)
    (timers : c.timers.map (·.expiry) = c.registry.expiries)
    (free : ∀ id, c.opening = some id → id ∉ c.registry.numbering.map Prod.fst) :
    Exact log c where
  scheduled := scheduled.trans h.scheduled
  logged a ha := opened ▸ h.logged a ha
  numbered p hp := by
    rw [numbering] at hp
    exact opened ▸ h.numbered p (List.mem_filter.mp hp).1
  numbers := by
    rw [numbering]
    exact h.numbers.sublist (List.filter_sublist.map _)
  ids := by
    rw [numbering]
    exact h.ids.sublist (List.filter_sublist.map _)
  free := free
  timers := timers
  single := by
    rw [expiries]
    exact h.single.sublist (List.filter_sublist.map _)
  call x hx := by
    rw [expiries, List.mem_filter] at hx
    rw [numbering, List.mem_filter]
    exact ⟨h.call x hx.1, (together _ (h.call x hx.1) x hx.1 rfl).trans hx.2⟩
  set x hx := by
    rw [expiries] at hx
    exact h.set x (List.mem_filter.mp hx).1
  pending p hp ended := by
    rw [numbering, List.mem_filter] at hp
    obtain ⟨x, hx, same⟩ := h.pending p hp.1 ended
    rw [expiries]
    exact ⟨x, List.mem_filter.mpr ⟨hx, (together p hp.1 x hx same).symm.trans hp.2⟩, same⟩

lemma of_eq (h : Exact log b) (opened : c.registry.opened = b.registry.opened)
    (scheduled : c.registry.scheduled = b.registry.scheduled)
    (numbering : c.registry.numbering = b.registry.numbering)
    (expiries : c.registry.expiries = b.registry.expiries)
    (timers : c.timers.map (·.expiry) = b.timers.map (·.expiry))
    (opening : ∀ id, c.opening = some id → b.opening = some id) : Exact log c := by
  have calls : c.registry.numbering = b.registry.numbering.filter fun _ => true := by
    rw [numbering, List.filter_true]
  have all : c.registry.expiries = b.registry.expiries.filter fun _ => true := by
    rw [expiries, List.filter_true]
  refine h.thin opened scheduled calls all (fun _ _ _ _ _ => rfl) ?_ ?_
  · rw [timers, h.timers, expiries]
  · exact fun id isOpening => numbering ▸ h.free id (opening id isOpening)

lemma serve (h : Exact log b) (unlocked : b.opening = none) (q : Request) :
    Exact log (b.serve q) := by
  have removal (id : String) :
      (b.adopt (b.registry.remove id)).timers.map (·.expiry) = (b.registry.remove id).expiries :=
    timers_adopt h.timers (List.append_nil _).symm (by simp)
  have together (id : String) : ∀ p ∈ b.registry.numbering, ∀ x ∈ b.registry.expiries,
      x.id = p.1 → decide (p.1 ≠ id) = decide (x.id ≠ id) := fun p _ x _ same => by rw [same]
  cases q with
  | openCall id =>
    refine h.thin rfl rfl numbering_remove rfl (together id) (removal id) ?_
    intro other isOpening there
    obtain ⟨p, hp, rfl⟩ := List.mem_map.mp there
    have kept : p ∈ b.registry.numbering.filter (·.1 ≠ id) := numbering_remove ▸ hp
    have this : id = p.1 := Option.some.inj isOpening
    simp [this] at kept
  | close id =>
    refine h.thin rfl rfl numbering_remove rfl (together id) (removal id) fun other isOpening => ?_
    exact absurd (unlocked.symm.trans isOpening) (by simp)
  | closeAll =>
    have none : b.registry.closeAll.expiries = b.registry.expiries.filter fun _ => false := by
      rw [List.filter_false]
      rfl
    have timers : (b.adopt b.registry.closeAll).timers.map (·.expiry) =
        b.registry.closeAll.expiries :=
      timers_adopt h.timers (none.trans (List.append_nil _).symm) (by simp)
    refine h.thin rfl rfl ?_ none (fun _ _ _ _ _ => rfl) timers fun other isOpening => ?_
    · rw [List.filter_false]
      rfl
    · exact absurd (unlocked.symm.trans isOpening) (by simp)

lemma register (h : Exact log b) (opening : b.opening = some id) (engine : E) :
    Exact log (b.register id engine) where
  scheduled := h.scheduled
  logged a ha := Nat.lt_succ_of_lt (h.logged a ha)
  numbered p hp := by
    rcases List.mem_append.mp (numbering_register engine ▸ hp) with hp | hp
    · exact Nat.lt_succ_of_lt (h.numbered p hp)
    · exact List.mem_singleton.mp hp ▸ Nat.lt_succ_self _
  numbers := by
    have new : b.registry.opened ∉ b.registry.numbering.map Prod.snd := by
      intro there
      obtain ⟨p, hp, same⟩ := List.mem_map.mp there
      exact absurd same (Nat.ne_of_lt (h.numbered p hp))
    rw [show (b.register id engine).registry.numbering = _ from numbering_register engine,
      List.map_append]
    exact h.numbers.append (List.nodup_singleton _) (by simpa using new)
  ids := by
    rw [show (b.register id engine).registry.numbering = _ from numbering_register engine,
      List.map_append]
    exact h.ids.append (List.nodup_singleton _) (by simpa using h.free id opening)
  free := by simp [Switchboard.register]
  timers := h.timers
  single := h.single
  call x hx := by
    rw [show (b.register id engine).registry.numbering = _ from numbering_register engine]
    exact List.mem_append_left _ (h.call x hx)
  set := h.set
  pending p hp ended := by
    rcases List.mem_append.mp (numbering_register engine ▸ hp) with hp | hp
    · exact h.pending p hp ended
    · -- Its engine has not accepted anything yet.
      obtain rfl := List.mem_singleton.mp hp
      obtain ⟨e, turn, -⟩ := ended
      have unnamed : ∀ a ∈ log, a.1 ≠ b.registry.opened := fun a ha => Nat.ne_of_lt (h.logged a ha)
      rw [lastTurn_eq_none unnamed] at turn
      cases turn

lemma wake (h : Exact log b) (x : Expiry) : Exact log (b.wake x) := by
  refine h.of_eq rfl rfl rfl rfl ?_ (fun _ isOpening => isOpening)
  rw [Switchboard.wake, List.map_map]
  refine List.map_congr_left fun t _ => ?_
  by_cases same : t.expiry = x <;> simp [same]

lemma work (h : Exact log b) (step : Entry E → E) : Exact log (b.work step) := by
  refine h.of_eq rfl rfl ?_ rfl rfl (fun _ isOpening => isOpening)
  simp [Switchboard.work, numbering]

lemma expire (h : Exact log b) (unlocked : b.opening = none) (hx : x ∈ b.registry.expiries) :
    Exact log (b.expire x) := by
  refine h.thin rfl rfl numbering_expire expiries_expire ?_ ?_ fun other isOpening => ?_
  · intro p hp y hy same
    have iff : p = (x.id, x.number) ↔ y.id = x.id := by
      constructor
      · rintro rfl
        exact same
      · intro alike
        exact h.eq_of_id hp (h.call x hx) (same.symm.trans alike)
    simp [iff]
  · have iff : ∀ y ∈ b.registry.expiries, decide (y ≠ x) = decide (y.id ≠ x.id) := by
      intro y hy
      have : y = x ↔ y.id = x.id :=
        ⟨fun same => same ▸ rfl, fun same => List.inj_on_of_nodup_map h.single hy hx same⟩
      simp [this]
    calc (b.expire x).timers.map (·.expiry)
        = (b.timers.map (·.expiry)).filter (· ≠ x) := by
          rw [Switchboard.expire, List.filter_map]
          rfl
      _ = b.registry.expiries.filter (·.id ≠ x.id) := by rw [h.timers, List.filter_congr iff]
  · exact absurd (unlocked.symm.trans isOpening) (by simp)

lemma accept (h : Exact log b) (hs : s ∈ b.registry.sessions)
    (opened : r.opened = b.registry.opened) (numbering : r.numbering = b.registry.numbering)
    (scheduled : r.scheduled = b.registry.scheduled + if finishes e then 1 else 0)
    (expiries : r.expiries = b.registry.expiries.filter (fun x => x.id ≠ s.id || !turns e) ++
      b.registry.fresh due s e) :
    Exact (log ++ [(s.number, e)]) (b.adopt r) := by
  have own : (s.id, s.number) ∈ b.registry.numbering := mem_numbering hs
  constructor
  case scheduled =>
    have : (b.adopt r).registry.scheduled = _ := scheduled
    rw [this, h.scheduled, List.countP_append, List.countP_singleton]
  case logged =>
    intro a ha
    have : (b.adopt r).registry.opened = _ := opened
    rw [this]
    rcases List.mem_append.mp ha with ha | ha
    · exact h.logged a ha
    · exact List.mem_singleton.mp ha ▸ h.numbered _ own
  case numbered => exact fun p hp => opened ▸ h.numbered p (numbering ▸ hp)
  case numbers => exact numbering ▸ h.numbers
  case ids => exact numbering ▸ h.ids
  case free => exact fun id isOpening => numbering ▸ h.free id isOpening
  case timers =>
    refine timers_adopt h.timers expiries fun x hx there => ?_
    obtain ⟨-, rfl⟩ := mem_fresh.mp hx
    exact absurd (h.set _ there).ticket_lt (by simp [h.scheduled])
  case single =>
    have : (b.adopt r).registry.expiries = _ := expiries
    rw [this, List.map_append]
    refine (h.single.sublist (List.filter_sublist.map _)).append ?_ ?_
    · rw [fresh]
      split <;> simp
    · intro id hid there
      obtain ⟨y, hy, rfl⟩ := List.mem_map.mp hid
      obtain ⟨x, hx, same⟩ := List.mem_map.mp there
      obtain ⟨ends, rfl⟩ := mem_fresh.mp hx
      have kept := (List.mem_filter.mp hy).2
      simp [← same, turns_of_finishes ends] at kept
  case call =>
    intro x hx
    have : (b.adopt r).registry.numbering = _ := numbering
    rw [this]
    rcases List.mem_append.mp (expiries ▸ hx) with hx | hx
    · exact h.call x (List.mem_filter.mp hx).1
    · obtain ⟨-, rfl⟩ := mem_fresh.mp hx
      exact own
  case set =>
    intro x hx
    rcases List.mem_append.mp (expiries ▸ hx) with hx | hx
    · obtain ⟨hx, kept⟩ := List.mem_filter.mp hx
      refine (h.set x hx).snoc fun same => ?_
      have alike : x.id = s.id :=
        congrArg Prod.fst (h.eq_of_number (h.call x hx) own same.symm)
      simpa [alike] using kept
    · obtain ⟨ends, rfl⟩ := mem_fresh.mp hx
      exact setBy_snoc (x := ⟨s.id, s.number, due, b.registry.scheduled⟩) ends h.scheduled
  case pending =>
    intro p hp ended
    have hp : p ∈ b.registry.numbering := numbering ▸ hp
    have : (b.adopt r).registry.expiries = _ := expiries
    rw [this]
    by_cases turn : s.number = p.2 ∧ turns e = true
    · obtain rfl : (s.id, s.number) = p := h.eq_of_number own hp turn.1
      obtain ⟨last, same, ends⟩ := ended
      rw [lastTurn_snoc_of_turn turn.1 turn.2] at same
      obtain rfl : e = last := Option.some.inj same
      exact ⟨_, List.mem_append_right _ (mem_fresh.mpr ⟨ends, rfl⟩), rfl⟩
    · have other : s.number = p.2 → turns e = false :=
        fun same => Bool.eq_false_iff.mpr fun isTurn => turn ⟨same, isTurn⟩
      have before : Ended log p.2 := by
        rwa [Ended, lastTurn_snoc_of_other other] at ended
      obtain ⟨x, hx, same⟩ := h.pending p hp before
      refine ⟨x, List.mem_append_left _ (List.mem_filter.mpr ⟨hx, ?_⟩), same⟩
      by_cases alike : x.id = s.id
      · have : (s.id, s.number) = p := h.eq_of_id own hp (alike.symm.trans same)
        simp [other (this ▸ rfl)]
      · simp [alike]

end Exact

lemma Step.exact {accepted : Log} (step : Step deliver b accepted c) (h : Exact log b) :
    Exact (log ++ accepted) c := by
  cases step with
  | ask q =>
    rw [List.append_nil]
    exact h.of_eq rfl rfl rfl rfl rfl fun _ isOpening => isOpening
  | @serve before after q unlocked asked =>
    rw [List.append_nil]
    have ready : Exact log { b with waiting := before ++ after } :=
      h.of_eq rfl rfl rfl rfl rfl fun _ isOpening => isOpening
    exact ready.serve unlocked q
  | register engine opening =>
    rw [List.append_nil]
    exact h.register opening engine
  | giveUp opening =>
    rw [List.append_nil]
    exact h.of_eq rfl rfl rfl rfl rfl fun _ isOpening => absurd isOpening (by simp)
  | accept found read accepted =>
    rw [submit_eq found read] at accepted
    obtain rfl := Except.ok.inj accepted
    refine h.accept (List.mem_of_find?_eq_some found) opened_noteEvent ?_ scheduled_noteEvent
      expiries_noteEvent
    rw [numbering_noteEvent, numbering_update]
  | refuse refused =>
    rw [List.append_nil]
    exact h
  | wake asleep =>
    rw [List.append_nil]
    exact h.wake _
  | expire unlocked waiting woken =>
    rw [List.append_nil]
    exact h.expire unlocked (h.timers ▸ List.mem_map_of_mem waiting)
  | work step =>
    rw [List.append_nil]
    exact h.work step

theorem Run.exact (run : Run deliver log b) : Exact log b := by
  induction run with
  | start => exact Exact.start
  | step _ step before => exact step.exact before

namespace Exact

variable {t : Timer}

lemma of_timer (h : Exact log b) (ht : t ∈ b.timers) : t.expiry ∈ b.registry.expiries :=
  h.timers ▸ List.mem_map_of_mem ht

lemma call_of_timer (h : Exact log b) (ht : t ∈ b.timers) :
    ∃ s, b.registry.find? t.expiry.id = some s ∧ s.number = t.expiry.number ∧ SetBy log t.expiry := by
  have listed := h.of_timer ht
  obtain ⟨s, found, same⟩ := find?_of_mem_numbering (map_fst_numbering ▸ h.ids) (h.call _ listed)
  exact ⟨s, found, same, h.set _ listed⟩

lemma timer_iff (h : Exact log b) :
    (∃ t ∈ b.timers, t.expiry.id = id) ↔ ∃ s, b.registry.find? id = some s ∧ Ended log s.number := by
  constructor
  · rintro ⟨t, ht, rfl⟩
    obtain ⟨s, found, same, set⟩ := h.call_of_timer ht
    exact ⟨s, found, same ▸ set.ended⟩
  · rintro ⟨s, found, ended⟩
    obtain ⟨x, hx, same⟩ := h.pending _ (mem_numbering_of_find? found) ended
    obtain ⟨t, ht, rfl⟩ := List.mem_map.mp (h.timers ▸ hx)
    exact ⟨t, ht, same⟩

lemma countP_timers_le_one (h : Exact log b) (id : String) :
    b.timers.countP (·.expiry.id = id) ≤ 1 := by
  have distinct : (b.timers.map (·.expiry.id)).Nodup := by
    have := h.single
    rwa [← h.timers, List.map_map] at this
  calc b.timers.countP (·.expiry.id = id)
      = (b.timers.map (·.expiry.id)).count id := by
        rw [List.count, List.countP_map]
        exact List.countP_congr fun t _ => by simp
    _ ≤ 1 := List.nodup_iff_count_le_one.mp distinct id

lemma dropped (h : Exact log b) (ht : t ∈ b.timers)
    (gone : s ∉ (b.expire t.expiry).registry.sessions) (hs : s ∈ b.registry.sessions) :
    s.number = t.expiry.number ∧ SetBy log t.expiry := by
  refine ⟨?_, h.set _ (h.of_timer ht)⟩
  by_contra other
  exact gone (List.mem_filter.mpr ⟨hs, by simp [other]⟩)

end Exact

/-- Timers and expiries correspond one to one. There is a timer for a call id just when a call is open
under it whose last turn was its end or a failure; it is the only one, it is for the engine that is
open, and this turn set it. What a timer drops is the engine that it was set for, and only if that has
accepted no turn since. -/
theorem expiry_is_exact (run : Run deliver log b) :
    b.timers.map (·.expiry) = b.registry.expiries ∧
      (∀ id, (∃ t ∈ b.timers, t.expiry.id = id) ↔
        ∃ s, b.registry.find? id = some s ∧ Ended log s.number) ∧
      (∀ id, b.timers.countP (·.expiry.id = id) ≤ 1) ∧
      (∀ t ∈ b.timers, ∃ s, b.registry.find? t.expiry.id = some s ∧
        s.number = t.expiry.number ∧ SetBy log t.expiry) ∧
      ∀ t ∈ b.timers, ∀ s ∈ b.registry.sessions, s ∉ (b.expire t.expiry).registry.sessions →
        s.number = t.expiry.number ∧ SetBy log t.expiry := by
  have exact := run.exact
  exact ⟨exact.timers, fun id => exact.timer_iff, exact.countP_timers_le_one,
    fun t ht => exact.call_of_timer ht, fun t ht s hs gone => exact.dropped ht gone hs⟩

theorem waiting_timer_is_exact :
    ∃ (log : Log) (b : Switchboard (List Event)), Run (fun e q => q ++ [e]) log b ∧
      b.opening = some "b" ∧ b.timers.map (fun t => (t.expiry.id, t.woken)) = [("a", true)] ∧
      ∃ s, b.registry.find? "a" = some s ∧ Ended log s.number := by
  have empty : Run (fun e (q : List Event) => q ++ [e]) [] {} := Run.start
  have asked := empty.next (Step.ask _ (.openCall "a"))
  have served := asked.next (@Step.serve _ _ _ [] [] _ rfl rfl)
  have opened := served.next (Step.register [] rfl)
  have ended := opened.step (@Step.accept _ _ _ 1800000000 "a"
    (.object [("type", .text "call-end")]) _ _ _ rfl rfl rfl)
  have asked := ended.next (Step.ask _ (.openCall "b"))
  have served := asked.next (@Step.serve _ _ _ [] [] _ rfl rfl)
  have woken := served.next (Step.wake (List.mem_singleton_self _))
  obtain ⟨-, pending, -⟩ := expiry_is_exact woken
  exact ⟨_, _, woken, rfl, rfl, (pending "a").mp ⟨_, List.mem_singleton_self _, rfl⟩⟩

end Dialogue.Session
