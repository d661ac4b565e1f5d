import Dialogue.Proofs.Session.Expiring
import Dialogue.Session.Manager

/-! The manager never has more than one operation under way, so that what it does is a run of
operations which could have overlapped. -/

namespace Dialogue.Session

open Call Registry

def handOver (e : Event) (k : Engine) : Engine := k.submit [e]

lemma Manager.submit_eq_ok [Limits] {m n : Manager} {id : String} {raw : Json}
    (submitted : m.submit id raw = .ok n) :
    ∃ r, m.registry.submit handOver (m.now.after m.settings.lifetime) id raw = .ok r ∧
      n = settle { m with registry := r } := by
  rw [Manager.submit] at submitted
  change Except.map _ (m.registry.submit handOver _ _ _) = _ at submitted
  cases result : m.registry.submit handOver (m.now.after m.settings.lifetime) id raw with
  | error e => simp [result, Except.map] at submitted
  | ok r =>
    rw [result] at submitted
    exact ⟨r, rfl, (Except.ok.inj submitted).symm⟩

inductive Managed [Limits] : Manager → Prop
  | fresh (settings : Settings) (reach : Reach) : Managed { settings := settings, reach := reach }
  | openCall {m : Manager} (id : String) (g : Flow) : Managed m → Managed (m.openCall id g).2
  | submit {m n : Manager} {id : String} {raw : Json} :
      Managed m → m.submit id raw = .ok n → Managed n
  | close {m n : Manager} {id : String} {last : Json} :
      Managed m → m.close id = some (last, n) → Managed n
  | closeAll {m : Manager} : Managed m → Managed m.closeAll
  | advanceTo {m : Manager} (moment : Micros) : Managed m → Managed (m.advanceTo moment)

def Reached (log : Log) (r : Registry Engine) : Prop :=
  ∃ b, Run handOver log b ∧ b.opening = none ∧ b.registry = r

namespace Reached

variable {log : Log} {r : Registry Engine} {id : String}

lemma serve (h : Reached log r) (q : Request) :
    ∃ b, Run handOver log (Switchboard.serve b q) ∧ b.opening = none ∧ b.registry = r := by
  obtain ⟨b, run, unlocked, same⟩ := h
  have asked := run.next (Step.ask b q)
  exact ⟨_, asked.next (@Step.serve _ _ _ b.waiting [] q unlocked rfl), unlocked, same⟩

lemma openCall (h : Reached log r) (id : String) (engine : Engine) :
    Reached log (r.openCall id engine) := by
  obtain ⟨b, run, -, rfl⟩ := h.serve (.openCall id)
  exact ⟨_, run.next (Step.register engine rfl), rfl, rfl⟩

lemma remove (h : Reached log r) (id : String) : Reached log (r.remove id) := by
  obtain ⟨b, run, unlocked, rfl⟩ := h.serve (.close id)
  exact ⟨_, run, unlocked, rfl⟩

lemma closeAll (h : Reached log r) : Reached log r.closeAll := by
  obtain ⟨b, run, unlocked, rfl⟩ := h.serve .closeAll
  exact ⟨_, run, unlocked, rfl⟩

lemma work (h : Reached log r) (step : Entry Engine → Engine) :
    Reached log { r with sessions := r.sessions.map fun s => { s with engine := step s } } := by
  obtain ⟨b, run, unlocked, rfl⟩ := h
  exact ⟨_, run.next (Step.work b step), unlocked, rfl⟩

lemma submit {due : Micros} {raw : Json} {after : Registry Engine} (h : Reached log r)
    (submitted : r.submit handOver due id raw = .ok after) :
    ∃ accepted, Reached (log ++ accepted) after := by
  obtain ⟨b, run, unlocked, rfl⟩ := h
  have accepted := submitted
  rw [Registry.submit] at accepted
  split at accepted
  · cases accepted
  next s found =>
    split at accepted
    · cases accepted
    next e read => exact ⟨_, _, run.step (Step.accept found read submitted), unlocked, rfl⟩

lemma expire {x : Expiry} (h : Reached log r) (hx : x ∈ r.expiries) :
    Reached log (r.expire x) := by
  obtain ⟨b, run, unlocked, rfl⟩ := h
  obtain ⟨t, ht, rfl⟩ := List.mem_map.mp (run.exact.timers ▸ hx)
  have awake : { t with woken := true } ∈ (b.wake t.expiry).timers :=
    List.mem_map.mpr ⟨t, ht, if_pos rfl⟩
  have woken := run.next (Step.wake ht)
  exact ⟨_, woken.next (Step.expire unlocked awake rfl), unlocked, rfl⟩

lemma expire_all {due : List Expiry} (h : Reached log r) (listed : due ⊆ r.expiries)
    (single : (due.map (·.id)).Nodup) : Reached log (due.foldl (fun r x => r.expire x) r) := by
  induction due generalizing r with
  | nil => exact h
  | cons x due ih =>
    obtain ⟨hx, listed⟩ := List.cons_subset.mp listed
    obtain ⟨alone, single⟩ := List.nodup_cons.mp single
    refine ih (h.expire hx) (fun y hy => ?_) single
    have other : y.id ≠ x.id := fun same => alone (List.mem_map.mpr ⟨y, hy, same⟩)
    exact List.mem_filter.mpr ⟨listed hy, decide_eq_true other⟩

lemma expireDue (h : Reached log r) (now : Micros) : Reached log (r.expireDue now) := by
  refine h.expire_all (List.filter_subset_self _) ?_
  obtain ⟨b, run, -, rfl⟩ := h
  exact run.exact.single.sublist (List.filter_sublist.map _)

end Reached

theorem Managed.reached [Limits] {m : Manager} (managed : Managed m) : ∃ log, Reached log m.registry := by
  induction managed with
  | fresh settings reach => exact ⟨[], {}, Run.start, rfl, rfl⟩
  | openCall id g _ ih =>
    obtain ⟨log, before⟩ := ih
    exact ⟨log, before.openCall id _⟩
  | @submit m n id raw _ submitted ih =>
    obtain ⟨log, before⟩ := ih
    obtain ⟨r, taken, rfl⟩ := Manager.submit_eq_ok submitted
    obtain ⟨accepted, after⟩ := before.submit taken
    exact ⟨_, after.expireDue _⟩
  | @close m n id last _ closed ih =>
    obtain ⟨log, before⟩ := ih
    rw [Manager.close, Registry.close, Option.map_map, Option.map_eq_some_iff] at closed
    obtain ⟨s, -, same⟩ := closed
    obtain rfl := congrArg Prod.snd same
    exact ⟨log, before.remove id⟩
  | closeAll _ ih =>
    obtain ⟨log, before⟩ := ih
    exact ⟨log, before.closeAll⟩
  | advanceTo moment _ ih =>
    obtain ⟨log, before⟩ := ih
    exact ⟨log, (before.work _).expireDue moment⟩

end Dialogue.Session
