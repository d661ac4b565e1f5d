import Dialogue.Proofs.Call.Effect
import Dialogue.Proofs.Call.Life

/-! Lives told with their causes: each report comes with the number of the moment that started the
work which it reports. -/

namespace Dialogue.Call

/-- A call and the moments that it has had so far, numbered from zero. Work under way stands with
the number of the moment that started it, a report with the number of its work. -/
structure Trace where
  tracker : Tracker := {}
  queue : List (Option Nat × Input) := []
  underway : List (Nat × Work) := []
  taken : List (Option Nat × Moment) := []

namespace Trace

def scene (τ : Trace) : Scene := ⟨τ.tracker, τ.queue.map Prod.snd, τ.underway.map Prod.snd⟩

def moments (τ : Trace) : List Moment := τ.taken.map Prod.snd

def take (S : Stage) (stamp : Stamp) (τ : Trace) (cause : Option Nat) (i : Input)
    (rest : List (Option Nat × Input)) : Trace where
  tracker := (S.apply stamp τ.tracker i).1
  queue := rest
  underway := τ.underway ++ (S.apply stamp τ.tracker i).2.map (τ.taken.length, ·)
  taken := τ.taken ++ [(cause, S.moment stamp τ.tracker i)]

def hear (S : Stage) (stamp : Stamp) (τ : Trace) (es : List Event) : Trace :=
  es.foldl (fun τ e => τ.take S stamp none (.event e) []) τ

def Started (τ : Trace) (k : Nat) (w : Work) : Prop :=
  ∃ cause m, τ.taken[k]? = some (cause, m) ∧ w ∈ m.started

end Trace

inductive Traced (S : Stage) : Trace → Prop
  | initial : Traced S {}
  | submit {τ : Trace} (e : Event) : Traced S τ →
      Traced S { τ with queue := τ.queue ++ [(none, .event e)] }
  | finish {τ : Trace} {ws vs : List (Nat × Work)} {k : Nat} {w : Work} {is : List Input} :
      Traced S τ → τ.underway = ws ++ (k, w) :: vs → w.Ends is →
      Traced S { τ with queue := τ.queue ++ is.map (some k, ·), underway := ws ++ vs }
  | take {τ : Trace} {cause : Option Nat} {i : Input} {rest : List (Option Nat × Input)}
      (stamp : Stamp) : Traced S τ → τ.queue = (cause, i) :: rest →
      Traced S (τ.take S stamp cause i rest)
  | stop {τ : Trace} : Traced S τ → Traced S { τ with underway := [] }

variable {S : Stage} {σ : Scene} {τ : Trace} {m : Moment} {os : List Occurrence} {w : Work}
  {i : Input} {cause : Option Nat} {k j : Nat}

lemma exists_split_of_map {α β : Type} {f : α → β} {xs : List α} {before after : List β} {y : β}
    (h : xs.map f = before ++ y :: after) :
    ∃ ws x vs, xs = ws ++ x :: vs ∧ ws.map f = before ∧ f x = y ∧ vs.map f = after := by
  obtain ⟨ws, us, rfl, front, back⟩ := List.map_eq_append_iff.mp h
  obtain ⟨x, vs, rfl, here, rest⟩ := List.map_eq_cons_iff.mp back
  exact ⟨ws, x, vs, rfl, front, here, rest⟩

lemma Life.traced (h : Life S {} os σ) :
    ∃ τ, Traced S τ ∧ τ.scene = σ ∧ τ.moments = Call.moments os := by
  induction h with
  | nil => exact ⟨{}, .initial, rfl, rfl⟩
  | step _ hs ih =>
    obtain ⟨τ, traced, rfl, told⟩ := ih
    rw [moments_append, moments_taken, ← told]
    cases hs with
    | submit e => exact ⟨_, traced.submit e, by simp [Trace.scene], by simp [Trace.moments]⟩
    | finish hw ends =>
      obtain ⟨ws, ⟨k, w⟩, vs, split, rfl, rfl, rfl⟩ := exists_split_of_map hw
      exact ⟨_, traced.finish split ends, by simp [Trace.scene, Function.comp_def],
        by simp [Trace.moments]⟩
    | take stamp hq =>
      obtain ⟨⟨cause, i⟩, rest, split, rfl, rfl⟩ := List.map_eq_cons_iff.mp hq
      exact ⟨_, traced.take stamp split, by simp [Trace.scene, Trace.take, Function.comp_def],
        by simp [Trace.moments, Trace.take, Trace.scene]⟩
  | stop _ ih =>
    obtain ⟨τ, traced, rfl, told⟩ := ih
    exact ⟨_, traced.stop, rfl, by simpa using! told⟩

namespace Traced

lemma life (h : Traced S τ) : ∃ os, Life S {} os τ.scene ∧ Call.moments os = τ.moments := by
  induction h with
  | initial => exact ⟨[], .nil _, rfl⟩
  | submit e _ ih =>
    obtain ⟨os, life, told⟩ := ih
    refine ⟨_, ?_, told⟩
    simpa [Trace.scene] using life.step (.submit _ e)
  | @finish τ ws vs k w is _ hw ends ih =>
    obtain ⟨os, life, told⟩ := ih
    refine ⟨_, ?_, told⟩
    have split : τ.scene.underway = ws.map Prod.snd ++ w :: vs.map Prod.snd := by
      simp [Trace.scene, hw]
    simpa [Trace.scene, Function.comp_def] using life.step (.finish split ends)
  | @take τ cause i rest stamp _ hq ih =>
    obtain ⟨os, life, told⟩ := ih
    have first : τ.scene.queue = i :: rest.map Prod.snd := by simp [Trace.scene, hq]
    refine ⟨os ++ [.taken (S.moment stamp τ.tracker i)], ?_, ?_⟩
    · simpa [Trace.scene, Trace.take, Function.comp_def] using life.step (.take stamp first)
    · rw [moments_append, told]
      simp [Trace.moments, Trace.take, Call.moments, Occurrence.moment?]
  | stop _ ih =>
    obtain ⟨os, life, told⟩ := ih
    exact ⟨_, life.stop, by simpa using! told⟩

lemma hear {stamp : Stamp} (h : Traced S τ) (hq : τ.queue = []) (es : List Event) :
    Traced S (τ.hear S stamp es) := by
  induction es generalizing τ with
  | nil => exact h
  | cons e rest ih =>
    obtain ⟨t, queue, ws, taken⟩ := τ
    obtain rfl : queue = [] := hq
    have submitted : Traced S ⟨t, [(none, .event e)], ws, taken⟩ := h.submit e
    exact ih (submitted.take stamp rfl) rfl

lemma before (h : Traced S τ) (hj : τ.taken[j]? = some (cause, m)) :
    ∃ α, Traced S α ∧ α.taken = τ.taken.take j ∧ (cause, m.input) ∈ α.queue ∧
      m = S.moment m.stamp α.tracker m.input := by
  induction h with
  | initial => simp at hj
  | submit _ _ ih | finish _ _ _ ih | stop _ ih => exact ih hj
  | @take τ c i rest stamp h hq ih =>
    simp only [Trace.take] at hj ⊢
    rcases Nat.lt_trichotomy j τ.taken.length with earlier | rfl | later
    · rw [List.getElem?_append_left earlier] at hj
      rw [List.take_append_of_le_length (Nat.le_of_lt earlier)]
      exact ih hj
    · obtain ⟨rfl, rfl⟩ : c = cause ∧ S.moment stamp τ.tracker i = m := by simpa using hj
      exact ⟨τ, h, by simp, by simp [hq], rfl⟩
    · rw [List.getElem?_eq_none (by simp; omega)] at hj
      cases hj

lemma before_of_mem {x : Option Nat × Moment} (h : Traced S τ) (hx : x ∈ τ.taken) :
    ∃ α, Traced S α ∧ (x.1, x.2.input) ∈ α.queue ∧
      x.2 = S.moment x.2.stamp α.tracker x.2.input := by
  obtain ⟨j, hj⟩ := List.getElem?_of_mem hx
  obtain ⟨α, traced, -, queued, hm⟩ := h.before hj
  exact ⟨α, traced, queued, hm⟩

end Traced

namespace Trace

lemma Started.take {stamp : Stamp} {c : Option Nat} {rest : List (Option Nat × Input)}
    (h : τ.Started k w) : (τ.take S stamp c i rest).Started k w := by
  obtain ⟨cause, m, hk, hw⟩ := h
  refine ⟨cause, m, ?_, hw⟩
  rw [Trace.take, List.getElem?_append_left (List.getElem?_eq_some_iff.mp hk).1, hk]

structure Sourced (τ : Trace) : Prop where
  underway : ∀ k w, (k, w) ∈ τ.underway → τ.Started k w
  queue : ∀ cause i, (cause, i) ∈ τ.queue → i.epoch? ≠ none →
    ∃ k w is, cause = some k ∧ τ.Started k w ∧ w.Ends is ∧ i ∈ is

end Trace

lemma Traced.sourced (h : Traced S τ) : τ.Sourced := by
  induction h with
  | initial => exact ⟨by simp, by simp⟩
  | submit e _ ih =>
    refine ⟨ih.underway, fun cause i hi he => ?_⟩
    rcases List.mem_append.mp hi with hi | hi
    · exact ih.queue cause i hi he
    · obtain ⟨rfl, rfl⟩ : cause = none ∧ i = .event e := by simpa using hi
      exact absurd rfl he
  | @finish τ ws vs k w is _ hw ends ih =>
    refine ⟨fun j v hv => ih.underway j v ?_, fun cause i hi he => ?_⟩
    · rw [hw]
      exact List.mem_append.mpr ((List.mem_append.mp hv).imp_right (List.mem_cons_of_mem _))
    rcases List.mem_append.mp hi with hi | hi
    · exact ih.queue cause i hi he
    · obtain ⟨j, hj, rfl, rfl⟩ : ∃ j ∈ is, some k = cause ∧ j = i := by simpa using hi
      exact ⟨k, w, is, rfl, ih.underway k w (by simp [hw]), ends, hj⟩
  | @take τ c j rest stamp _ hq ih =>
    refine ⟨fun k w hw => ?_, fun cause i hi he => ?_⟩
    · rcases List.mem_append.mp hw with hw | hw
      · exact (ih.underway k w hw).take
      · obtain ⟨v, hv, rfl, rfl⟩ : ∃ v ∈ (S.apply stamp τ.tracker j).2,
            τ.taken.length = k ∧ v = w := by simpa using hw
        exact ⟨c, S.moment stamp τ.tracker j, by simp [Trace.take], hv⟩
    · obtain ⟨k, w, is, rfl, started, ends, mem⟩ :=
        ih.queue cause i (hq ▸ List.mem_cons_of_mem _ hi) he
      exact ⟨k, w, is, rfl, started.take, ends, mem⟩
  | stop _ ih => exact ⟨by simp, ih.queue⟩

end Dialogue.Call
