import Dialogue.Call.Engine
import Dialogue.Proofs.Call.Run
import Mathlib.Data.List.Forall2
import Mathlib.Algebra.Order.Group.Multiset
import Mathlib.Tactic.Abel

/-! The engine keeps to the steps of a run: whatever it is asked to do and whenever its helpers
answer, a run goes where the engine goes. Work that the engine gives up is under way there for
ever. -/

namespace Dialogue.Call

variable {S : Stage} {e : Engine} {σ : Scene} {left works : List Work} {w : Work}

lemma Run.finish {M : Multiset Work} {is : List Input}
    (h : (σ.underway : Multiset Work) = w ::ₘ M) (ends : w.Ends is) :
    ∃ u : List Work, (u : Multiset Work) = M ∧ Run S σ [] ⟨σ.tracker, σ.queue ++ is, u⟩ := by
  have among : w ∈ σ.underway := by
    rw [← Multiset.mem_coe, h]
    exact Multiset.mem_cons_self w M
  obtain ⟨ws, vs, hw⟩ := List.append_of_mem among
  refine ⟨ws ++ vs, ?_, .single (.finish hw ends)⟩
  have middle : ((ws ++ w :: vs : List Work) : Multiset Work) = w ::ₘ ↑(ws ++ vs) :=
    Multiset.coe_eq_coe.mpr List.perm_middle
  exact (Multiset.cons_inj_right w).mp (middle.symm.trans (hw ▸ h))

namespace Engine

def stage (e : Engine) : Stage := ⟨e.flow, e.surroundings.helpers, e.surroundings.refuses⟩

def Waits {α : Type} (w : Work) (p : Pending α) : Prop := ∀ answer, w.Ends [p.report answer]

structure Plays (S : Stage) (left : List Work) (e : Engine) (σ : Scene) : Prop where
  stage : e.stage = S
  tracker : σ.tracker = e.tracker
  queue : σ.queue = e.queue
  underway : ∃ timed asked sought gone : List Work,
    List.Forall₂ (fun w (t : Timer) => w.Ends [t.input]) timed e.timers ∧
    List.Forall₂ Waits asked e.classifying ∧ List.Forall₂ Waits sought e.lookingUp ∧
    (σ.underway : Multiset Work) = ↑timed + ↑asked + ↑sought + ↑left + ↑gone

def isLeft (e : Engine) : Work → Bool
  | .completion _ _ _ isEnding => decide ¬ e.delay isEnding > 0.0
  | _ => false

lemma begin_surroundings (e : Engine) (w : Work) :
    (e.begin w).surroundings = e.surroundings ∧ (e.begin w).flow = e.flow := by
  cases w <;> simp only [begin, push] <;> repeat' split
  all_goals simp

lemma foldl_begin_surroundings (e : Engine) (works : List Work) :
    (works.foldl Engine.begin e).surroundings = e.surroundings := by
  induction works generalizing e with
  | nil => rfl
  | cons w rest ih => exact (ih _).trans (e.begin_surroundings w).1

lemma finish_surroundings (e : Engine) (w : Work) :
    (e.finish w).surroundings = e.surroundings ∧ (e.finish w).flow = e.flow := by
  cases w <;> simp only [finish, push] <;> repeat' split
  all_goals simp

lemma isLeft_eq {f : Engine} (h : f.surroundings = e.surroundings) : f.isLeft = e.isLeft := by
  funext w
  cases w <;> simp [isLeft, delay, h]

namespace Plays

lemma drop (h : Plays S (w :: left) e σ) : Plays S left e σ := by
  obtain ⟨stage, tracker, queue, timed, asked, sought, gone, ht, ha, hs, hu⟩ := h
  refine ⟨stage, tracker, queue, timed, asked, sought, w :: gone, ht, ha, hs, ?_⟩
  simp only [← Multiset.cons_coe, ← Multiset.singleton_add] at hu ⊢
  rw [hu]
  abel

lemma postpone (h : Plays S (w :: left) e σ) : Plays S (left ++ [w]) e σ := by
  obtain ⟨stage, tracker, queue, timed, asked, sought, gone, ht, ha, hs, hu⟩ := h
  refine ⟨stage, tracker, queue, timed, asked, sought, gone, ht, ha, hs, ?_⟩
  rw [hu, ← Multiset.coe_add, ← Multiset.cons_coe, Multiset.coe_singleton,
    ← Multiset.singleton_add]
  abel

lemma time {t : Timer} (h : Plays S (w :: left) e σ) (ends : w.Ends [t.input]) :
    Plays S left { e with timers := e.timers ++ [t] } σ := by
  obtain ⟨stage, tracker, queue, timed, asked, sought, gone, ht, ha, hs, hu⟩ := h
  refine ⟨stage, tracker, queue, timed ++ [w], asked, sought, gone,
    List.rel_append ht (.cons ends .nil), ha, hs, ?_⟩
  rw [hu, ← Multiset.coe_add, ← Multiset.cons_coe, Multiset.coe_singleton,
    ← Multiset.singleton_add]
  abel

lemma ask {p : Pending (Option String)} (h : Plays S (w :: left) e σ) (waits : Waits w p) :
    Plays S left { e with classifying := e.classifying ++ [p] } σ := by
  obtain ⟨stage, tracker, queue, timed, asked, sought, gone, ht, ha, hs, hu⟩ := h
  refine ⟨stage, tracker, queue, timed, asked ++ [w], sought, gone, ht,
    List.rel_append ha (.cons waits .nil), hs, ?_⟩
  rw [hu, ← Multiset.coe_add, ← Multiset.cons_coe, Multiset.coe_singleton,
    ← Multiset.singleton_add]
  abel

lemma seek {p : Pending Lookup.Result} (h : Plays S (w :: left) e σ) (waits : Waits w p) :
    Plays S left { e with lookingUp := e.lookingUp ++ [p] } σ := by
  obtain ⟨stage, tracker, queue, timed, asked, sought, gone, ht, ha, hs, hu⟩ := h
  refine ⟨stage, tracker, queue, timed, asked, sought ++ [w], gone, ht, ha,
    List.rel_append hs (.cons waits .nil), ?_⟩
  rw [hu, ← Multiset.coe_add, ← Multiset.cons_coe, Multiset.coe_singleton,
    ← Multiset.singleton_add]
  abel

lemma report {i : Input} (h : Plays S (w :: left) e σ) (ends : w.Ends [i]) :
    ∃ τ, Run S σ [] τ ∧ Plays S left (e.push i) τ := by
  obtain ⟨stage, tracker, queue, timed, asked, sought, gone, ht, ha, hs, hu⟩ := h
  obtain ⟨u, hu, run⟩ : ∃ u : List Work,
      (u : Multiset Work) = ↑timed + ↑asked + ↑sought + ↑left + ↑gone ∧
        Run S σ [] ⟨σ.tracker, σ.queue ++ [i], u⟩ := by
    refine Run.finish ?_ ends
    rw [hu, ← Multiset.cons_coe, ← Multiset.singleton_add, ← Multiset.singleton_add]
    abel
  exact ⟨_, run, stage, tracker, congrArg (· ++ [i]) queue, timed, asked, sought, gone, ht, ha, hs,
    hu⟩

lemma begin (h : Plays S (w :: left) e σ) :
    ∃ τ, Run S σ [] τ ∧ Plays S (left ++ [w].filter e.isLeft) (e.begin w) τ := by
  cases w with
  | completion epoch node clears isEnding =>
    have ends : (Work.completion epoch node clears isEnding).Ends [.completed epoch node clears] :=
      .completion ..
    by_cases hd : e.delay isEnding > 0.0
    · refine ⟨σ, .nil σ, ?_⟩
      simpa [Engine.begin, isLeft, hd] using h.time (t := ⟨_, _⟩) ends
    · refine ⟨σ, .nil σ, ?_⟩
      simpa [Engine.begin, isLeft, hd] using h.postpone
  | classification epoch ticket branch utterance candidates =>
    rw [show [_].filter e.isLeft = [] from rfl, List.append_nil]
    have noted : Plays S (.classification epoch ticket branch utterance candidates :: left)
        { e with asked := e.asked ++ [(utterance, candidates)] } σ :=
      ⟨h.stage, h.tracker, h.queue, h.underway⟩
    simp only [Engine.begin]
    cases e.surroundings.classify utterance candidates with
    | now intent => exact noted.report (.classification ..)
    | later => exact ⟨σ, .nil σ, noted.ask fun intent => .classification ..⟩
  | lookup epoch node spec phone =>
    rw [show [_].filter e.isLeft = [] from rfl, List.append_nil]
    have noted : Plays S (.lookup epoch node spec phone :: left)
        { e with lookedUp := e.lookedUp ++ [(spec, phone)] } σ :=
      ⟨h.stage, h.tracker, h.queue, h.underway⟩
    simp only [Engine.begin]
    cases e.surroundings.lookup with
    | none => exact ⟨σ, .nil σ, noted.drop⟩
    | some answer =>
      dsimp only
      cases answer e.lookedUp.length spec phone with
      | now result => exact noted.report (.lookup ..)
      | later => exact ⟨σ, .nil σ, noted.seek fun result => .lookup ..⟩
  | injection handle context =>
    rw [show [_].filter e.isLeft = [] from rfl, List.append_nil]
    have dropped := h.drop
    exact ⟨σ, .nil σ, dropped.stage, dropped.tracker, dropped.queue, dropped.underway⟩

lemma beginAll (h : Plays S (works ++ left) e σ) :
    ∃ τ, Run S σ [] τ ∧ Plays S (left ++ works.filter e.isLeft) (works.foldl Engine.begin e) τ := by
  induction works generalizing left e σ with
  | nil => exact ⟨σ, .nil σ, by simpa using h⟩
  | cons w rest ih =>
    rw [List.cons_append] at h
    obtain ⟨τ, run, hτ⟩ := h.begin
    rw [List.append_assoc] at hτ
    obtain ⟨υ, run', hυ⟩ := ih hτ
    refine ⟨υ, run.trans run', ?_⟩
    rw [isLeft_eq (e.begin_surroundings w).1, List.append_assoc, ← List.filter_append] at hυ
    exact hυ

lemma finishAll (h : Plays S (works.filter e.isLeft) e σ) :
    ∃ τ, Run S σ [] τ ∧ Plays S [] (works.foldl Engine.finish e) τ := by
  induction works generalizing e σ with
  | nil => exact ⟨σ, .nil σ, h⟩
  | cons w rest ih =>
    have next : ∃ τ, Run S σ [] τ ∧ Plays S (rest.filter e.isLeft) (e.finish w) τ := by
      cases w with
      | completion epoch node clears isEnding =>
        by_cases hd : e.delay isEnding > 0.0
        · refine ⟨σ, .nil σ, ?_⟩
          simpa [Engine.finish, isLeft, hd] using h
        · have h' : Plays S (.completion epoch node clears isEnding :: rest.filter e.isLeft)
              e σ := by simpa [isLeft, hd] using h
          simpa [Engine.finish, hd] using h'.report (.completion ..)
      | _ => exact ⟨σ, .nil σ, h⟩
    obtain ⟨τ, run, hτ⟩ := next
    rw [← isLeft_eq (e.finish_surroundings w).1] at hτ
    obtain ⟨υ, run', hυ⟩ := ih hτ
    exact ⟨υ, run.trans run', hυ⟩

end Plays

namespace Plays

lemma takeAll {is : List Input} (h : Plays S left { e with queue := is } σ) :
    ∃ ms τ, Run S σ ms τ ∧ Plays S (left ++ (applyAll { e with queue := [] } is).2)
      (applyAll { e with queue := [] } is).1 τ := by
  induction is generalizing e σ left with
  | nil => exact ⟨[], σ, .nil σ, by simpa [applyAll] using h⟩
  | cons i rest ih =>
    obtain ⟨t, queue, under⟩ := σ
    obtain ⟨rfl, rfl, rfl, timed, asked, sought, gone, ht, ha, hs, hu⟩ := h
    have taken : Step e.stage ⟨e.tracker, i :: rest, under⟩
        (some (e.stage.moment e.surroundings.stamp e.tracker i))
        ⟨(e.applyOne i).1.tracker, rest, under ++ (e.applyOne i).2⟩ :=
      .take e.surroundings.stamp rfl
    have after : Plays e.stage (left ++ (e.applyOne i).2) { (e.applyOne i).1 with queue := rest }
        ⟨(e.applyOne i).1.tracker, rest, under ++ (e.applyOne i).2⟩ := by
      refine ⟨rfl, rfl, rfl, timed, asked, sought, gone, ht, ha, hs, ?_⟩
      rw [← Multiset.coe_add, ← Multiset.coe_add, hu]
      abel
    obtain ⟨ms, τ, run, hτ⟩ := ih after
    rw [List.append_assoc] at hτ
    exact ⟨_, τ, .cons taken run, hτ⟩

lemma round (h : Plays S [] e σ) : ∃ ms τ, Run S σ ms τ ∧ Plays S [] e.round τ := by
  have queued : Plays S [] { e with queue := e.queue } σ := h
  obtain ⟨ms, τ, run, taken⟩ := queued.takeAll
  simp only [Engine.round]
  generalize applyAll { e with queue := [] } e.queue = applied at taken ⊢
  obtain ⟨f, works⟩ := applied
  have started : Plays S (works ++ []) f τ := by simpa using taken
  obtain ⟨υ, run', begun⟩ := started.beginAll
  rw [List.nil_append, ← isLeft_eq (foldl_begin_surroundings f works)] at begun
  obtain ⟨ρ, run'', hρ⟩ := begun.finishAll
  exact ⟨_, ρ, (run.trans run').trans run'', hρ⟩

lemma settle (h : Plays S [] e σ) : ∃ ms τ, Run S σ ms τ ∧ Plays S [] e.settle τ := by
  unfold Engine.settle
  split
  · obtain ⟨ms, τ, run, hτ⟩ := h.round
    obtain ⟨ns, υ, run', hυ⟩ := hτ.round
    exact ⟨_, υ, run.trans run', hυ⟩
  · exact ⟨_, σ, .nil σ, h⟩

lemma submitted (h : Plays S [] e σ) (es : List Event) :
    ∃ τ, Run S σ [] τ ∧ Plays S [] { e with queue := e.queue ++ es.map .event } τ := by
  induction es generalizing e σ with
  | nil => exact ⟨σ, .nil σ, h.stage, h.tracker, by simpa using h.queue, h.underway⟩
  | cons f rest ih =>
    have pushed : Plays S [] (e.push (.event f)) { σ with queue := σ.queue ++ [.event f] } :=
      ⟨h.stage, h.tracker, congrArg (· ++ [.event f]) h.queue, h.underway⟩
    obtain ⟨τ, run, hτ⟩ := ih pushed
    refine ⟨τ, .cons (.submit σ f) run, hτ.stage, hτ.tracker, ?_, hτ.underway⟩
    simpa [push] using hτ.queue

lemma submit (h : Plays S [] e σ) (es : List Event) :
    ∃ ms τ, Run S σ ms τ ∧ Plays S [] (e.submit es) τ := by
  obtain ⟨τ, run, hτ⟩ := h.submitted es
  obtain ⟨ms, υ, run', hυ⟩ := hτ.settle
  exact ⟨_, υ, run.trans run', hυ⟩

lemma start (h : Plays S [] e σ) : ∃ ms τ, Run S σ ms τ ∧ Plays S [] e.start τ := by
  have running : Plays S [] { e with running := true } σ :=
    ⟨h.stage, h.tracker, h.queue, h.underway⟩
  exact running.settle

lemma stop (h : Plays S [] e σ) : Plays S [] e.stop σ :=
  ⟨h.stage, h.tracker, h.queue, [], [], [], σ.underway, .nil, .nil, .nil, by simp⟩

end Plays

lemma earliest_eq_some {ts : List Timer} {t : Timer} (h : earliest ts = some t) :
    ∃ before after, ts = before ++ t :: after ∧ withoutFirst t.due ts = before ++ after := by
  induction ts generalizing t with
  | nil => simp [earliest] at h
  | cons u rest ih =>
    have first : ∃ before after, u :: rest = before ++ u :: after ∧
        withoutFirst u.due (u :: rest) = before ++ after := ⟨[], rest, rfl, by simp [withoutFirst]⟩
    simp only [earliest] at h
    cases later : earliest rest with
    | none =>
      obtain rfl : u = t := by simpa [later] using h
      exact first
    | some v =>
      simp only [later] at h
      split_ifs at h with sooner
      · obtain rfl : v = t := by simpa using h
        obtain ⟨before, after, rfl, hw⟩ := ih later
        refine ⟨u :: before, after, rfl, ?_⟩
        rw [withoutFirst, if_neg (Nat.ne_of_gt sooner), hw, List.cons_append]
      · obtain rfl : u = t := by simpa using h
        exact first

lemma forall₂_remove {α β : Type} {R : α → β → Prop} {xs : List α} {before after : List β} {y : β}
    (h : List.Forall₂ R xs (before ++ y :: after)) :
    ∃ x kept, R x y ∧ List.Forall₂ R kept (before ++ after) ∧
      (xs : Multiset α) = x ::ₘ (kept : Multiset α) := by
  induction before generalizing xs with
  | nil =>
    cases h with
    | @cons x _ kept _ hx hk => exact ⟨x, kept, hx, hk, rfl⟩
  | cons b before ih =>
    cases h with
    | @cons z _ zs _ hz hzs =>
      obtain ⟨x, kept, hx, hk, hm⟩ := ih hzs
      refine ⟨x, z :: kept, hx, .cons hz hk, ?_⟩
      rw [← Multiset.cons_coe, hm, ← Multiset.cons_coe, Multiset.cons_swap]

lemma forall₂_filter {α β : Type} {R : α → β → Prop} {xs : List α} {ys : List β} (q : β → Bool)
    (h : List.Forall₂ R xs ys) :
    ∃ kept lost : List α, List.Forall₂ R kept (ys.filter q) ∧
      (xs : Multiset α) = (kept : Multiset α) + lost := by
  induction h with
  | nil => exact ⟨[], [], .nil, rfl⟩
  | @cons x y xs ys hx _ ih =>
    obtain ⟨kept, lost, hk, hm⟩ := ih
    cases hq : q y with
    | true =>
      rw [List.filter_cons_of_pos hq]
      refine ⟨x :: kept, lost, .cons hx hk, ?_⟩
      rw [← Multiset.cons_coe, hm, ← Multiset.cons_coe, Multiset.cons_add]
    | false =>
      rw [List.filter_cons_of_neg (by simp [hq])]
      refine ⟨kept, x :: lost, hk, ?_⟩
      rw [← Multiset.cons_coe, hm, ← Multiset.cons_coe, Multiset.add_cons]

lemma forall₂_removeNumber {α : Type} {ws : List Work} {ps : List (Pending α)} {p : Pending α}
    {number : Nat} (h : List.Forall₂ Waits ws ps) (found : ps.find? (·.number = number) = some p) :
    ∃ w, ∃ kept lost : List Work, Waits w p ∧
      List.Forall₂ Waits kept (removeNumber number ps) ∧
      (ws : Multiset Work) = w ::ₘ ((kept : Multiset Work) + lost) := by
  obtain ⟨named, before, after, rfl, -⟩ := List.find?_eq_some_iff_append.mp found
  obtain ⟨w, others, hw, ho, hm⟩ := forall₂_remove h
  obtain ⟨kept, lost, hk, hl⟩ := forall₂_filter (·.number ≠ number) ho
  refine ⟨w, kept, lost, hw, ?_, by rw [hm, hl]⟩
  simpa [removeNumber, List.filter_append, of_decide_eq_true named] using hk

namespace Plays

lemma fire {t : Timer} (h : Plays S [] e σ) (due : earliest e.timers = some t) :
    ∃ ms τ, Run S σ ms τ ∧ Plays S [] (e.fire t) τ := by
  obtain ⟨stage, tracker, queue, timed, asked, sought, gone, ht, ha, hs, hu⟩ := h
  obtain ⟨before, after, timers, rest⟩ := earliest_eq_some due
  rw [timers] at ht
  obtain ⟨w, kept, ends, hk, hm⟩ := forall₂_remove ht
  have waiting : Plays S [w]
      { e with now := max e.now t.due, timers := withoutFirst t.due e.timers } σ := by
    refine ⟨stage, tracker, queue, kept, asked, sought, gone, rest ▸ hk, ha, hs, ?_⟩
    rw [hu, hm, ← Multiset.singleton_add, Multiset.coe_nil, Multiset.coe_singleton]
    abel
  obtain ⟨τ, run, hτ⟩ := waiting.report ends
  obtain ⟨ms, υ, run', hυ⟩ := hτ.settle
  exact ⟨_, υ, run.trans run', hυ⟩

lemma fireDue (h : Plays S [] e σ) (limit : Option Micros) (count : Nat) :
    ∃ ms τ, Run S σ ms τ ∧ Plays S [] (fireDue limit count e) τ := by
  induction count generalizing e σ with
  | zero => exact ⟨_, σ, .nil σ, h⟩
  | succ count ih =>
    simp only [Engine.fireDue]
    cases due : earliest e.timers with
    | none => exact ⟨_, σ, .nil σ, h⟩
    | some t =>
      dsimp only
      split
      · exact ⟨_, σ, .nil σ, h⟩
      · obtain ⟨ms, τ, run, hτ⟩ := h.fire due
        obtain ⟨ns, υ, run', hυ⟩ := ih hτ
        exact ⟨_, υ, run.trans run', hυ⟩

lemma advanceTo (h : Plays S [] e σ) (moment : Micros) :
    ∃ ms τ, Run S σ ms τ ∧ Plays S [] (e.advanceTo moment) τ := by
  obtain ⟨ms, τ, run, hτ⟩ := h.fireDue (some moment) e.timers.length
  exact ⟨ms, τ, run, hτ.stage, hτ.tracker, hτ.queue, hτ.underway⟩

lemma answerClassification (h : Plays S [] e σ) (number : Nat) (intent : Option String) :
    ∃ ms τ, Run S σ ms τ ∧ Plays S [] (e.answerClassification number intent).1 τ := by
  unfold Engine.answerClassification
  cases found : e.classifying.find? (·.number = number) with
  | none => exact ⟨_, σ, .nil σ, h⟩
  | some p =>
    obtain ⟨stage, tracker, queue, timed, asked, sought, gone, ht, ha, hs, hu⟩ := h
    obtain ⟨w, kept, lost, waits, hk, hm⟩ := forall₂_removeNumber ha found
    have waiting : Plays S [w] { e with classifying := removeNumber number e.classifying } σ := by
      refine ⟨stage, tracker, queue, timed, kept, sought, lost ++ gone, ht, hk, hs, ?_⟩
      rw [hu, hm, ← Multiset.singleton_add, ← Multiset.coe_add, Multiset.coe_nil,
        Multiset.coe_singleton]
      abel
    obtain ⟨τ, run, hτ⟩ := waiting.report (waits intent)
    obtain ⟨ms, υ, run', hυ⟩ := hτ.settle
    exact ⟨_, υ, run.trans run', hυ⟩

lemma answerLookup (h : Plays S [] e σ) (number : Nat) (result : Lookup.Result) :
    ∃ ms τ, Run S σ ms τ ∧ Plays S [] (e.answerLookup number result).1 τ := by
  unfold Engine.answerLookup
  cases found : e.lookingUp.find? (·.number = number) with
  | none => exact ⟨_, σ, .nil σ, h⟩
  | some p =>
    obtain ⟨stage, tracker, queue, timed, asked, sought, gone, ht, ha, hs, hu⟩ := h
    obtain ⟨w, kept, lost, waits, hk, hm⟩ := forall₂_removeNumber hs found
    have waiting : Plays S [w] { e with lookingUp := removeNumber number e.lookingUp } σ := by
      refine ⟨stage, tracker, queue, timed, asked, kept, lost ++ gone, ht, ha, hk, ?_⟩
      rw [hu, hm, ← Multiset.singleton_add, ← Multiset.coe_add, Multiset.coe_nil,
        Multiset.coe_singleton]
      abel
    obtain ⟨τ, run, hτ⟩ := waiting.report (waits result)
    obtain ⟨ms, υ, run', hυ⟩ := hτ.settle
    exact ⟨_, υ, run.trans run', hυ⟩

end Plays

inductive Operation where
  | submit (events : List Event)
  | start
  | stop
  | advanceTo (moment : Micros)
  | drain
  | answerClassification (number : Nat) (intent : Option String)
  | answerLookup (number : Nat) (result : Lookup.Result)

def perform (e : Engine) : Operation → Engine
  | .submit events => e.submit events
  | .start => e.start
  | .stop => e.stop
  | .advanceTo moment => e.advanceTo moment
  | .drain => e.drain
  | .answerClassification number intent => (e.answerClassification number intent).1
  | .answerLookup number result => (e.answerLookup number result).1

lemma Plays.perform (h : Plays S [] e σ) (op : Operation) :
    ∃ ms τ, Run S σ ms τ ∧ Plays S [] (e.perform op) τ := by
  cases op with
  | submit events => exact h.submit events
  | start => exact h.start
  | stop => exact ⟨_, σ, .nil σ, h.stop⟩
  | advanceTo moment => exact h.advanceTo moment
  | drain => exact h.fireDue none e.timers.length
  | answerClassification number intent => exact h.answerClassification number intent
  | answerLookup number result => exact h.answerLookup number result

/-- Wherever an engine gets by what is asked of it, a run gets as well. -/
theorem perform_run (g : Flow) (u : Surroundings) (ops : List Operation) :
    ∃ ms σ, Run ⟨g, u.helpers, u.refuses⟩ {} ms σ ∧
      Plays ⟨g, u.helpers, u.refuses⟩ []
        (ops.foldl perform { flow := g, surroundings := u }) σ := by
  have fresh : Plays ⟨g, u.helpers, u.refuses⟩ [] { flow := g, surroundings := u } {} :=
    ⟨rfl, rfl, rfl, [], [], [], [], .nil, .nil, .nil, rfl⟩
  generalize ({ flow := g, surroundings := u } : Engine) = e at fresh
  generalize ({} : Scene) = σ at fresh ⊢
  induction ops generalizing e σ with
  | nil => exact ⟨[], σ, .nil σ, fresh⟩
  | cons op rest ih =>
    obtain ⟨ms, τ, run, hτ⟩ := fresh.perform op
    obtain ⟨ns, υ, run', hυ⟩ := ih _ _ hτ
    exact ⟨_, υ, run.trans run', hυ⟩

end Engine

end Dialogue.Call
