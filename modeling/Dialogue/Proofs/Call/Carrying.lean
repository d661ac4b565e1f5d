import Dialogue.Call.Change
import Mathlib.Tactic.Common

/-! Carrying out changes: what is done is always a first part of the list, and all of it where the
view shows everything. -/

namespace Dialogue.Call

variable {stamp : Stamp} {refuses : ViewOp → Bool} {cs ds : List Change} {t : Tracker}

def follow (stamp : Stamp) (cs : List Change) (t : Tracker) : Tracker :=
  cs.foldl (Change.perform stamp) t

def isShown (stamp : Stamp) (refuses : ViewOp → Bool) : List Change → Tracker → Bool
  | [], _ => true
  | c :: rest, t =>
    !(c.op? t.state).any refuses && isShown stamp refuses rest (c.perform stamp t)

@[simp] lemma perform_state (c : Change) :
    (c.perform stamp t).state = c.onState stamp t.state := rfl

@[simp] lemma perform_tickets (c : Change) :
    (c.perform stamp t).tickets = c.onTickets t.tickets := rfl

@[simp] lemma perform_view (c : Change) :
    (c.perform stamp t).view = Change.onView t.view (c.op? t.state) := rfl

@[simp] lemma follow_nil : follow stamp [] t = t := rfl

@[simp] lemma follow_cons (c : Change) :
    follow stamp (c :: cs) t = follow stamp cs (c.perform stamp t) := rfl

lemma follow_append : follow stamp (cs ++ ds) t = follow stamp ds (follow stamp cs t) :=
  List.foldl_append

lemma follow_invariant {P : Tracker → Prop} (h : P t)
    (step : ∀ c ∈ cs, ∀ u, P u → P (c.perform stamp u)) : P (follow stamp cs t) := by
  induction cs generalizing t with
  | nil => exact h
  | cons c rest ih =>
    exact ih (step c (by simp) t h) fun d hd => step d (by simp [hd])

lemma work_of_refused {s : State} {c : Change} (h : (c.op? s).any refuses = true) :
    c.work? = none := by
  cases c <;> simp_all [Change.op?, Change.work?]

lemma mem_works {w : Work} : w ∈ cs.filterMap Change.work? ↔ .spawn w ∈ cs := by
  have spawned : ∀ c : Change, c.work? = some w ↔ c = .spawn w := by
    intro c
    cases c <;> simp [Change.work?]
  simp [spawned]

lemma carryOut_prefix (stamp : Stamp) (refuses : ViewOp → Bool) (cs : List Change) (t : Tracker) :
    ∃ done, done <+: cs ∧
      carryOut stamp refuses cs t = (follow stamp done t, done.filterMap Change.work?) := by
  induction cs generalizing t with
  | nil => exact ⟨[], List.prefix_rfl, rfl⟩
  | cons c rest ih =>
    by_cases h : (c.op? t.state).any refuses = true
    · refine ⟨[c], by simp, ?_⟩
      simp [carryOut, h, work_of_refused h]
    · obtain ⟨done, hd, he⟩ := ih (c.perform stamp t)
      refine ⟨c :: done, by simpa using hd, ?_⟩
      cases hw : c.work? <;> simp [carryOut, h, he, hw]

lemma carryOut_invariant {P : Tracker → Prop} (h : P t)
    (step : ∀ c ∈ cs, ∀ u, P u → P (c.perform stamp u)) :
    P (carryOut stamp refuses cs t).1 := by
  obtain ⟨done, hd, he⟩ := carryOut_prefix stamp refuses cs t
  rw [he]
  exact follow_invariant h fun c hc => step c (hd.subset hc)

lemma carryOut_cons_of_unseen {c : Change} (h : c.op? t.state = none) :
    carryOut stamp refuses (c :: cs) t =
      ((carryOut stamp refuses cs (c.perform stamp t)).1,
        c.work?.toList ++ (carryOut stamp refuses cs (c.perform stamp t)).2) := by
  simp [carryOut, h]

lemma carryOut_shown (h : isShown stamp refuses cs t = true) :
    carryOut stamp refuses cs t = (follow stamp cs t, cs.filterMap Change.work?) := by
  induction cs generalizing t with
  | nil => rfl
  | cons c rest ih =>
    simp only [isShown, Bool.and_eq_true, Bool.not_eq_true'] at h
    cases hw : c.work? <;> simp [carryOut, h.1, ih h.2, hw]

lemma carryOut_append :
    carryOut stamp refuses (cs ++ ds) t =
      if isShown stamp refuses cs t = true then
        ((carryOut stamp refuses ds (follow stamp cs t)).1,
          cs.filterMap Change.work? ++ (carryOut stamp refuses ds (follow stamp cs t)).2)
      else carryOut stamp refuses cs t := by
  induction cs generalizing t with
  | nil => simp [isShown]
  | cons c rest ih =>
    by_cases h : (c.op? t.state).any refuses = true
    · simp [carryOut, isShown, h]
    · have hr := ih (t := c.perform stamp t)
      cases hw : c.work? <;> by_cases hs : isShown stamp refuses rest (c.perform stamp t) = true <;>
        simp_all [carryOut, isShown]

lemma carryOut_reached {w : Work} (h : w ∈ (carryOut stamp refuses (cs ++ ds) t).2)
    (new : .spawn w ∉ cs) :
    (carryOut stamp refuses (cs ++ ds) t).1 = (carryOut stamp refuses ds (follow stamp cs t)).1 ∧
      w ∈ (carryOut stamp refuses ds (follow stamp cs t)).2 := by
  have fresh : ∀ done, done <+: cs → w ∉ done.filterMap Change.work? :=
    fun done hd hw => new (hd.subset (mem_works.mp hw))
  rw [carryOut_append] at h ⊢
  split_ifs at h ⊢ with shown
  · exact ⟨rfl, (List.mem_append.mp h).resolve_left (fresh cs List.prefix_rfl)⟩
  · obtain ⟨done, hd, he⟩ := carryOut_prefix stamp refuses cs t
    rw [he] at h
    exact absurd h (fresh done hd)

lemma isShown_of_unrefused (h : ∀ c ∈ cs, ∀ s, (c.op? s).any refuses = false) :
    isShown stamp refuses cs t = true := by
  induction cs generalizing t with
  | nil => rfl
  | cons c rest ih =>
    simp only [isShown, h c (by simp), Bool.not_false, Bool.true_and]
    exact ih fun d hd => h d (by simp [hd])

end Dialogue.Call
