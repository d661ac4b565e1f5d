import Dialogue.Proofs.Call.Provenance

/-! Overtaken classifications: once the agent has named another step, the caller has been asked
about again, or the call is over, the answer of a classification has no effect. -/

namespace Dialogue.Call

variable {S : Stage} {σ τ υ : Scene} {m : Moment} {ms : List Moment} {stamp : Stamp}
  {t : Tracker} {i : Input} {epoch ticket : Nat} {branch utterance : String}
  {candidates : List String} {intent : Option String}

structure Overtaken (epoch ticket : Nat) (t : Tracker) : Prop where
  ticket_le : ticket ≤ t.tickets
  epoch_le : epoch ≤ t.state.epoch
  superseded : t.state.epoch = epoch → t.state.isActive = true → t.state.ticket ≠ some ticket

lemma Overtaken.apply (h : Overtaken epoch ticket t) :
    Overtaken epoch ticket (S.apply stamp t i).1 := by
  refine ⟨Nat.le_trans h.ticket_le Stage.tickets_le, Nat.le_trans h.epoch_le Stage.epoch_le, ?_⟩
  intro he ha hk
  have hle : t.state.epoch ≤ (S.apply stamp t i).1.state.epoch := Stage.epoch_le
  have hge := h.epoch_le
  rcases Stage.activates ha with ha | ⟨payload, rfl⟩
  · rcases Stage.awaits hk with hk | hk
    · exact h.superseded (by omega) ha hk
    · have := h.ticket_le
      omega
  · rw [Stage.epoch_callStart] at he
    omega

lemma Overtaken.changes_eq (h : Overtaken epoch ticket t) :
    changes S.flow S.helpers t (.classified epoch ticket branch intent) = [] := by
  simp only [changes, onClassified, ite_eq_left_iff, Bool.or_eq_true, decide_eq_true_eq,
    Bool.not_eq_true', not_or, Decidable.not_not]
  rintro ⟨⟨he, ha⟩, hk⟩
  exact (h.superseded he.symm (by simpa using ha) hk).elim

lemma Run.isClassifying_eq (h : Run S {} ms σ) :
    σ.tracker.state.isClassifying = σ.tracker.state.ticket.isSome := by
  refine h.tracker_invariant (P := fun t => t.state.isClassifying = t.state.ticket.isSome) rfl ?_
  intro stamp t i ht
  refine Stage.apply_invariant (P := fun t => t.state.isClassifying = t.state.ticket.isSome) ht ?_
  intro c _ u hu
  cases c <;> simp_all [Change.onState, State.withoutClassification, State.record]

inductive Moment.Overtakes (S : Stage) (m : Moment) : Prop
  | named {transcript previous marked : String} :
      m.input = .event (.message .assistant transcript) →
      markedStep S.flow transcript = some marked → m.before.state.current = some previous →
      m.after.state.current = some marked → previous ≠ marked → Overtakes S m
  | asked {epoch ticket : Nat} {branch utterance : String} {candidates : List String} :
      .classification epoch ticket branch utterance candidates ∈ m.started → Overtakes S m
  | started {payload : Fields} : m.input = .event (.callStart payload) → Overtakes S m
  | ended : m.input = .event .callEnd → m.isShown S = true → Overtakes S m
  | failed {payload : Json} : m.input = .event (.failure payload) → m.isShown S = true →
      Overtakes S m

namespace Stage

lemma awaits_of_started
    (h : .classification epoch ticket branch utterance candidates ∈ (S.apply stamp t i).2) :
    (S.apply stamp t i).1.state.ticket = some ticket ∧ (S.apply stamp t i).1.tickets = ticket ∧
      ticket = t.tickets + 1 := by
  obtain ⟨before, hb, he⟩ := changes_of_classification (mem_changes_of_started h)
  have hk : ticket = t.tickets + 1 := ticket_of_mem (by rw [he]; simp)
  have hw : before.filterMap Change.work? = [] := by simpa [List.filterMap_eq_nil_iff] using hb
  rw [apply, he, carryOut_append] at h ⊢
  split_ifs at h ⊢ with hs
  · exact ⟨rfl, rfl, hk⟩
  · obtain ⟨done, hd, hc⟩ := carryOut_prefix stamp S.refuses before t
    rw [hc] at h
    obtain ⟨c, hcm, hcw⟩ := List.mem_filterMap.mp h
    simp [hb c (hd.subset hcm)] at hcw

lemma ticket_of_leaving {transcript previous : String}
    (hc : t.state.isClassifying = t.state.ticket.isSome) :
    (follow stamp (leaving t.state transcript previous) t).state.ticket = none := by
  cases hi : t.state.isClassifying with
  | true => simp [leaving, hi, follow_append, Change.onState, State.withoutClassification]
  | false =>
    have hk : t.state.ticket = none := by simpa [hi] using hc.symm
    refine follow_invariant (P := fun u => u.state.ticket = none) hk ?_
    intro c hc u hu
    refine Change.ticket_onState ?_ hu
    rintro n rfl
    simpa using mem_leaving hc

lemma ticket_of_named {transcript previous marked : String}
    (hm : markedStep S.flow transcript = some marked) (hp : t.state.current = some previous)
    (hn : previous ≠ marked) (hc : t.state.isClassifying = t.state.ticket.isSome)
    (ha : (S.apply stamp t (.event (.message .assistant transcript))).1.state.current =
      some marked) :
    (S.apply stamp t (.event (.message .assistant transcript))).1.state.ticket = none := by
  have active : t.state.isActive = true := by
    rcases moves ha with h | h
    · exact absurd (Option.some.inj (hp.symm.trans h)) hn
    · cases h <;> assumption
  rw [apply, changes_named active hm hp hn, carryOut_append] at ha ⊢
  split_ifs at ha ⊢ with hs
  · dsimp only
    refine carryOut_invariant (P := fun u => u.state.ticket = none) (ticket_of_leaving hc) ?_
    intro c hc u hu
    refine Change.ticket_onState ?_ hu
    rintro n rfl
    simp [mem_arrive] at hc
  · -- The view refuses to show that the step is done, so the position stays.
    have stays :
        (carryOut stamp S.refuses (leaving t.state transcript previous) t).1.state.current =
          t.state.current := by
      refine carryOut_invariant (P := fun u => u.state.current = t.state.current) rfl ?_
      intro c hc u hu
      refine (Change.current_onState ?_).trans hu
      rcases mem_leaving hc with rfl | rfl | rfl | ⟨-, rfl⟩ <;> rfl
    exact absurd (Option.some.inj (hp.symm.trans (stays.symm.trans ha))) hn

end Stage

lemma Moment.Overtakes.overtaken (h : (S.moment stamp t i).Overtakes S)
    (hk : ticket ≤ t.tickets) (he : epoch ≤ t.state.epoch)
    (hc : t.state.isClassifying = t.state.ticket.isSome) :
    Overtaken epoch ticket (S.apply stamp t i).1 := by
  refine ⟨Nat.le_trans hk Stage.tickets_le, Nat.le_trans he Stage.epoch_le, ?_⟩
  intro same active awaited
  cases h with
  | named hi hm hp ha hn =>
    obtain rfl : i = _ := hi
    have hnone := Stage.ticket_of_named hm hp hn hc ha
    exact absurd (hnone.symm.trans awaited) (by simp)
  | asked hw =>
    obtain ⟨hnew, -, hnext⟩ := Stage.awaits_of_started hw
    have := Option.some.inj (hnew.symm.trans awaited)
    omega
  | started hi =>
    obtain rfl : i = _ := hi
    rw [Stage.epoch_callStart] at same
    omega
  | ended hi hs =>
    obtain rfl : i = _ := hi
    simp [Stage.isActive_of_ended hs] at active
  | failed hi hs =>
    obtain rfl : i = _ := hi
    rw [Stage.epoch_of_failed hs] at same
    omega

/-- Whatever the run, and wherever the position is by then. -/
theorem overtaken_classification_changes_nothing {n : Moment} (reach : Reachable S σ)
    (issue : Step S σ (some m) τ)
    (issued : .classification epoch ticket branch utterance candidates ∈ m.started)
    (later : Run S τ ms υ) (among : n ∈ ms) (overtakes : n.Overtakes S) (stamp : Stamp)
    (intent : Option String) :
    S.apply stamp υ.tracker (.classified epoch ticket branch intent) = (υ.tracker, []) := by
  obtain ⟨hm, hτ⟩ := issue.moment_eq
  rw [hm] at issued hτ
  have hk : ticket ≤ τ.tracker.tickets := by
    rw [hτ]
    exact Nat.le_of_eq (Stage.awaits_of_started issued).2.1.symm
  have he : epoch ≤ τ.tracker.state.epoch := by
    rw [hτ]
    exact Nat.le_of_eq (Stage.epoch_of_started issued rfl).symm
  obtain ⟨before, after, rfl⟩ := List.append_of_mem among
  obtain ⟨α, β, hα, hn, hυ⟩ := later.split
  obtain ⟨hn', hβ⟩ := hn.moment_eq
  have hkα : ticket ≤ α.tracker.tickets := Nat.le_trans hk hα.tickets_le
  have heα : epoch ≤ α.tracker.state.epoch := Nat.le_trans he hα.epoch_le
  obtain ⟨_, hr⟩ := (reach.step issue).run hα
  have hover : Overtaken epoch ticket β.tracker := by
    rw [hβ]
    rw [hn'] at overtakes ⊢
    exact overtakes.overtaken hkα heα hr.isClassifying_eq
  -- Being overtaken is for good: tickets and epochs only grow.
  have hlast : Overtaken epoch ticket υ.tracker :=
    hυ.tracker_invariant (P := Overtaken epoch ticket) hover fun _ _ _ h => h.apply
  exact Stage.apply_of_no_changes hlast.changes_eq

def atChoice : Scene :=
  Stage.initial.hear "" {} [.callStart [], .message .assistant "[[NODE:branch-1]]"]

def asking : Scene := Stage.initial.hear "" atChoice [.message .user "Info"]

def detour : List Event :=
  [.message .assistant "[[NODE:message-2]]", .message .assistant "[[NODE:branch-1]]"]

theorem classification_before_detour_changes_nothing :
    (Stage.initial.hear "" asking detour).tracker.state.current = some "branch-1" ∧
      Stage.initial.apply "" (Stage.initial.hear "" asking detour).tracker
        (.classified 1 1 "branch-1" (some "Appointment")) =
          ((Stage.initial.hear "" asking detour).tracker, []) := by
  have reach : Reachable Stage.initial
      { atChoice with queue := [.event (.message .user "Info")] } :=
    ⟨_, (Run.hear rfl _).snoc (.submit atChoice (.message .user "Info"))⟩
  have issue : Step Stage.initial { atChoice with queue := [.event (.message .user "Info")] }
      (some (Stage.initial.moment "" atChoice.tracker (.event (.message .user "Info")))) asking :=
    .take "" rfl
  have issued : .classification 1 1 "branch-1" "Info" ["Appointment", "Info", "Support"] ∈
      (Stage.initial.moment "" atChoice.tracker (.event (.message .user "Info"))).started :=
    List.mem_singleton.mpr rfl
  have later : Run Stage.initial asking (Stage.initial.heard "" asking.tracker detour)
      (Stage.initial.hear "" asking detour) := .hear rfl _
  have away : (Stage.initial.moment "" asking.tracker
      (.event (.message .assistant "[[NODE:message-2]]"))).Overtakes Stage.initial :=
    .named rfl (show _ = some "message-2" from rfl) (show _ = some "branch-1" from rfl) rfl
      (by decide)
  exact ⟨rfl, overtaken_classification_changes_nothing reach issue issued later
    List.mem_cons_self away "" _⟩

end Dialogue.Call
