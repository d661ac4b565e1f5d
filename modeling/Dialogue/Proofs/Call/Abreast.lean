import Dialogue.Proofs.Call.Path

/-! Two calls that stand at the same step and disagree at most on whether it is done yet. What they
hear takes both the same way, unless it asks just this. -/

namespace Dialogue.Call

variable {S : Stage} {g : Flow} {helpers : Helpers} {t u v : Tracker} {x : Option String}
  {i : Input} {c : Change} {cs : List Change} {p q stamp : Stamp} {id : String}
  {refuses : ViewOp → Bool}

structure Tracker.Abreast (x : Option String) (t u : Tracker) : Prop where
  epoch : t.state.epoch = u.state.epoch
  isActive : t.state.isActive = u.state.isActive
  current : t.state.current = u.state.current
  isClassifying : t.state.isClassifying = u.state.isClassifying
  ticket : t.state.ticket = u.state.ticket
  intent : t.state.intent = u.state.intent
  phone : t.state.phone = u.state.phone
  handle : t.state.handle = u.state.handle
  tickets : t.tickets = u.tickets
  visited : t.state.isActive = true → ∀ id, x ≠ some id →
    t.state.isVisited id = u.state.isVisited id

inductive Turns (g : Flow) (t : Tracker) : Input → Prop
  | unmarked {transcript id next : String} : t.state.isActive = true →
      transcript.isEmpty = false → markedStep g transcript = none → t.state.current = some id →
      kindOf g id = some .start → g.next? id = some next → next ≠ id →
      Turns g t (.event (.message .assistant transcript))
  | onward {id next : String} : t.state.isActive = true → t.state.current = some id →
      (t.state.isClassifying = true → kindOf g id ≠ some .branch) →
      kindOf g id ≠ some .start → g.next? id = some next → next ≠ id →
      t.state.isVisited next = false → Turns g t (.event .speechStart)

def Differ (t u : Tracker) : Prop :=
  ∃ id, t.state.current = some id ∧ t.state.isVisited id ≠ u.state.isVisited id

def Change.keeps (id : String) : Change → Bool
  | record .. | highlight _ => true
  | complete node | moveTo node => node == id
  | _ => false

@[simp] lemma State.visit_phone {s : State} : (s.visit id).phone = s.phone := by
  unfold State.visit
  split <;> rfl

@[simp] lemma State.visit_handle {s : State} : (s.visit id).handle = s.handle := by
  unfold State.visit
  split <;> rfl

namespace Tracker.Abreast

lemma refl (x : Option String) (t : Tracker) : Abreast x t t :=
  ⟨rfl, rfl, rfl, rfl, rfl, rfl, rfl, rfl, rfl, fun _ _ _ => rfl⟩

lemma symm (h : Abreast x t u) : Abreast x u t :=
  ⟨h.epoch.symm, h.isActive.symm, h.current.symm, h.isClassifying.symm, h.ticket.symm,
    h.intent.symm, h.phone.symm, h.handle.symm, h.tickets.symm,
    fun active id away => (h.visited (h.isActive.trans active) id away).symm⟩

lemma trans (h : Abreast x t u) (h' : Abreast x u v) : Abreast x t v :=
  ⟨h.epoch.trans h'.epoch, h.isActive.trans h'.isActive, h.current.trans h'.current,
    h.isClassifying.trans h'.isClassifying, h.ticket.trans h'.ticket, h.intent.trans h'.intent,
    h.phone.trans h'.phone, h.handle.trans h'.handle, h.tickets.trans h'.tickets,
    fun active id away => (h.visited active id away).trans
      (h'.visited (h.isActive ▸ active) id away)⟩

lemma isVisited_visit (h : Abreast x t u) (active : t.state.isActive = true)
    (here : x = some id) (k : String) :
    (t.state.visit id).isVisited k = (u.state.visit id).isVisited k := by
  rw [Bool.eq_iff_iff, State.isVisited_visit, State.isVisited_visit]
  by_cases same : k = id
  · simp [same]
  · rw [h.visited active k (by simp [here, Ne.symm same])]

lemma perform (h : Abreast x t u) (c : Change) : Abreast x (c.perform p t) (c.perform q u) := by
  cases c with
  | begin | fail =>
    exact ⟨congrArg (· + 1) h.epoch, rfl, rfl, rfl, rfl, rfl, rfl, rfl, h.tickets,
      fun _ _ _ => rfl⟩
  | hangUp =>
    exact { h with
      isActive := rfl, current := rfl, isClassifying := rfl, ticket := rfl, intent := rfl
      visited := fun active => absurd active (by simp [Change.onState]) }
  | complete node =>
    constructor
    case visited =>
      intro active id away
      simp only [perform_state, Change.onState, State.visit_isActive] at active ⊢
      rw [Bool.eq_iff_iff, State.isVisited_visit, State.isVisited_visit, h.visited active id away]
    all_goals simp [Change.onState, Change.onTickets, h.epoch, h.isActive, h.current,
      h.isClassifying, h.ticket, h.intent, h.phone, h.handle, h.tickets]
  | moveTo node => exact { h with current := rfl }
  | highlight | resetView | spawn => exact { h with }
  | record role content =>
    constructor
    case visited =>
      simpa only [perform_state, Change.onState, State.record, State.isVisited] using h.visited
    all_goals simp [Change.onState, Change.onTickets, State.record, h.epoch, h.isActive, h.current,
      h.isClassifying, h.ticket, h.intent, h.phone, h.handle, h.tickets]
  | remember intent => exact { h with intent := rfl }
  | awaitTicket ticket => exact { h with isClassifying := rfl, ticket := rfl, tickets := rfl }
  | forgetTicket => exact { h with isClassifying := rfl, ticket := rfl }

lemma carryOut (h : Abreast x t u) (accepts : ∀ id, refuses (.complete id) = false)
    (cs : List Change) :
    Abreast x (carryOut p refuses cs t).1 (carryOut q refuses cs u).1 := by
  induction cs generalizing t u with
  | nil => exact h
  | cons c rest ih =>
    have shown : (c.op? t.state).any refuses = (c.op? u.state).any refuses := by
      cases c with
      | complete node =>
        simp only [Change.op?]
        split <;> split <;> simp [accepts]
      | _ => rfl
    simp only [Call.carryOut, shown]
    split
    · exact h.perform c
    · exact ih (h.perform c)

lemma of_keeps (here : t.state.current = some id) (hc : c.keeps id = true) :
    Abreast (some id) t (c.perform p t) := by
  cases c with
  | moveTo node =>
    obtain rfl : node = id := by simpa [Change.keeps] using hc
    exact { refl _ t with current := here }
  | highlight => exact { refl _ t with }
  | record role content =>
    constructor
    case visited => simp [Change.onState, State.record, State.isVisited]
    all_goals simp [Change.onState, Change.onTickets, State.record]
  | complete node =>
    obtain rfl : node = id := by simpa [Change.keeps] using hc
    constructor
    case visited =>
      intro _ k away
      have other : k ≠ node := fun same => away (congrArg some same.symm)
      simp only [perform_state, Change.onState]
      rw [Bool.eq_iff_iff, State.isVisited_visit]
      simp [other]
    all_goals simp [Change.onState, Change.onTickets]
  | _ => simp [Change.keeps] at hc

lemma apply_of_keeps (here : t.state.current = some id)
    (keeps : ∀ c ∈ changes S.flow S.helpers t i, c.keeps id = true) :
    Abreast (some id) t (S.apply stamp t i).1 :=
  Stage.apply_invariant (P := Abreast (some id) t) (refl _ t) fun c hc _ hu =>
    hu.trans (of_keeps (hu.current ▸ here) (keeps c hc))

lemma isVisited_eq (h : Abreast t.state.current t u) (active : t.state.isActive = true)
    (same : ¬ Differ t u) (id : String) : t.state.isVisited id = u.state.isVisited id := by
  by_cases here : t.state.current = some id
  · by_contra differ
    exact same ⟨id, here, differ⟩
  · exact h.visited active id here

lemma onSpeechStart_cases (h : Abreast t.state.current t u) (active : t.state.isActive = true) :
    onSpeechStart g t.state = onSpeechStart g u.state ∨
      (∃ id, t.state.current = some id ∧ (∀ c ∈ onSpeechStart g t.state, c.keeps id = true) ∧
        ∀ c ∈ onSpeechStart g u.state, c.keeps id = true) ∨
      Turns g t (.event .speechStart) ∧ Differ t u := by
  by_cases differ : Differ t u
  · obtain ⟨id, here, -⟩ := id differ
    have there := h.current ▸ here
    have other : ∀ k, k ≠ id → t.state.isVisited k = u.state.isVisited k := fun k away =>
      h.visited active k (by simp [here, Ne.symm away])
    by_cases ends : ∀ next, g.next? id = some next → next = id ∨ t.state.isVisited next = true
    · -- Nothing new lies ahead, so the position stays whether or not the step is done.
      have stays : ∀ s : State, s.current = some id →
          (∀ k, k ≠ id → t.state.isVisited k = s.isVisited k) →
          ∀ c ∈ onSpeechStart g s, c.keeps id = true := by
        intro s at_ agrees c hc
        obtain ⟨x, hx, -, rfl | ⟨-, next, ahead, new, hc⟩⟩ := mem_onSpeechStart hc
        · rfl
        · obtain rfl : x = id := Option.some.inj (hx.symm.trans at_)
          rcases hc with rfl | rfl
          · simp [Change.keeps]
          · by_cases same : next = x
            · simp [Change.keeps, same]
            · have done := (ends next ahead).resolve_left same
              rw [agrees next same, new] at done
              cases done
      exact .inr (.inl ⟨id, here, stays _ here fun _ _ => rfl, stays _ there other⟩)
    · push Not at ends
      obtain ⟨next, ahead, away, new⟩ := ends
      have new' : u.state.isVisited next = false := by
        rw [← other next away]
        simpa using new
      by_cases waits : t.state.isClassifying = true ∧ kindOf g id = some .branch
      · left
        simp [onSpeechStart, here, there, ← h.isClassifying, waits.1, waits.2]
      · by_cases kind : kindOf g id = some .start
        · left
          simp [onSpeechStart, here, there, kind, ahead, new, new']
        · have goes : t.state.isClassifying = true → kindOf g id ≠ some .branch :=
            fun asks branch => waits ⟨asks, branch⟩
          exact .inr (.inr ⟨.onward active here goes kind ahead away (by simpa using new), differ⟩)
  · left
    have same := h.isVisited_eq active differ
    simp only [onSpeechStart, h.current, h.isClassifying, same]

lemma onSpeechEnd_eq (h : Abreast t.state.current t u) (active : t.state.isActive = true) :
    onSpeechEnd g helpers t.state = onSpeechEnd g helpers u.state := by
  unfold onSpeechEnd
  rw [← h.current]
  cases here : t.state.current with
  | none => rfl
  | some id =>
    have after := h.isVisited_visit active here
    simp only [after, lookupWork, arrive, h.epoch, h.phone]

lemma onCallEnd_eq (h : Abreast t.state.current t u) (active : t.state.isActive = true) :
    onCallEnd g t.state = onCallEnd g u.state := by
  unfold onCallEnd
  rw [← h.current]
  cases here : t.state.current with
  | none =>
    have same : ∀ id, t.state.isVisited id = u.state.isVisited id := fun id =>
      h.visited active id (by simp [here])
    simp only [same, h.epoch]
  | some id =>
    have after := h.isVisited_visit active here
    simp only [after, h.epoch]

lemma onUser_eq (h : Abreast x t u) (transcript : String) :
    onUser g t transcript = onUser g u transcript := by
  simp only [onUser, classify, h.current, h.epoch, h.tickets]

lemma onAssistant_cases {transcript : String} (h : Abreast t.state.current t u)
    (active : t.state.isActive = true) (spoken : transcript.isEmpty = false) :
    onAssistant g t.state transcript = onAssistant g u.state transcript ∨
      (∃ id, t.state.current = some id ∧
        (∀ c ∈ onAssistant g t.state transcript, c.keeps id = true) ∧
        ∀ c ∈ onAssistant g u.state transcript, c.keeps id = true) ∨
      Turns g t (.event (.message .assistant transcript)) ∧ Differ t u := by
  cases named : markedStep g transcript with
  | some marked =>
    left
    simp only [onAssistant, named, onMarker, arrive, h.current, h.isClassifying, h.epoch]
  | none =>
    simp only [onAssistant, named]
    by_cases turns : Differ t u ∧ ∃ id, t.state.current = some id ∧ kindOf g id = some .start
    · obtain ⟨differ, id, here, kind⟩ := turns
      by_cases ends : ∀ next, g.next? id = some next → next = id
      · have stays : ∀ s : State, s.current = some id → ∀ c ∈ onUnmarked g s,
            c.keeps id = true := by
          intro s at_ c hc
          obtain ⟨x, hx, ⟨-, -, next, ahead, hc⟩ | ⟨branch, -⟩⟩ := mem_onUnmarked hc
          · obtain rfl : x = id := Option.some.inj (hx.symm.trans at_)
            rcases hc with rfl | rfl
            · simp [Change.keeps]
            · simp [Change.keeps, ends next ahead]
          · obtain rfl : x = id := Option.some.inj (hx.symm.trans at_)
            exact absurd (kind.symm.trans branch) (by simp)
        exact .inr (.inl ⟨id, here, stays _ here, stays _ (h.current ▸ here)⟩)
      · push Not at ends
        obtain ⟨next, ahead, away⟩ := ends
        exact .inr (.inr ⟨.unmarked active spoken named here kind ahead away, differ⟩)
    · left
      unfold onUnmarked
      rw [← h.current]
      cases here : t.state.current with
      | none => rfl
      | some id =>
        dsimp only
        by_cases kind : kindOf g id = some .start
        · have same := h.isVisited_eq active fun differ => turns ⟨differ, id, here, kind⟩
          simp only [kind, same]
        · split
          · contradiction
          · rw [h.intent]
          · rfl

lemma changes_cases (g : Flow) (helpers : Helpers) (h : Abreast t.state.current t u)
    (untimed : ∀ epoch node clears, i ≠ .completed epoch node clears) :
    changes g helpers t i = changes g helpers u i ∨
      (∃ id, t.state.current = some id ∧ (∀ c ∈ changes g helpers t i, c.keeps id = true) ∧
        ∀ c ∈ changes g helpers u i, c.keeps id = true) ∨
      Turns g t i ∧ Differ t u := by
  cases i with
  | completed epoch node clears => exact absurd rfl (untimed epoch node clears)
  | classified epoch ticket branch intent =>
    left
    simp only [changes, onClassified, h.epoch, h.isActive, h.ticket, h.current]
  | lookedUp epoch node result =>
    left
    simp only [changes, onLookedUp, h.epoch, h.handle]
  | event e =>
    cases active : t.state.isActive with
    | false =>
      left
      have idle : u.state.isActive = false := h.isActive ▸ active
      cases e <;> simp [changes, onEvent, active, idle, onCallStart, h.epoch]
    | true =>
      have on := h.isActive ▸ active
      cases e with
      | callStart payload => exact .inl (by simp only [changes, onEvent, onCallStart, h.epoch])
      | failure payload => exact .inl rfl
      | speechStart =>
        simpa [changes, onEvent, active, on] using h.onSpeechStart_cases (g := g) active
      | speechEnd =>
        left
        simp [changes, onEvent, active, on, h.onSpeechEnd_eq active]
      | callEnd =>
        left
        simp [changes, onEvent, active, on, h.onCallEnd_eq active]
      | message role transcript =>
        by_cases silent : transcript.isEmpty = true
        · left
          simp [changes, onEvent, active, on, onMessage, silent]
        · have spoken : transcript.isEmpty = false := by simpa using silent
          cases role with
          | system => left; simp [changes, onEvent, active, on, onMessage]
          | user =>
            left
            rw [changes_user active spoken, changes_user on spoken, h.onUser_eq]
          | assistant =>
            rw [changes_assistant active spoken, changes_assistant on spoken]
            rcases h.onAssistant_cases (g := g) active spoken with
              same | ⟨id, here, kept, kept'⟩ | turns
            · exact .inl (by rw [same])
            · have all : ∀ cs : List Change, (∀ c ∈ cs, c.keeps id = true) →
                  ∀ c ∈ noted .assistant transcript ++ cs, c.keeps id = true := by
                intro cs hcs c hc
                rcases List.mem_append.mp hc with hc | hc
                · rw [mem_noted hc]
                  rfl
                · exact hcs c hc
              exact .inr (.inl ⟨id, here, all _ kept, all _ kept'⟩)
            · exact .inr (.inr turns)

end Tracker.Abreast

namespace Stage

lemma abreast_settled (h : Tracker.Abreast x (S.apply p t i).1 (S.apply q u i).1)
    (epoch : t.state.epoch = u.state.epoch) (here : t.state.current = x)
    (there : u.state.current = x) :
    Tracker.Abreast (S.apply p t i).1.state.current (S.apply p t i).1 (S.apply q u i).1 := by
  refine { h with visited := fun active id away => ?_ }
  by_cases other : x ≠ some id
  · exact h.visited active id other
  · obtain rfl : x = some id := not_not.mp other
    by_cases same : (S.apply p t i).1.state.epoch = t.state.epoch
    · have gone : (S.apply q u i).1.state.current ≠ some id := fun at_ => away (h.current.trans at_)
      rw [isVisited_of_departed here away same,
        isVisited_of_departed there gone (h.epoch.symm.trans (same.trans epoch))]
    · have new : (S.apply q u i).1.state.epoch ≠ u.state.epoch := fun old =>
        same (h.epoch.trans (old.trans epoch.symm))
      rw [(fresh_of_new same).isVisited, (fresh_of_new new).isVisited]

lemma apply_abreast (accepts : ∀ id, S.refuses (.complete id) = false)
    (h : Tracker.Abreast t.state.current t u)
    (untimed : ∀ epoch node clears, i ≠ .completed epoch node clears)
    (same : ¬ (Turns S.flow t i ∧ Differ t u)) :
    Tracker.Abreast (S.apply p t i).1.state.current (S.apply p t i).1 (S.apply q u i).1 := by
  refine abreast_settled ?_ h.epoch rfl h.current.symm
  rcases h.changes_cases S.flow S.helpers untimed with
    equal | ⟨id, here, kept, kept'⟩ | turns
  · rw [apply, apply, equal]
    exact h.carryOut accepts _
  · have there := h.current ▸ here
    rw [here] at h ⊢
    exact (Tracker.Abreast.apply_of_keeps here kept).symm.trans
      (h.trans (Tracker.Abreast.apply_of_keeps there kept'))
  · exact absurd turns same

lemma current_of_passed {before : List Change} {next : String}
    (accepts : ∀ id, S.refuses (.complete id) = false)
    (split : changes S.flow S.helpers t i = before ++ [.complete id, .moveTo next])
    (unseen : ∀ c ∈ before, ∀ s, c.op? s = none) :
    (S.apply stamp t i).1.state.current = some next := by
  have shown : ((Change.complete id).op? (follow stamp before t).state).any S.refuses = false := by
    simp only [Change.op?]
    split <;> simp [accepts]
  have first : isShown stamp S.refuses before t = true :=
    isShown_of_unrefused fun c hc s => by simp [unseen c hc]
  rw [apply, split, carryOut_append, if_pos first]
  simp only [carryOut, shown, Bool.false_eq_true, if_false]
  split <;> rfl

lemma current_of_stayed (stays : ∀ c ∈ changes S.flow S.helpers t i, c.staysPut = true) :
    (S.apply stamp t i).1.state.current = t.state.current :=
  apply_invariant (P := fun u => u.state.current = t.state.current) rfl fun c hc _ hu =>
    (Change.current_onState (stays c hc)).trans hu

lemma current_of_turns (accepts : ∀ id, S.refuses (.complete id) = false)
    (turns : Turns S.flow t i) :
    ∃ x y done, t.state.current = some x ∧ y ≠ x ∧ ∀ stamp u, Tracker.Abreast (some x) t u →
      (S.apply stamp u i).1.state.current =
        if u.state.isVisited x = done then some y else some x := by
  cases turns with
  | @onward x y active here waits kind ahead away new =>
    refine ⟨x, y, true, here, away, fun stamp u hu => ?_⟩
    have on := hu.isActive ▸ active
    have there := hu.current ▸ here
    have waits' := hu.isClassifying ▸ waits
    have new' : u.state.isVisited y = false :=
      hu.visited active y (by simp [Ne.symm away]) ▸ new
    split
    · next done =>
      have leads : changes S.flow S.helpers u (.event .speechStart) =
          [] ++ [.complete x, .moveTo y] := changes_onward on there waits' (.inr done) ahead new'
      exact current_of_passed accepts leads (by simp)
    · next undone =>
      refine (current_of_stayed fun c hc => ?_).trans there
      have glows : changes S.flow S.helpers u (.event .speechStart) = [.highlight (some x)] := by
        simp [changes, onEvent, onSpeechStart, on, there, kind, undone]
        exact waits'
      rw [glows] at hc
      rw [List.mem_singleton.mp hc]
      rfl
  | @unmarked transcript x y active spoken named here kind ahead away =>
    refine ⟨x, y, false, here, away, fun stamp u hu => ?_⟩
    have on := hu.isActive ▸ active
    have there := hu.current ▸ here
    split
    · next undone =>
      have leads : onAssistant S.flow u.state transcript = [.complete x, .moveTo y] := by
        simp [onAssistant, named, onUnmarked, there, kind, undone, ahead]
      exact current_of_passed accepts (leads ▸ changes_assistant on spoken)
        (fun c => op?_of_noted)
    · next done =>
      refine (current_of_stayed fun c hc => ?_).trans there
      have rests : onAssistant S.flow u.state transcript = [] := by
        simp [onAssistant, named, onUnmarked, there, kind, eq_true_of_ne_false done]
      rw [changes_assistant on spoken, rests, List.append_nil] at hc
      rw [mem_noted hc]
      rfl

lemma parted (accepts : ∀ id, S.refuses (.complete id) = false)
    (h : Tracker.Abreast t.state.current t u) (turns : Turns S.flow t i) (differ : Differ t u) :
    (S.apply p t i).1.state.current ≠ (S.apply q u i).1.state.current := by
  obtain ⟨x, y, done, here, away, goes⟩ := current_of_turns accepts turns
  obtain ⟨id, at_, apart⟩ := differ
  obtain rfl : id = x := Option.some.inj (at_.symm.trans here)
  rw [goes p t (.refl _ t), goes q u (here ▸ h)]
  have : t.state.isVisited id = !u.state.isVisited id := Bool.eq_not.mpr apart
  cases done <;> cases there : u.state.isVisited id <;> simp_all [Ne.symm away]

end Stage

end Dialogue.Call
