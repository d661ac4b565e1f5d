import Dialogue.Proofs.Call.Provenance

/-! How a branch is left: where the agent names a step, where an answer to the caller's words
selects an edge, and where the agent merely starts to speak. -/

namespace Dialogue.Call

variable {S : Stage} {σ τ : Scene} {m : Moment} {ms : List Moment} {stamp : Stamp}
  {g : Flow} {helpers : Helpers} {t : Tracker} {i : Input} {b c intent : String} {epoch : Nat}

structure Moment.Leaves (S : Stage) (m : Moment) (b c : String) : Prop where
  here : m.before.state.current = some b
  kind : kindOf S.flow b = some .branch
  there : m.after.state.current = some c
  away : c ≠ b
  closed : m.input.opens = false

def Moment.Strays (S : Stage) (m : Moment) : Prop :=
  m.input = .event .speechStart ∧ ∃ b c, m.Leaves S b c

def Orderly (S : Stage) (epoch : Nat) (ms : List Moment) : Prop :=
  ∀ m ∈ ms, m.before.state.epoch = epoch → m.isShown S = true ∧ ¬ m.Strays S

lemma Change.intent_onState {c : Change} {s : State} (h : ∀ intent, c ≠ .remember (some intent))
    (hs : s.intent = none) : (c.onState stamp s).intent = none := by
  cases c with
  | remember intent =>
    cases intent with
    | none => rfl
    | some intent => exact absurd rfl (h intent)
  | _ => simp_all [onState, State.withoutClassification, State.record]

def Forgets (cs : List Change) : Prop :=
  ∃ before rest, cs = before ++ .remember none :: rest ∧
    ∀ c ∈ rest, ∀ intent, c ≠ .remember (some intent)

lemma Forgets.append {before cs : List Change} (h : Forgets cs) : Forgets (before ++ cs) := by
  obtain ⟨cs, rest, rfl, hr⟩ := h
  exact ⟨before ++ cs, rest, by simp, hr⟩

lemma Forgets.intent_eq {cs : List Change} (h : Forgets cs) :
    (follow stamp cs t).state.intent = none := by
  obtain ⟨before, rest, rfl, hr⟩ := h
  rw [follow_append, follow_cons]
  refine follow_invariant (P := fun u => u.state.intent = none) rfl ?_
  intro c hc u hu
  exact Change.intent_onState (hr c hc) hu

lemma forgets_of_leaving {transcript previous marked : String} :
    Forgets (leaving t.state transcript previous ++ arrive g t.state marked) := by
  refine ⟨noted .assistant transcript ++ [.complete previous],
    (if t.state.isClassifying then [.forgetTicket] else []) ++ arrive g t.state marked,
    by simp [leaving], ?_⟩
  rintro c hc intent rfl
  rcases List.mem_append.mp hc with hc | hc
  · split at hc <;> simp at hc
  · simp [mem_arrive] at hc

lemma forgets_of_unmarked {s : State} (here : s.current = some b)
    (kind : kindOf g b = some .branch) (h : .moveTo c ∈ onUnmarked g s) :
    Forgets (onUnmarked g s) := by
  unfold onUnmarked at h ⊢
  simp only [here, kind] at h ⊢
  cases cached : s.intent with
  | none => simp [cached] at h
  | some intent =>
    simp only [cached] at h ⊢
    split at h
    · simp at h
    · cases edge : g.matchEdge b intent with
      | none => simp [edge] at h
      | some e =>
        rename_i filled
        simp only [if_neg filled]
        exact ⟨[.complete b, .moveTo e.target], [], rfl, by simp⟩

lemma forgets_of_classified {s : State} {ticket : Nat} {answer : Option String}
    (h : .moveTo c ∈ onClassified g s epoch ticket b answer) :
    Forgets (onClassified g s epoch ticket b answer) := by
  unfold onClassified at h ⊢
  split_ifs at h ⊢ with stale away
  · simp at h
  · simp at h
  · cases answer with
    | none => simp at h
    | some intent =>
      cases edge : g.matchEdge b intent with
      | none => simp [edge] at h
      | some e =>
        exact ⟨[.forgetTicket, .remember (some intent), .complete b, .moveTo e.target], [],
          by simp [edge], by simp⟩

lemma forgets_of_move (here : t.state.current = some b) (kind : kindOf g b = some .branch)
    (h : .moveTo c ∈ changes g helpers t i) (away : c ≠ b) (closed : i.opens = false)
    (silent : i ≠ .event .speechStart) : Forgets (changes g helpers t i) := by
  cases moves_of_mem h with
  | opening => simp [Input.opens] at closed
  | onward => exact absurd rfl silent
  | @spoken id n next active here' node spoken =>
    obtain rfl : id = b := Option.some.inj (here'.symm.trans here)
    obtain kind : n.kind = .branch := Option.some.inj ((kindOf_of_node node).symm.trans kind)
    simp [kind] at spoken
  | marked active named =>
    rw [changes_named active named here away.symm]
    exact forgets_of_leaving
  | @begun transcript id next active named here' kind' =>
    obtain rfl : id = b := Option.some.inj (here'.symm.trans here)
    exact absurd (kind'.symm.trans kind) (by simp)
  | @recalled transcript id intent e active named here' kind' =>
    have spoken : transcript.isEmpty = false := isEmpty_of_move h
    rw [changes_assistant active spoken] at h ⊢
    simp only [onAssistant, named] at h ⊢
    rcases List.mem_append.mp h with h | h
    · exact absurd (mem_noted h) (by simp)
    · exact (forgets_of_unmarked here' kind' h).append
  | @heard transcript id next active here' kind' =>
    obtain rfl : id = b := Option.some.inj (here'.symm.trans here)
    exact absurd (kind'.symm.trans kind) (by simp)
  | chosen =>
    simp only [changes] at h ⊢
    exact forgets_of_classified h

namespace Stage

lemma intent_of_nowhere (here : t.state.current = some b)
    (gone : (S.apply stamp t i).1.state.current = none) :
    (S.apply stamp t i).1.state.intent = none := by
  -- The inputs that take the position away are no answers, so nothing is remembered after it.
  have quiet : (∀ epoch ticket branch answer, i ≠ .classified epoch ticket branch answer) →
      ∀ intent, .remember (some intent) ∉ changes S.flow S.helpers t i := by
    intro other intent h
    obtain ⟨ticket, branch, hi, -⟩ := classified_of_mem h
    exact other _ _ _ _ hi
  have lost : (S.apply stamp t i).1.state.current = none →
      (S.apply stamp t i).1.state.intent = none ∧
        ∀ intent, .remember (some intent) ∉ changes S.flow S.helpers t i := by
    refine apply_invariant (P := fun u => u.state.current = none → u.state.intent = none ∧
      ∀ intent, .remember (some intent) ∉ changes S.flow S.helpers t i)
      (fun h => absurd (here.symm.trans h) (by simp)) ?_
    intro c hc u hu
    cases c with
    | begin =>
      obtain ⟨payload, rfl⟩ := callStart_of_mem hc
      exact fun _ => ⟨rfl, quiet (by simp)⟩
    | fail =>
      obtain ⟨payload, rfl⟩ := failure_of_mem hc
      exact fun _ => ⟨rfl, quiet (by simp)⟩
    | hangUp =>
      obtain rfl := callEnd_of_mem hc
      exact fun _ => ⟨rfl, quiet (by simp)⟩
    | moveTo node => simp [Change.onState]
    | remember intent =>
      intro h
      obtain ⟨-, hm⟩ := hu h
      cases intent with
      | none => exact ⟨rfl, hm⟩
      | some intent => exact absurd hc (hm intent)
    | complete | record => simpa [Change.onState, State.record] using hu
    | _ => exact hu
  exact (lost gone).1

lemma current_of_cached (here : t.state.current = some b) (kind : kindOf S.flow b = some .branch)
    (closed : i.opens = false) (shown : (S.moment stamp t i).isShown S = true)
    (straight : ¬ (S.moment stamp t i).Strays S)
    (cached : (S.apply stamp t i).1.state.intent = some intent) :
    (S.apply stamp t i).1.state.current = some b := by
  cases there : (S.apply stamp t i).1.state.current with
  | none => simp [intent_of_nowhere here there] at cached
  | some c =>
    by_cases same : c = b
    · rw [same]
    · exfalso
      have silent : i ≠ .event .speechStart := by
        rintro rfl
        exact straight ⟨rfl, b, c, here, kind, there, same, rfl⟩
      have move : .moveTo c ∈ changes S.flow S.helpers t i :=
        (moved there).resolve_left fun h => same (Option.some.inj (h.symm.trans here))
      have forgotten := forgets_of_move here kind move same closed silent
      rw [apply_shown shown, forgotten.intent_eq] at cached
      cases cached

lemma current_of_onward (active : t.state.isActive = true) (here : t.state.current = some b)
    (waits : t.state.isClassifying = true → kindOf S.flow b ≠ some .branch)
    (done : t.state.isVisited b = true) (ahead : S.flow.next? b = some c)
    (new : t.state.isVisited c = false) :
    (S.apply stamp t (.event .speechStart)).1.state.current = some c := by
  have onward : changes S.flow S.helpers t (.event .speechStart) = [.complete b, .moveTo c] :=
    changes_onward active here waits (.inr done) ahead new
  have unseen : (Change.complete b).op? t.state = none := by simp [Change.op?, done]
  simp only [apply, onward, carryOut_cons_of_unseen unseen]
  cases refused : S.refuses (.highlight (some c)) <;>
    simp [carryOut, Change.op?, refused, Change.onState]

end Stage

lemma Run.cached (h : Run S {} ms σ) (orderly : Orderly S σ.tracker.state.epoch ms)
    (hi : σ.tracker.state.intent = some intent) :
    ∃ b, σ.tracker.state.current = some b ∧ kindOf S.flow b = some .branch ∧
      Answered ms σ.tracker.state.epoch b intent := by
  induction h with
  | nil => simp at hi
  | @snoc α β ms m h hs ih =>
    cases hs with
    | submit | finish => simpa using ih (by simpa using orderly) hi
    | @take i rest stamp hq =>
      -- With an intent in hand the call is still the same, so the induction reaches back into it.
      have same : (S.apply stamp α.tracker i).1.state.epoch = α.tracker.state.epoch := by
        by_contra new
        rw [(Stage.fresh_of_new new).intent] at hi
        cases hi
      obtain ⟨shown, straight⟩ := orderly (S.moment stamp α.tracker i) (by simp) same.symm
      obtain ⟨b, here, kind, answered⟩ : ∃ b, α.tracker.state.current = some b ∧
          kindOf S.flow b = some .branch ∧
            Answered (ms ++ [S.moment stamp α.tracker i]) α.tracker.state.epoch b intent := by
        rcases Stage.remembers hi with hi | ⟨ticket, b, rfl, -, -, here⟩
        · obtain ⟨b, here, kind, answered⟩ :=
            ih (fun k hk he => orderly k (by simp [hk]) (he.trans same.symm)) hi
          exact ⟨b, here, kind, answered.mono (List.subset_append_left _ _)⟩
        · exact ⟨b, here, h.answered (by simp [hq]) stamp⟩
      have stays := Stage.current_of_cached here kind (Stage.opens_of_shown shown same) shown
        straight hi
      exact ⟨b, stays, kind, same.symm ▸ answered⟩

inductive Moment.Chooses (S : Stage) (ms : List Moment) (m : Moment) (b c : String) : Prop
  | named {transcript : String} : m.input = .event (.message .assistant transcript) →
      markedStep S.flow transcript = some c → Chooses S ms m b c
  | selected {intent : String} {e : Edge} : Answered (ms ++ [m]) m.before.state.epoch b intent →
      S.flow.matchEdge b intent = some e → e.target = c → Chooses S ms m b c

inductive Moment.Advances (S : Stage) (m : Moment) : Prop
  | intro {b c : String} : m.input = .event .speechStart → m.before.state.isActive = true →
      m.before.state.current = some b → kindOf S.flow b = some .branch →
      m.before.state.isClassifying = false → m.before.state.isVisited b = true →
      S.flow.next? b = some c → m.before.state.isVisited c = false → Advances S m

namespace Moment

lemma Advances.strays (h : (S.moment stamp t i).Advances S) :
    (S.moment stamp t i).Strays S := by
  obtain ⟨hi, active, here, kind, idle, done, ahead, new⟩ := h
  rename_i b c
  obtain rfl : i = .event .speechStart := hi
  simp only [Stage.moment_before] at active here idle done new
  refine ⟨rfl, b, c, here, kind, ?_, ?_, rfl⟩
  · exact Stage.current_of_onward active here (by simp [idle]) done ahead new
  · rintro rfl
    exact absurd (done.symm.trans new) (by simp)

lemma Strays.advances (h : (S.moment stamp t i).Strays S) :
    (S.moment stamp t i).Advances S := by
  obtain ⟨hi, b, c, here, kind, there, away, -⟩ := h
  obtain rfl : i = .event .speechStart := hi
  cases (Stage.moves there).resolve_left
    fun h => away (Option.some.inj (h.symm.trans here)) with
  | @onward id next active here' waits done ahead new =>
    obtain rfl : id = b := Option.some.inj (here'.symm.trans here)
    have idle : t.state.isClassifying = false := by simpa [kind] using waits
    exact .intro rfl active here kind idle (done.resolve_left (by simp [kind])) ahead new

end Moment

lemma Run.chooses {m : Moment} (run : Run S {} ms σ) (step : Step S σ (some m) τ)
    (orderly : Orderly S m.before.state.epoch ms) (leaves : m.Leaves S b c)
    (silent : m.input ≠ .event .speechStart) : m.Chooses S ms b c := by
  obtain ⟨here, kind, there, away, closed⟩ := leaves
  cases step with
  | @take i rest stamp hq =>
    have moves := (Stage.moves there).resolve_left
      fun h => away (Option.some.inj (h.symm.trans here))
    cases moves with
    | opening => simp [Input.opens] at closed
    | onward => exact absurd rfl silent
    | @spoken id n next active here' node spoken =>
      obtain rfl : id = b := Option.some.inj (here'.symm.trans here)
      obtain kind : n.kind = .branch := Option.some.inj ((kindOf_of_node node).symm.trans kind)
      simp [kind] at spoken
    | marked active named => exact .named rfl named
    | @begun transcript id next active named here' kind' =>
      obtain rfl : id = b := Option.some.inj (here'.symm.trans here)
      exact absurd (kind'.symm.trans kind) (by simp)
    | @recalled transcript id intent e active named here' kind' cached edge =>
      obtain rfl : id = b := Option.some.inj (here'.symm.trans here)
      obtain ⟨b, there', -, answered⟩ := run.cached orderly cached
      obtain rfl : b = id := Option.some.inj (there'.symm.trans here)
      exact .selected (answered.mono (List.subset_append_left _ _)) edge rfl
    | @heard transcript id next active here' kind' =>
      obtain rfl : id = b := Option.some.inj (here'.symm.trans here)
      exact absurd (kind'.symm.trans kind) (by simp)
    | @chosen ticket branch intent e active awaited here' edge =>
      obtain rfl : branch = b := Option.some.inj (here'.symm.trans here)
      exact .selected (run.answered (by simp [hq]) stamp).2 edge rfl

theorem branches_left_by_choice_iff (run : Run S {} ms σ)
    (shown : ∀ m ∈ ms, m.before.state.epoch = epoch → m.isShown S = true) :
    (∀ before m later b c, ms = before ++ m :: later → m.before.state.epoch = epoch →
      m.Leaves S b c → m.Chooses S before b c ∧ m.input ≠ .event .speechStart) ↔
    ∀ m ∈ ms, m.before.state.epoch = epoch → ¬ m.Advances S := by
  constructor
  · intro chosen m hm here advances
    have hm' := run.moment_eq hm
    obtain ⟨before, later, rfl⟩ := List.append_of_mem hm
    obtain ⟨speech, b, c, leaves⟩ : m.Strays S := hm' ▸ (hm' ▸ advances).strays
    exact (chosen before m later b c rfl here leaves).2 speech
  · rintro straight before m later b c rfl here leaves
    have strays : ∀ k ∈ before ++ m :: later, k.before.state.epoch = epoch → ¬ k.Strays S := by
      intro k hk same strays
      have hk' := run.moment_eq hk
      exact straight k hk same (hk' ▸ (hk' ▸ strays).advances)
    obtain ⟨α, β, hα, hm, -⟩ := run.split
    refine ⟨hα.chooses hm ?_ leaves ?_, ?_⟩
    · intro k hk same
      exact ⟨shown k (by simp [hk]) (same.trans here), strays k (by simp [hk]) (same.trans here)⟩
    · exact fun speech => strays m (by simp) here ⟨speech, b, c, leaves⟩
    · exact fun speech => strays m (by simp) here ⟨speech, b, c, leaves⟩

def namedRoute : List Event :=
  [.callStart [], .message .assistant "[[NODE:branch-1]]", .message .assistant "[[NODE:message-2]]"]

theorem named_route_leaves_branch_by_choice :
    (Stage.initial.hear "" {} namedRoute).tracker.state.current = some "message-2" ∧
      ∀ before m later b c, Stage.initial.heard "" {} namedRoute = before ++ m :: later →
        m.before.state.epoch = 1 → m.Leaves Stage.initial b c →
          m.Chooses Stage.initial before b c ∧ m.input ≠ .event .speechStart := by
  have run : Run Stage.initial {} (Stage.initial.heard "" {} namedRoute)
      (Stage.initial.hear "" {} namedRoute) := .hear rfl _
  refine ⟨rfl, (branches_left_by_choice_iff run fun _ _ _ =>
    Moment.isShown_of_accepts fun _ => rfl).mpr ?_⟩
  rintro m hm - ⟨hi, -⟩
  obtain ⟨e, he, hi'⟩ := Stage.input_of_heard hm
  obtain rfl : Event.speechStart = e := Input.event.inj (hi.symm.trans hi')
  simp [namedRoute] at he

def spokenAtBranch : List Event :=
  [.callStart [], .message .assistant "[[NODE:branch-1]]", .speechEnd]

def startOfSpeech : Moment :=
  Stage.initial.moment "" (Stage.initial.hear "" {} spokenAtBranch).tracker (.event .speechStart)

theorem start_of_speech_leaves_branch_without_choice :
    Run Stage.initial {} (Stage.initial.heard "" {} spokenAtBranch)
      (Stage.initial.hear "" {} spokenAtBranch) ∧
    startOfSpeech.Leaves Stage.initial "branch-1" "action-1" ∧
    ¬ startOfSpeech.Chooses Stage.initial (Stage.initial.heard "" {} spokenAtBranch)
      "branch-1" "action-1" := by
  refine ⟨.hear rfl _, ⟨rfl, rfl, rfl, by decide, rfl⟩, ?_⟩
  rintro (⟨hi, -⟩ | ⟨⟨k, hk, n, hn, ticket, utterance, candidates, -, hi⟩, -, -⟩)
  · cases hi
  · rcases List.mem_append.mp hn with hn | hn
    · obtain ⟨e, -, he⟩ := Stage.input_of_heard hn
      rw [he] at hi
      cases hi
    · obtain rfl : n = startOfSpeech := by simpa using hn
      cases hi

end Dialogue.Call
