import Dialogue.Proofs.Call.Branching
import Dialogue.Proofs.Call.Overtaking
import Dialogue.Proofs.Flow.Choices

/-! Waiting for an answer: while a ticket is out, the call lasts, exactly one classification is on
its way to answer it, and the position stays at the branch that it is for. -/

namespace Dialogue.Call

variable {S : Stage} {σ τ : Scene} {m : Moment} {ms : List Moment} {stamp : Stamp}
  {g : Flow} {helpers : Helpers} {t : Tracker} {i : Input} {w : Work} {epoch k : Nat} {b : String}

def Work.asks (epoch ticket : Nat) : Work → Bool
  | .classification e k .. => e == epoch && k == ticket
  | _ => false

def Input.answers (epoch ticket : Nat) : Input → Bool
  | .classified e k .. => e == epoch && k == ticket
  | _ => false

def Scene.inFlight (σ : Scene) (epoch ticket : Nat) : Nat :=
  σ.underway.countP (Work.asks epoch ticket) + σ.queue.countP (Input.answers epoch ticket)

def Issued (ms : List Moment) (epoch ticket : Nat) (branch : String) : Prop :=
  ∃ m ∈ ms, ∃ utterance candidates,
    .classification epoch ticket branch utterance candidates ∈ m.started

/-- Each intent that a classification has answered is one of the candidates that it was given. -/
def Faithful (ms : List Moment) : Prop :=
  ∀ k ∈ ms, ∀ m ∈ ms, ∀ epoch ticket branch utterance candidates intent,
    .classification epoch ticket branch utterance candidates ∈ k.started →
    m.input = .classified epoch ticket branch (some intent) → intent ∈ candidates

/-- The view has shown all that the answers of classifications have brought. A refusal could leave
an answer to be used later. -/
def AnswersShown (S : Stage) (ms : List Moment) : Prop :=
  ∀ m ∈ ms, ∀ epoch ticket branch answer,
    m.input = .classified epoch ticket branch answer → m.isShown S = true

lemma Issued.mono {ns : List Moment} (h : Issued ms epoch k b) (sub : ms ⊆ ns) :
    Issued ns epoch k b := by
  obtain ⟨m, hm, started⟩ := h
  exact ⟨m, sub hm, started⟩

lemma Faithful.mono {ns : List Moment} (h : Faithful ns) (sub : ms ⊆ ns) : Faithful ms :=
  fun k hk m hm => h k (sub hk) m (sub hm)

lemma AnswersShown.mono {ns : List Moment} (h : AnswersShown S ns) (sub : ms ⊆ ns) :
    AnswersShown S ms := fun m hm => h m (sub hm)

lemma asks_iff : w.asks epoch k = true ↔ ∃ branch utterance candidates,
    w = .classification epoch k branch utterance candidates := by
  cases w <;> simp [Work.asks]

lemma answers_iff : i.answers epoch k = true ↔ ∃ branch answer,
    i = .classified epoch k branch answer := by
  cases i <;> simp [Input.answers]

lemma Work.Ends.countP_answers {is : List Input} (h : w.Ends is) (epoch k : Nat) :
    is.countP (Input.answers epoch k) = [w].countP (Work.asks epoch k) := by
  cases h <;> simp [Input.answers, Work.asks, List.countP_cons]

lemma message_of_awaited (h : .awaitTicket k ∈ changes g helpers t i) :
    t.state.isActive = true ∧ ∃ utterance, utterance.isEmpty = false ∧
      i = .event (.message .user utterance) := by
  cases i <;> simp only [changes] at h <;> grind

lemma current_of_noted {role : Role} {transcript : String} :
    (follow stamp (noted role transcript) t).state.current = t.state.current := by
  refine follow_invariant (P := fun u => u.state.current = t.state.current) rfl ?_
  intro c hc u hu
  rw [mem_noted hc]
  simpa [Change.onState, State.record] using hu

lemma changes_of_awaited (h : .awaitTicket k ∈ changes g helpers t i) :
    ∃ before branch utterance, changes g helpers t i = before ++ [.awaitTicket k,
        .spawn (.classification t.state.epoch k branch utterance (g.candidates branch))] ∧
      (∀ c ∈ before, c.isRequest = false) ∧ kindOf g branch = some .branch ∧
      ∀ stamp, (follow stamp before t).state.current = some branch := by
  obtain ⟨active, utterance, spoken, rfl⟩ := message_of_awaited h
  obtain ⟨steps, branch, split, asked, kind, shape⟩ := changes_asking active spoken h rfl
  refine ⟨noted .user utterance ++ steps, branch, utterance,
    by rw [split, classify_of_awaited asked], fun c => isRequest_of_before shape, kind, ?_⟩
  intro stamp
  rw [follow_append]
  rcases shape with ⟨rfl, here⟩ | ⟨id, rfl⟩
  · rw [follow_nil, current_of_noted, here]
  · rfl

lemma candidates_of_started {ticket : Nat} {utterance : String} {candidates : List String}
    (h : .classification epoch ticket b utterance candidates ∈ (S.apply stamp t i).2) :
    candidates = S.flow.candidates b := by
  cases Stage.starts h <;> rfl

namespace Stage

lemma ticketed (h : (S.apply stamp t i).1.state.ticket = some k) :
    t.state.ticket = some k ∨ .awaitTicket k ∈ changes S.flow S.helpers t i := by
  refine apply_invariant (P := fun u => u.state.ticket = some k →
    t.state.ticket = some k ∨ .awaitTicket k ∈ changes S.flow S.helpers t i) .inl ?_ h
  intro c hc u hu
  cases c with
  | awaitTicket n =>
    intro h
    obtain rfl : n = k := by simpa [Change.onState] using h
    exact .inr hc
  | _ => simp_all [Change.onState, State.withoutClassification, State.record]

lemma isActive_of_ticketed (known : t.state.ticket ≠ none → t.state.isActive = true)
    (ticketed : (S.apply stamp t i).1.state.ticket ≠ none) :
    (S.apply stamp t i).1.state.isActive = true := by
  have kept : ((S.apply stamp t i).1.state.ticket ≠ none →
        (S.apply stamp t i).1.state.isActive = true) ∧
      ∀ n, .awaitTicket n ∈ changes S.flow S.helpers t i →
        (S.apply stamp t i).1.state.isActive = true := by
    refine apply_invariant (P := fun u => (u.state.ticket ≠ none → u.state.isActive = true) ∧
      ∀ n, .awaitTicket n ∈ changes S.flow S.helpers t i → u.state.isActive = true)
      ⟨known, fun n hn => (message_of_awaited hn).1⟩ ?_
    rintro c hc u ⟨hu, asks⟩
    cases c with
    | begin => exact ⟨fun _ => rfl, fun _ _ => rfl⟩
    | fail =>
      obtain ⟨payload, rfl⟩ := failure_of_mem hc
      refine ⟨fun h => absurd rfl h, fun n hn => ?_⟩
      simpa using message_of_awaited hn
    | hangUp =>
      obtain rfl := callEnd_of_mem hc
      refine ⟨fun h => absurd rfl h, fun n hn => ?_⟩
      simpa using message_of_awaited hn
    | awaitTicket n => exact ⟨fun _ => asks n hc, asks⟩
    | forgetTicket => exact ⟨fun h => absurd rfl h, asks⟩
    | complete | record => simpa [Change.onState, State.record] using ⟨hu, asks⟩
    | _ => exact ⟨hu, asks⟩
  exact kept.1 ticketed

lemma forgets_answer (active : t.state.isActive = true) (pending : t.state.ticket = some k)
    (answer : Option String) :
    (S.apply stamp t (.classified t.state.epoch k b answer)).1.state.ticket = none := by
  obtain ⟨rest, split⟩ : ∃ rest,
      changes S.flow S.helpers t (.classified t.state.epoch k b answer) =
        .forgetTicket :: rest := by
    simp [changes, onClassified, active, pending]
  have quiet : ∀ c ∈ rest, ∀ n, c ≠ .awaitTicket n := by
    rintro c hc n rfl
    have mem : .awaitTicket n ∈ changes S.flow S.helpers t (.classified t.state.epoch k b answer) :=
      split ▸ List.mem_cons_of_mem _ hc
    simpa using message_of_awaited mem
  rw [apply, split, carryOut_cons_of_unseen rfl]
  refine carryOut_invariant (P := fun u => u.state.ticket = none) rfl ?_
  exact fun c hc u hu => Change.ticket_onState (quiet c hc) hu

lemma kept (pending : t.state.ticket = some k) (active : t.state.isActive = true)
    (known : k ≤ t.tickets) (still : (S.apply stamp t i).1.state.ticket = some k) :
    (S.apply stamp t i).1.state.epoch = t.state.epoch ∧ i.answers t.state.epoch k = false ∧
      (S.apply stamp t i).2.countP (Work.asks t.state.epoch k) = 0 := by
  refine ⟨?_, ?_, ?_⟩
  · by_contra new
    simp [(fresh_of_new new).ticket] at still
  · by_contra answered
    obtain ⟨branch, answer, rfl⟩ := answers_iff.mp (by simpa using answered)
    simp [forgets_answer active pending] at still
  · refine List.countP_eq_zero.mpr fun w hw asks => ?_
    obtain ⟨branch, utterance, candidates, rfl⟩ := asks_iff.mp asks
    have new := (awaits_of_started hw).2.2
    omega

lemma asked (pending : t.state.ticket ≠ some k)
    (awaited : (S.apply stamp t i).1.state.ticket = some k) :
    k = t.tickets + 1 ∧ (S.apply stamp t i).1.state.epoch = t.state.epoch ∧
      ∃ branch utterance, kindOf S.flow branch = some .branch ∧
        (S.apply stamp t i).1.state.current = some branch ∧ (S.apply stamp t i).2 =
          [.classification t.state.epoch k branch utterance (S.flow.candidates branch)] := by
  have mem := (ticketed awaited).resolve_left pending
  have same : (S.apply stamp t i).1.state.epoch = t.state.epoch := by
    by_contra new
    simp [(fresh_of_new new).ticket] at awaited
  refine ⟨ticket_of_mem mem, same, ?_⟩
  obtain ⟨before, branch, utterance, split, quiet, kind, here⟩ := changes_of_awaited mem
  have idle : before.filterMap Change.work? = [] := by
    refine List.filterMap_eq_nil_iff.mpr fun c hc => ?_
    have := quiet c hc
    cases c with
    | spawn w => cases this
    | _ => rfl
  rw [apply, split, carryOut_append] at awaited ⊢
  split_ifs at awaited ⊢ with shown
  · exact ⟨branch, utterance, kind, here stamp, by rw [idle]; rfl⟩
  · -- The view has refused something before the ticket was given out.
    refine absurd ?_ pending
    refine carryOut_invariant (P := fun u => u.state.ticket = some k → t.state.ticket = some k)
      id ?_ awaited
    intro c hc u hu
    have := quiet c hc
    cases c with
    | awaitTicket n => cases this
    | _ => simp_all [Change.onState, State.withoutClassification, State.record]

lemma intent_of_matched {intent : String} {e : Edge} (active : t.state.isActive = true)
    (pending : t.state.ticket = some k) (here : t.state.current = some b)
    (edge : S.flow.matchEdge b intent = some e)
    (shown : (S.moment stamp t (.classified t.state.epoch k b (some intent))).isShown S = true) :
    (S.apply stamp t (.classified t.state.epoch k b (some intent))).1.state.intent = none := by
  have move : .moveTo e.target ∈ onClassified S.flow t.state t.state.epoch k b (some intent) := by
    simp [onClassified, active, pending, here, edge]
  rw [apply_shown shown]
  exact (forgets_of_classified move).intent_eq

lemma current_of_ticketed (here : t.state.current ≠ none) (known : k ≤ t.tickets)
    (still : (S.apply stamp t i).1.state.ticket = some k) :
    (S.apply stamp t i).1.state.current ≠ none := by
  refine apply_invariant (P := fun u => u.state.ticket = some k → u.state.current ≠ none)
    (fun _ => here) ?_ still
  intro c hc u hu
  cases c with
  | begin | fail | hangUp | forgetTicket => simp [Change.onState, State.withoutClassification]
  | moveTo node => simp [Change.onState]
  | awaitTicket n =>
    have new := ticket_of_mem hc
    intro awaited
    have same : n = k := by simpa [Change.onState] using awaited
    omega
  | complete | record => simpa [Change.onState, State.record] using hu
  | _ => exact hu

lemma stays (here : t.state.current = some b) (kind : kindOf S.flow b = some .branch)
    (pending : t.state.ticket = some k) (active : t.state.isActive = true) (known : k ≤ t.tickets)
    (classifying : t.state.isClassifying = t.state.ticket.isSome)
    (blank : ∀ intent, t.state.intent = some intent → S.flow.matchEdge b intent = none)
    (still : (S.apply stamp t i).1.state.ticket = some k) :
    (S.apply stamp t i).1.state.current = some b := by
  have same := (kept pending active known still).1
  obtain ⟨next, there⟩ := Option.ne_none_iff_exists'.mp
    (current_of_ticketed (by simp [here]) known still)
  have only : ∀ x, t.state.current = some x → kindOf S.flow x = some .branch := by
    intro x hx
    rw [Option.some.inj (hx.symm.trans here), kind]
  by_contra gone
  -- Nobody leaves a branch but by a marker, which gives the ticket up, by the answer itself, or by
  -- a cached intent that selects an edge.
  have moves := (Stage.moves there).resolve_left
    fun h => gone (there.trans (h.symm.trans here))
  cases moves with
  | opening => rw [epoch_callStart] at same; omega
  | onward _ here' waits => exact waits (by simp [classifying, pending]) (only _ here')
  | spoken _ here' node spoken =>
    have branch := (kindOf_of_node node).symm.trans (only _ here')
    simp [Option.some.inj branch] at spoken
  | marked _ named =>
    have away : b ≠ next := by
      rintro rfl
      exact gone there
    simp [ticket_of_named named here away classifying there] at still
  | begun _ _ here' kind' => simp [only _ here'] at kind'
  | recalled _ _ here' _ cached edge =>
    obtain rfl := Option.some.inj (here'.symm.trans here)
    simp [blank _ cached] at edge
  | heard _ here' kind' => simp [only _ here'] at kind'
  | chosen _ awaited =>
    obtain rfl := Option.some.inj (awaited.symm.trans pending)
    simp [forgets_answer active pending] at still

end Stage

namespace Run

lemma ticket_known (h : Run S {} ms σ) (pending : σ.tracker.state.ticket = some k) :
    k ≤ σ.tracker.tickets ∧ σ.tracker.state.isActive = true := by
  have sound : (∀ n, σ.tracker.state.ticket = some n → n ≤ σ.tracker.tickets) ∧
      (σ.tracker.state.ticket ≠ none → σ.tracker.state.isActive = true) := by
    refine h.tracker_invariant (P := fun t => (∀ n, t.state.ticket = some n → n ≤ t.tickets) ∧
      (t.state.ticket ≠ none → t.state.isActive = true)) ⟨by simp, by simp⟩ ?_
    rintro stamp t i ⟨le, active⟩
    refine ⟨?_, Stage.isActive_of_ticketed active⟩
    refine Stage.apply_invariant (P := fun u => ∀ n, u.state.ticket = some n → n ≤ u.tickets) le ?_
    intro c _ u hu
    cases c <;>
      simp_all [Change.onState, Change.onTickets, State.withoutClassification, State.record]
  exact ⟨sound.1 k pending, sound.2 (by simp [pending])⟩

lemma ticket_le_of_started {branch utterance : String} {candidates : List String}
    (h : Run S σ ms τ) (hm : m ∈ ms)
    (hw : .classification epoch k branch utterance candidates ∈ m.started) :
    k ≤ τ.tracker.tickets := by
  have given : m.after.tickets = k := by
    rw [h.moment_eq hm] at hw ⊢
    exact (Stage.awaits_of_started hw).2.1
  obtain ⟨before, later, rfl⟩ := List.append_of_mem hm
  obtain ⟨α, β, -, hs, hβ⟩ := h.split
  rw [← given, ← hs.moment_eq.2]
  exact hβ.tickets_le

lemma inFlight_eq_zero (h : Run S {} ms σ) (new : σ.tracker.tickets < k) (epoch : Nat) :
    σ.inFlight epoch k = 0 := by
  have none : σ.underway.countP (Work.asks epoch k) = 0 := by
    refine List.countP_eq_zero.mpr fun w hw asks => ?_
    obtain ⟨branch, utterance, candidates, rfl⟩ := asks_iff.mp asks
    obtain ⟨m, hm, started⟩ := h.accounted.underway _ hw
    have := h.ticket_le_of_started hm started
    omega
  have quiet : σ.queue.countP (Input.answers epoch k) = 0 := by
    refine List.countP_eq_zero.mpr fun i hi answers => ?_
    obtain ⟨branch, answer, rfl⟩ := answers_iff.mp answers
    obtain ⟨m, hm, utterance, candidates, started⟩ := h.classification_of_queued hi
    have := h.ticket_le_of_started hm started
    omega
  rw [Scene.inFlight, none, quiet]

lemma inFlight_eq_one (h : Run S {} ms σ) (pending : σ.tracker.state.ticket = some k) :
    σ.inFlight σ.tracker.state.epoch k = 1 := by
  induction h with
  | nil => simp at pending
  | @snoc α β ms m h hs ih =>
    cases hs with
    | submit e => simpa [Scene.inFlight, Input.answers] using ih pending
    | @finish ws vs w is hw ends =>
      have before : α.inFlight α.tracker.state.epoch k = 1 := ih pending
      have moved := ends.countP_answers α.tracker.state.epoch k
      simp only [Scene.inFlight, hw, List.countP_append, List.countP_cons, List.countP_nil]
        at before moved ⊢
      omega
    | @take i rest stamp hq =>
      change (S.apply stamp α.tracker i).1.state.ticket = some k at pending
      by_cases old : α.tracker.state.ticket = some k
      · obtain ⟨known, active⟩ := h.ticket_known old
        obtain ⟨same, other, none⟩ := Stage.kept old active known pending
        have before : α.inFlight α.tracker.state.epoch k = 1 := ih old
        simp only [Scene.inFlight, hq, same, List.countP_append, List.countP_cons, other, none]
          at before ⊢
        simpa using before
      · obtain ⟨new, same, branch, utterance, -, -, started⟩ := Stage.asked old pending
        -- The ticket is larger than any before, so nothing in flight has it yet.
        have fresh : α.tracker.tickets < k := by omega
        have before := h.inFlight_eq_zero fresh α.tracker.state.epoch
        simp only [Scene.inFlight, hq, same, started, List.countP_append, List.countP_cons]
          at before ⊢
        have asks : (Work.classification α.tracker.state.epoch k branch utterance
            (S.flow.candidates branch)).asks α.tracker.state.epoch k = true := by
          simp [Work.asks]
        simp only [asks, List.countP_nil, if_true]
        omega

lemma faithful (h : Run S {} ms σ) (offered : ∀ m ∈ ms, ∀ epoch ticket branch intent,
    m.input = .classified epoch ticket branch (some intent) →
      intent ∈ S.flow.candidates branch) : Faithful ms := by
  intro k hk m hm epoch ticket branch utterance candidates intent started answer
  rw [h.moment_eq hk] at started
  rw [candidates_of_started started]
  exact offered m hm epoch ticket branch intent answer

lemma blank_of_cached {intent : String} (h : Run S {} ms σ) (faithful : Faithful ms)
    (shown : AnswersShown S ms) (cached : σ.tracker.state.intent = some intent) :
    Intent.wanted intent = [] := by
  induction h with
  | nil => simp at cached
  | @snoc α β ms m h hs ih =>
    have sub : ms ⊆ ms ++ m.toList := List.subset_append_left _ _
    cases hs with
    | submit | finish => exact ih (faithful.mono sub) (shown.mono sub) cached
    | @take i rest stamp hq =>
      rcases Stage.remembers cached with old | ⟨ticket, branch, rfl, active, pending, here⟩
      · exact ih (faithful.mono sub) (shown.mono sub) old
      · -- A candidate with words in it selects an edge, and going there forgets it at once.
        by_contra words
        obtain ⟨k, hk, utterance, candidates, started⟩ :=
          h.classification_of_queued (hq ▸ List.mem_cons_self)
        have offered : intent ∈ candidates :=
          faithful k (sub hk) _ (List.mem_append_right _ List.mem_cons_self) _ _ _ _ _ _ started rfl
        rw [h.moment_eq hk] at started
        rw [candidates_of_started started] at offered
        obtain ⟨e, edge⟩ := Flow.matchEdge_of_candidate offered words
        have whole := shown _ (List.mem_append_right _ List.mem_cons_self) _ _ _ _ rfl
        simp [Stage.intent_of_matched active pending here edge whole] at cached

lemma stands (h : Run S {} ms σ) (pending : σ.tracker.state.ticket = some k) :
    ∃ branch, kindOf S.flow branch = some .branch ∧
      Issued ms σ.tracker.state.epoch k branch ∧
      (Faithful ms → AnswersShown S ms → σ.tracker.state.current = some branch) := by
  induction h with
  | nil => simp at pending
  | @snoc α β ms m h hs ih =>
    have sub : ms ⊆ ms ++ m.toList := List.subset_append_left _ _
    cases hs with
    | submit | finish => simpa using ih pending
    | @take i rest stamp hq =>
      change (S.apply stamp α.tracker i).1.state.ticket = some k at pending
      by_cases old : α.tracker.state.ticket = some k
      · obtain ⟨branch, kind, issued, here⟩ := ih old
        obtain ⟨known, active⟩ := h.ticket_known old
        have same := (Stage.kept old active known pending).1
        refine ⟨branch, kind, ?_, fun faithful shown => ?_⟩
        · simp only [same]
          exact issued.mono sub
        · have blank : ∀ intent, α.tracker.state.intent = some intent →
              S.flow.matchEdge branch intent = none := fun intent cached =>
            Flow.matchEdge_of_blank
              (h.blank_of_cached (faithful.mono sub) (shown.mono sub) cached)
          exact Stage.stays (here (faithful.mono sub) (shown.mono sub)) kind old active known
            h.isClassifying_eq blank pending
      · obtain ⟨-, same, branch, utterance, kind, there, started⟩ := Stage.asked old pending
        refine ⟨branch, kind, ?_, fun _ _ => there⟩
        simp only [same]
        exact ⟨_, List.mem_append_right _ List.mem_cons_self, utterance,
          S.flow.candidates branch, by simp [Stage.moment, started]⟩

end Run

/-- An answer is awaited exactly while a ticket is out; then the call goes on, one classification of
this call is in flight for the ticket, and the position is at the branch that it was issued for. -/
theorem awaited_answer_is_in_flight (run : Run S {} ms σ) (faithful : Faithful ms) :
    (σ.tracker.state.isClassifying = true ↔ σ.tracker.state.ticket ≠ none) ∧
    (∀ k, σ.tracker.state.ticket = some k →
      σ.tracker.state.isActive = true ∧ σ.inFlight σ.tracker.state.epoch k = 1 ∧
      ∃ branch, kindOf S.flow branch = some .branch ∧
        Issued ms σ.tracker.state.epoch k branch ∧
        (AnswersShown S ms → σ.tracker.state.current = some branch)) ∧
    (σ.queue = [] → σ.underway = [] → σ.tracker.state.isClassifying = false) := by
  have classifying := run.isClassifying_eq
  refine ⟨by simp [classifying, Option.isSome_iff_ne_none], ?_, ?_⟩
  · intro k pending
    obtain ⟨branch, kind, issued, here⟩ := run.stands pending
    exact ⟨(run.ticket_known pending).2, run.inFlight_eq_one pending, branch, kind, issued,
      here faithful⟩
  · intro queue underway
    cases pending : σ.tracker.state.ticket with
    | none => simp [classifying, pending]
    | some k =>
      have one := run.inFlight_eq_one pending
      simp [Scene.inFlight, queue, underway] at one

def answered : Scene where
  tracker := (Stage.initial.apply "" asking.tracker (.classified 1 1 "branch-1" (some "Info"))).1
  underway := [.completion 1 "start-1" false false]

def askingAgain : Scene := Stage.initial.hear "" answered
  [.message .assistant "[[NODE:branch-1]]", .message .user "Support"]

theorem second_answer_is_in_flight :
    askingAgain.tracker.state.ticket = some 2 ∧ askingAgain.inFlight 1 2 = 1 ∧
      ∃ branch, kindOf Flow.initial branch = some .branch ∧
        askingAgain.tracker.state.current = some branch := by
  have asked : Run Stage.initial {} _ asking := (Run.hear rfl _).trans (.hear rfl _)
  have again : Run Stage.initial answered _ askingAgain := .hear rfl _
  have underway : asking.underway = [.completion 1 "start-1" false false] ++
      .classification 1 1 "branch-1" "Info" ["Appointment", "Info", "Support"] :: [] := rfl
  have run := asked.trans <|
    .cons (.finish underway (.classification _ _ _ _ _ (some "Info"))) <|
    .cons (.take "" rfl) again
  have faithful := run.faithful ?_
  · obtain ⟨-, pending, -⟩ := awaited_answer_is_in_flight run faithful
    obtain ⟨-, one, branch, kind, -, here⟩ := pending 2 rfl
    exact ⟨rfl, one, branch, kind,
      here fun m _ _ _ _ _ _ => m.isShown_of_accepts fun _ => rfl⟩
  · intro m hm epoch ticket branch intent hi
    rcases List.mem_append.mp hm with heard | later
    · rcases List.mem_append.mp heard with heard | heard <;>
        obtain ⟨e, -, event⟩ := Stage.input_of_heard heard <;> simp [event] at hi
    · rcases List.mem_cons.mp (by simpa using later) with rfl | heard
      · obtain ⟨-, -, rfl, rfl⟩ :
            1 = epoch ∧ 1 = ticket ∧ "branch-1" = branch ∧ "Info" = intent := by simpa using hi
        decide
      · obtain ⟨e, -, event⟩ := Stage.input_of_heard heard
        simp [event] at hi

end Dialogue.Call
