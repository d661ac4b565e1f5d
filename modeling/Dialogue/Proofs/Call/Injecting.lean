import Dialogue.Proofs.Call.Isolation
import Dialogue.Proofs.Call.Seeking
import Dialogue.Proofs.Call.Tracing

/-! Injections: what a call is told was looked up for this call, with its own number, and goes
through its own handle. -/

namespace Dialogue.Call

variable {S : Stage} {τ : Trace} {m n : Moment} {ms : List Moment} {stamp : Stamp} {t : Tracker}
  {i : Input} {w : Work} {cause cause' : Option Nat} {b j k : Nat} {epoch : Nat} {payload : Fields}
  {handle context : String}

def Work.isInjection : Work → Bool
  | .injection .. => true
  | _ => false

def Input.isFinding : Input → Bool
  | .lookedUp .. => true
  | _ => false

namespace Stage

lemma found_of_injection (h : .injection handle context ∈ (S.apply stamp t i).2) :
    (S.apply stamp t i).2 = [.injection handle context] ∧ t.state.handle = some handle ∧
      ∃ node result, i = .lookedUp t.state.epoch node result ∧ result.success = true ∧
        result.context = context ∧ context.isEmpty = false := by
  cases starts h with
  | @found node _ result success filled injects known =>
    refine ⟨?_, known, node, result, rfl, success, rfl, filled⟩
    have told : changes S.flow S.helpers t (.lookedUp t.state.epoch node result) =
        [.spawn (.injection handle result.context)] := by
      simp [changes, onLookedUp, success, filled, injects, known]
    rw [apply, told]
    rfl

lemma tracker_of_lookup {id : String} {spec : Lookup} {phone : Option String}
    (h : .lookup epoch id spec phone ∈ (S.apply stamp t i).2) :
    epoch = t.state.epoch ∧ phone = t.state.phone := by
  cases starts h
  exact ⟨rfl, rfl⟩

lemma countP_isInjection_le :
    (S.apply stamp t i).2.countP Work.isInjection ≤ [i].countP Input.isFinding := by
  by_cases found : ∃ w ∈ (S.apply stamp t i).2, w.isInjection = true
  · obtain ⟨w, hw, injection⟩ := found
    cases w with
    | injection handle context =>
      obtain ⟨only, -, node, result, rfl, -⟩ := found_of_injection hw
      rw [only]
      exact Nat.le_refl 1
    | _ => cases injection
  · rw [List.countP_eq_zero.mpr fun w hw h => found ⟨w, hw, h⟩]
    exact Nat.zero_le _

lemma contact (S : Stage) (stamp : Stamp) (t : Tracker) (i : Input) :
    (∃ payload, i = .event (.callStart payload) ∧
      (S.apply stamp t i).1.state.epoch = t.state.epoch + 1 ∧
      (S.apply stamp t i).1.state.phone = Event.phone payload ∧
      (S.apply stamp t i).1.state.handle = Event.handle payload) ∨
    ((∀ payload, i ≠ .event (.callStart payload)) ∧
      ((S.apply stamp t i).1.state.epoch = t.state.epoch + 1 ∧
        (S.apply stamp t i).1.state.handle = none ∨
      (S.apply stamp t i).1.state.epoch = t.state.epoch ∧
        (S.apply stamp t i).1.state.phone = t.state.phone ∧
        (S.apply stamp t i).1.state.handle = t.state.handle)) := by
  by_cases begins : ∃ payload, i = .event (.callStart payload)
  · obtain ⟨payload, rfl⟩ := begins
    refine .inl ⟨payload, rfl, epoch_callStart, ?_⟩
    simp only [apply, changes, onEvent, onCallStart, List.cons_append]
    rw [carryOut_cons_of_unseen rfl]
    refine carryOut_invariant (P := fun u => u.state.phone = Event.phone payload ∧
      u.state.handle = Event.handle payload) ⟨rfl, rfl⟩ ?_
    intro c hc u hu
    have kept : ∀ s : State, (c.onState stamp s).phone = s.phone ∧
        (c.onState stamp s).handle = s.handle := by
      intro s
      cases start : S.flow.start? <;> simp [start] at hc <;> grind [Change.onState]
    exact ⟨(kept _).1.trans hu.1, (kept _).2.trans hu.2⟩
  · refine .inr ⟨fun payload h => begins ⟨payload, h⟩, ?_⟩
    by_cases fails : ∃ payload, i = .event (.failure payload)
    · obtain ⟨payload, rfl⟩ := fails
      simp only [apply, changes, onEvent, onFailure, carryOut]
      split
      · exact .inr ⟨rfl, rfl, rfl⟩
      · exact .inl ⟨rfl, rfl⟩
    · right
      refine apply_invariant (P := fun u => u.state.epoch = t.state.epoch ∧
        u.state.phone = t.state.phone ∧ u.state.handle = t.state.handle) ⟨rfl, rfl, rfl⟩ ?_
      intro c hc u hu
      cases c with
      | begin => exact absurd (callStart_of_mem hc) begins
      | fail => exact absurd (failure_of_mem hc) fails
      | complete node =>
        simp only [perform_state, Change.onState, State.visit]
        split <;> exact hu
      | record role content => simpa [Change.onState, State.record] using hu
      | _ => exact hu

end Stage

namespace Trace

def Opens (τ : Trace) (b epoch : Nat) : Prop :=
  ∃ cause m, τ.taken[b]? = some (cause, m) ∧ m.Opens ∧ m.after.state.epoch = epoch

def Calls (τ : Trace) (b epoch : Nat) (payload : Fields) : Prop :=
  ∃ cause m, τ.taken[b]? = some (cause, m) ∧ m.input = .event (.callStart payload) ∧
    m.after.state.epoch = epoch

def followed (τ : Trace) (k : Nat) : List Work :=
  (τ.taken.filter (·.1 == some k)).flatMap (·.2.started)

def searches (τ : Trace) (k : Nat) : Nat :=
  τ.underway.countP (fun x => x.1 == k && x.2.isLookup) +
    τ.queue.countP (fun x => x.1 == some k && x.2.isFinding) +
    τ.taken.countP (fun x => x.1 == some k && x.2.input.isFinding)

structure Contacts (τ : Trace) : Prop where
  known : τ.tracker.state.handle ≠ none → ∃ b payload, τ.Calls b τ.tracker.state.epoch payload
  own : ∀ b payload, τ.Calls b τ.tracker.state.epoch payload →
    τ.tracker.state.phone = Event.phone payload ∧ τ.tracker.state.handle = Event.handle payload

end Trace

lemma countP_labelled {α β : Type} [BEq α] (p : β → Bool) (xs : List β) (a b : α) :
    (xs.map (a, ·)).countP (fun x => x.1 == b && p x.2) = if a == b then xs.countP p else 0 := by
  cases h : a == b <;> simp [h, List.countP_map, Function.comp_def]

lemma Work.Ends.countP_isFinding {is : List Input} (h : w.Ends is) :
    is.countP Input.isFinding = [w].countP Work.isLookup := by
  cases h <;> rfl

lemma Work.Ends.lookup_of_finding {is : List Input} {node : String} {result : Lookup.Result}
    (h : w.Ends is) (found : .lookedUp epoch node result ∈ is) :
    ∃ spec phone, w = .lookup epoch node spec phone := by
  cases h <;> simp_all

namespace Traced

lemma epoch_le (h : Traced S τ) (hk : τ.taken[k]? = some (cause, m)) :
    m.after.state.epoch ≤ τ.tracker.state.epoch := by
  obtain ⟨os, life, told⟩ := h.life
  obtain ⟨ws, run, -⟩ := life.run
  refine run.epoch_le_of_mem ?_
  rw [told, Trace.moments]
  exact List.mem_map_of_mem (List.mem_of_getElem? hk)

lemma epoch_le_of_lt (h : Traced S τ) (hk : τ.taken[k]? = some (cause, m))
    (hj : τ.taken[j]? = some (cause', n)) (lt : k < j) :
    m.after.state.epoch ≤ n.before.state.epoch := by
  obtain ⟨α, traced, earlier, -, hn⟩ := h.before hj
  have kept : α.taken[k]? = some (cause, m) := by rw [earlier, List.getElem?_take, if_pos lt, hk]
  rw [hn]
  exact traced.epoch_le kept

lemma epoch_of_started {e : Nat} (h : Traced S τ) (hk : τ.taken[k]? = some (cause, m))
    (hw : w ∈ m.started) (he : w.epoch? = some e) : m.after.state.epoch = e := by
  obtain ⟨α, -, -, -, hm⟩ := h.before hk
  rw [hm] at hw ⊢
  exact Stage.epoch_of_started hw he

lemma opens_unique (h : Traced S τ) (hb : τ.Opens b epoch) (hj : τ.Opens j epoch) : b = j := by
  have later : ∀ b j, τ.Opens b epoch → τ.Opens j epoch → ¬ b < j := by
    rintro b j ⟨cause, m, first, -, rfl⟩ ⟨cause', n, second, opens, same⟩ lt
    obtain ⟨α, -, -, -, hn⟩ := h.before second
    have grows : n.before.state.epoch ≤ n.after.state.epoch := by
      rw [hn]
      exact Stage.epoch_le
    have := h.epoch_le_of_lt first second lt
    exact opens.2 (by omega)
  exact Nat.le_antisymm (Nat.le_of_not_lt (later j b hj hb)) (Nat.le_of_not_lt (later b j hb hj))

lemma opens_of_calls (h : Traced S τ) (hb : τ.Calls b epoch payload) : τ.Opens b epoch := by
  obtain ⟨cause, m, hm, input, rfl⟩ := hb
  obtain ⟨α, -, -, -, hn⟩ := h.before hm
  refine ⟨cause, m, hm, ⟨by rw [input]; rfl, ?_⟩, rfl⟩
  rw [hn, input]
  exact Nat.ne_of_gt (Nat.lt_of_lt_of_eq (Nat.lt_succ_self _) Stage.epoch_callStart.symm)

lemma contacts (h : Traced S τ) : τ.Contacts := by
  induction h with
  | initial => exact ⟨fun h => absurd rfl h, by simp [Trace.Calls]⟩
  | submit _ _ ih | finish _ _ _ ih | stop _ ih => exact ⟨ih.known, ih.own⟩
  | @take τ c i rest stamp h hq ih =>
    have past : ∀ b e payload, τ.Calls b e payload → e ≤ τ.tracker.state.epoch := by
      rintro b e payload ⟨cause, m, hm, -, rfl⟩
      exact h.epoch_le hm
    have old : ∀ b e payload, (τ.take S stamp c i rest).Calls b e payload →
        τ.Calls b e payload ∨ b = τ.taken.length ∧ i = .event (.callStart payload) := by
      rintro b e payload ⟨cause, m, hm, input, he⟩
      rcases Nat.lt_or_ge b τ.taken.length with lt | ge
      · rw [Trace.take, List.getElem?_append_left lt] at hm
        exact .inl ⟨cause, m, hm, input, he⟩
      · rw [Trace.take, List.getElem?_append_right ge] at hm
        obtain ⟨at_, rfl, rfl⟩ : b - τ.taken.length = 0 ∧ c = cause ∧
            S.moment stamp τ.tracker i = m := by simpa [List.getElem?_singleton] using hm
        exact .inr ⟨by omega, input⟩
    have new : ∀ b e payload, e = τ.tracker.state.epoch + 1 →
        (τ.take S stamp c i rest).Calls b e payload → i = .event (.callStart payload) := by
      intro b e payload he hb
      rcases old b e payload hb with before | ⟨-, input⟩
      · have := past b e payload before
        omega
      · exact input
    rcases Stage.contact S stamp τ.tracker i with
      ⟨payload, rfl, he, hp, hh⟩ | ⟨other, ⟨he, hh⟩ | ⟨he, hp, hh⟩⟩
    · refine ⟨fun _ => ⟨τ.taken.length, payload, c,
        S.moment stamp τ.tracker (.event (.callStart payload)), by simp [Trace.take], rfl, rfl⟩, ?_⟩
      intro b payload' hb
      cases new b _ payload' he hb
      exact ⟨hp, hh⟩
    · refine ⟨fun some => absurd hh some, fun b payload hb => ?_⟩
      exact absurd (new b _ payload he hb) (other payload)
    · refine ⟨fun some => ?_, fun b payload hb => ?_⟩
      · obtain ⟨b, payload, cause, m, hm, input, same⟩ := ih.known fun none => some (hh.trans none)
        refine ⟨b, payload, cause, m, ?_, input, same.trans he.symm⟩
        rw [Trace.take, List.getElem?_append_left (List.getElem?_eq_some_iff.mp hm).1, hm]
      · rcases old b _ payload hb with before | ⟨-, input⟩
        · obtain ⟨phone, handle⟩ := ih.own b payload (he ▸ before)
          exact ⟨hp.trans phone, hh.trans handle⟩
        · exact absurd input (other payload)

lemma searches_le (h : Traced S τ) :
    (∀ k, τ.searches k ≤ 1) ∧ ∀ k, τ.taken.length ≤ k → τ.searches k = 0 := by
  induction h with
  | initial => simp [Trace.searches]
  | submit e _ ih => simpa [Trace.searches, Input.isFinding] using! ih
  | @finish τ ws vs k w is _ hw ends ih =>
    have same : ∀ j, Trace.searches { τ with
        queue := τ.queue ++ is.map (some k, ·), underway := ws ++ vs } j = τ.searches j := by
      intro j
      simp only [Trace.searches, hw, List.countP_append, List.countP_cons,
        countP_labelled Input.isFinding, ends.countP_isFinding, List.countP_nil]
      by_cases hk : k = j
      · simp [hk]
        omega
      · simp [hk]
    exact ⟨fun j => (same j).symm ▸ ih.1 j, fun j hj => (same j).trans (ih.2 j hj)⟩
  | @take τ c i rest stamp h hq ih =>
    have grows : ∀ j, (τ.take S stamp c i rest).searches j = τ.searches j +
        if τ.taken.length == j then (S.apply stamp τ.tracker i).2.countP Work.isLookup else 0 := by
      intro j
      simp only [Trace.searches, Trace.take, hq, List.countP_append, List.countP_cons,
        countP_labelled Work.isLookup, List.countP_nil]
      rw [Stage.moment_input]
      omega
    refine ⟨fun j => ?_, fun j hj => ?_⟩
    · rw [grows]
      split
      · next last =>
        rw [ih.2 j (Nat.le_of_eq (eq_of_beq last)), Nat.zero_add]
        exact Stage.countP_isLookup_le
      · exact ih.1 j
    · have past : τ.taken.length < j := Nat.lt_of_succ_le (by simpa [Trace.take] using hj)
      rw [grows, if_neg (by simpa using Nat.ne_of_lt past), ih.2 j (Nat.le_of_lt past)]
  | @stop τ _ ih =>
    have fewer : ∀ j, Trace.searches { τ with underway := [] } j ≤ τ.searches j := by
      intro j
      simp [Trace.searches, Nat.add_assoc]
    refine ⟨fun j => Nat.le_trans (fewer j) (ih.1 j), fun j hj => ?_⟩
    exact Nat.le_zero.mp (ih.2 j hj ▸ fewer j)

lemma countP_followed_le (h : Traced S τ) (k : Nat) :
    (τ.followed k).countP Work.isInjection ≤ 1 := by
  have each : ∀ x ∈ τ.taken, x.2.started.countP Work.isInjection ≤
      [x.2.input].countP Input.isFinding := by
    intro x hx
    obtain ⟨α, -, -, hm⟩ := h.before_of_mem hx
    rw [hm]
    exact Stage.countP_isInjection_le
  have all : ∀ xs : List (Option Nat × Moment), xs ⊆ τ.taken →
      ((xs.filter (·.1 == some k)).flatMap (·.2.started)).countP Work.isInjection ≤
        xs.countP fun x => x.1 == some k && x.2.input.isFinding := by
    intro xs sub
    induction xs with
    | nil => simp
    | cons x rest ih =>
      have := each x (sub List.mem_cons_self)
      have := ih fun y hy => sub (List.mem_cons_of_mem _ hy)
      by_cases hk : x.1 = some k
      · simp_all [List.countP_cons]
        omega
      · simp_all [List.countP_cons]
  have spent := (h.searches_le).1 k
  have := all τ.taken (List.Subset.refl _)
  simp only [Trace.searches] at spent
  rw [Trace.followed]
  omega

lemma lt_of_calls (h : Traced S τ) (hb : τ.Calls b epoch payload)
    (hk : τ.taken[k]? = some (cause, m)) (same : m.before.state.epoch = epoch) : b < k := by
  obtain ⟨cause', n, hn, opens, rfl⟩ := h.opens_of_calls hb
  obtain ⟨α, -, -, -, hm⟩ := h.before hk
  obtain ⟨β, -, -, -, hβ⟩ := h.before hn
  have grows : n.before.state.epoch ≤ n.after.state.epoch := by
    rw [hβ]
    exact Stage.epoch_le
  have grows' : m.before.state.epoch ≤ m.after.state.epoch := by
    rw [hm]
    exact Stage.epoch_le
  have moved := opens.2
  by_contra ge
  rcases Nat.lt_or_eq_of_le (Nat.le_of_not_lt ge) with lt | rfl
  · have := h.epoch_le_of_lt hk hn lt
    omega
  · obtain ⟨-, rfl⟩ : cause = cause' ∧ m = n := by simpa using hk.symm.trans hn
    exact moved same.symm

lemma exists_source (h : Traced S τ) (hj : τ.taken[j]? = some (cause, m))
    (hw : .injection handle context ∈ m.started) :
    ∃ k b node spec result payload,
      cause = some k ∧ b < k ∧ k < j ∧
      τ.Calls b m.before.state.epoch payload ∧
      τ.Started k (.lookup m.before.state.epoch node spec (Event.phone payload)) ∧
      m.input = .lookedUp m.before.state.epoch node result ∧
      m.started = [.injection handle context] ∧ result.success = true ∧
      result.context = context ∧ context.isEmpty = false ∧
      Event.handle payload = some handle := by
  obtain ⟨α, traced, earlier, queued, hm⟩ := h.before hj
  have kept : ∀ {b x}, α.taken[b]? = some x → b < j ∧ τ.taken[b]? = some x := by
    intro b x hb
    rw [earlier, List.getElem?_take] at hb
    split at hb
    · next lt => exact ⟨lt, hb⟩
    · cases hb
  rw [hm] at hw
  obtain ⟨only, known, node, result, input, success, same, filled⟩ := Stage.found_of_injection hw
  rw [input] at queued
  obtain ⟨k, w, is, rfl, ⟨cause', n, hk, hn⟩, ends, reported⟩ :=
    traced.sourced.queue _ _ queued (by simp [Input.epoch?])
  obtain ⟨spec, phone, rfl⟩ := ends.lookup_of_finding reported
  obtain ⟨b, payload, called⟩ := traced.contacts.known (by simp [known])
  obtain ⟨-, own⟩ := traced.contacts.own b payload called
  obtain ⟨β, begun, sooner, -, hβ⟩ := traced.before hk
  have searching := hn
  rw [hβ] at searching
  obtain ⟨now, rfl⟩ := Stage.tracker_of_lookup searching
  have lt : b < k := traced.lt_of_calls called hk (by rw [hβ]; exact now.symm)
  obtain ⟨cause'', call, hb, input', began⟩ := called
  have called' : β.Calls b β.tracker.state.epoch payload :=
    ⟨cause'', call, by rw [sooner, List.getElem?_take, if_pos lt, hb], input', began.trans now⟩
  obtain ⟨phone, -⟩ := begun.contacts.own b payload called'
  have same' : m.before.state.epoch = α.tracker.state.epoch := by rw [hm]; rfl
  rw [same']
  refine ⟨k, b, node, spec, result, payload, rfl, lt, (kept hk).1,
    ⟨cause'', call, (kept hb).2, input', began⟩, ⟨cause', n, (kept hk).2, phone ▸ hn⟩, input, ?_,
    success, same, filled, ?_⟩
  · rw [hm]
    exact only
  · rw [← own, known]

lemma not_injection_of_reset {call : Moment} (h : Traced S τ) (hk : k < b) (hb : b < j)
    (reset : τ.taken[b]? = some (cause, call)) (resets : Resets S call.input)
    (hj : τ.taken[j]? = some (some k, m)) : .injection handle context ∉ m.started := by
  intro hw
  obtain ⟨_, _, node, spec, result, payload, caused, -, -, -, ⟨cause', n, hn, hs⟩, -⟩ :=
    h.exists_source hj hw
  obtain rfl := Option.some.inj caused
  obtain ⟨α, -, -, -, hα⟩ := h.before reset
  have began : call.after.state.epoch = call.before.state.epoch + 1 := by
    rw [hα]
    exact resets.epoch_eq
  have searched := h.epoch_of_started hn hs rfl
  have := h.epoch_le_of_lt hn reset hk
  have := h.epoch_le_of_lt reset hj hb
  omega

end Traced

/-- An injection goes through the handle of the call start that has begun the present epoch, and
tells what a lookup with the number of this call start has found. A moment dispatches one lookup at
most, and a lookup leads to one injection at most, and to none once another call has begun or
failed. -/
theorem injections_stay_in_their_call (S : Stage) :
    (∀ os σ, Life S {} os σ → ∃ τ, Traced S τ ∧ τ.scene = σ ∧ τ.moments = moments os) ∧
    ∀ τ, Traced S τ →
      (∀ j cause m handle context, τ.taken[j]? = some (cause, m) →
        .injection handle context ∈ m.started → ∃ k b node spec result payload,
          cause = some k ∧ b < k ∧ k < j ∧
          τ.Calls b m.before.state.epoch payload ∧
          (∀ b', τ.Opens b' m.before.state.epoch → b' = b) ∧
          τ.Started k (.lookup m.before.state.epoch node spec (Event.phone payload)) ∧
          m.input = .lookedUp m.before.state.epoch node result ∧
          m.started = [.injection handle context] ∧ result.success = true ∧
          result.context = context ∧ context.isEmpty = false ∧
          Event.handle payload = some handle) ∧
      (∀ m ∈ τ.moments, m.started.countP Work.isLookup ≤ 1) ∧
      (∀ k, (τ.followed k).countP Work.isInjection ≤ 1) ∧
      ∀ (k b j : Nat) cause (m n : Moment) handle context, k < b → b < j →
        τ.taken[b]? = some (cause, n) → Resets S n.input → τ.taken[j]? = some (some k, m) →
        .injection handle context ∉ m.started := by
  refine ⟨fun os σ life => life.traced, fun τ traced => ⟨?_, ?_, traced.countP_followed_le, ?_⟩⟩
  · intro j cause m handle context hj hw
    obtain ⟨k, b, node, spec, result, payload, caused, lt, lt', called, rest⟩ :=
      traced.exists_source hj hw
    refine ⟨k, b, node, spec, result, payload, caused, lt, lt', called, ?_, rest⟩
    exact fun b' opens => traced.opens_unique opens (traced.opens_of_calls called)
  · intro m hm
    obtain ⟨x, hx, rfl⟩ := List.mem_map.mp hm
    obtain ⟨α, -, -, hα⟩ := traced.before_of_mem hx
    rw [hα]
    exact Stage.countP_isLookup_le
  · intro k b j cause m n handle context hk hb reset resets hj
    exact traced.not_injection_of_reset hk hb reset resets hj

def Stage.telling : Stage := { Stage.checking with helpers := ⟨true, true⟩ }

def caller : Fields := [("customer", .object [("number", .text "+15550100")]),
  ("monitor", .object [("controlUrl", .text "https://example.com/control")])]

def account : Lookup.Result := ⟨true, "Gold member", none, .null⟩

def Trace.found : Trace :=
  { Trace.hear Stage.telling "" {} [.callStart caller, .speechStart, .speechEnd, .speechEnd] with
    queue := [(some 3, .lookedUp 1 "action-1" account)]
    underway := [(0, .completion 1 "start-1" false false)] }

def Trace.told : Trace :=
  Trace.found.take Stage.telling "" (some 3) (.lookedUp 1 "action-1" account) []

theorem account_is_told_to_its_caller :
    Traced Stage.telling Trace.told ∧ ∃ m b node spec payload,
      Trace.told.taken[4]? = some (some 3, m) ∧
      m.started = [.injection "https://example.com/control" "Gold member"] ∧
      Trace.told.Calls b 1 payload ∧ Event.handle payload = some "https://example.com/control" ∧
      Trace.told.Started 3 (.lookup 1 node spec (Event.phone payload)) := by
  have asked : Traced Stage.telling (Trace.hear Stage.telling "" {}
      [.callStart caller, .speechStart, .speechEnd, .speechEnd]) := Traced.initial.hear rfl _
  have found : Traced Stage.telling Trace.found :=
    asked.finish (show _ = [_] ++ _ :: [] from rfl) (.lookup _ _ _ _ account)
  have told : Traced Stage.telling Trace.told := found.take "" rfl
  obtain ⟨m, last, only, first⟩ : ∃ m, Trace.told.taken[4]? = some (some 3, m) ∧
      m.started = [.injection "https://example.com/control" "Gold member"] ∧
      m.before.state.epoch = 1 := ⟨_, rfl, rfl, rfl⟩
  obtain ⟨k, b, node, spec, _, payload, caused, -, -, called, -, started, -, -, -, -, -, own⟩ :=
    ((injections_stay_in_their_call Stage.telling).2 _ told).1 4 _ _ _ _ last
      (only ▸ List.mem_cons_self)
  obtain rfl := Option.some.inj caused
  rw [first] at called started
  exact ⟨told, m, b, node, spec, payload, last, only, called, own, started⟩

end Dialogue.Call
