import Dialogue.Lookup.Exchange
import Dialogue.Proofs.Lookup.Walking

/-! How a lookup ends. Whatever the transport does, it ends with a result: with the data that the
transport found, or with an error that is not empty. Only what comes after the exchange can keep a
result away: a mapping that cannot be shown of the data, or a relay's error that cannot be told. -/

namespace Dialogue.Lookup

def Accepts (r : Response) (fs : Fields) : Prop :=
  (r.status < 400 ∨ 600 ≤ r.status) ∧
    ∀ n, (Fields.get? fs "status").getD (.whole r.status) = .whole n → n < 400

/-- The data that the transport finds: the value of an answer that is no client or server error, or
the data that a relay hands on with no failure of its own or of the target. -/
inductive Found (route : Route) (transport : Transport) (l : Lookup) (phone : Option String) :
    Json → Prop
  | direct {r : Response} {data : Json} : l.endpoint ≠ "" → nonEmpty? route.relay = none →
      transport (request route l phone) = .answered r → r.status < 400 ∨ 600 ≤ r.status →
      r.value = .ok data → Found route transport l phone data
  | relayed {r : Response} {fs : Fields} {relay : String} : l.endpoint ≠ "" →
      nonEmpty? route.relay = some relay → transport (request route l phone) = .answered r →
      r.value = .ok (.object fs) → Accepts r fs →
      Found route transport l phone ((Fields.get? fs "data").getD .null)

inductive Blamed (route : Route) (transport : Transport) (l : Lookup) (phone : Option String) :
    Json → Prop
  | relayed {r : Response} {fs : Fields} {relay : String} {e : Json} : l.endpoint ≠ "" →
      nonEmpty? route.relay = some relay → transport (request route l phone) = .answered r →
      r.value = .ok (.object fs) → ¬ Accepts r fs → Fields.get? fs "error" = some e →
      e.counts = true → Blamed route transport l phone e

/-- What a mapping leads to can be shown: no segment is in the way, and the value is not too deep. -/
structure Showable [Limits] (m : Mapping) (data : Json) : Prop where
  clear : ¬ Obstructed (segments m.path) data
  shallow : ∀ v, valueAt data m.path = .ok v → v.nesting ≤ Limits.write

variable {route : Route} {transport : Transport} {l : Lookup} {phone : Option String} {data : Json}
  {url : String} {r : Response} {fs : Fields} {e : Reason}

lemma mapM_error_iff {α β ε : Type} (f : α → Except ε β) (xs : List α) :
    (∃ e, xs.mapM f = .error e) ↔ ∃ x ∈ xs, ∃ e, f x = .error e := by
  induction xs with
  | nil => simp [pure, Except.pure]
  | cons x xs ih =>
    simp only [List.mapM_cons, List.mem_cons, exists_eq_or_imp, ← ih]
    cases f x with
    | error e => simp [bind, Except.bind]
    | ok y => cases xs.mapM f <;> simp [bind, Except.bind, pure, Except.pure]

section

variable [Limits]

lemma contextLine_error_iff (data : Json) (m : Mapping) :
    (∃ e, contextLine data m = .error e) ↔ ¬ Showable m data := by
  have walked : (∃ e, valueAt data m.path = .error e) ↔ Obstructed (segments m.path) data :=
    follow_error_iff
  constructor
  · rintro ⟨e, fails⟩ ⟨clear, shallow⟩
    cases reached : valueAt data m.path with
    | error e => exact clear (walked.mp ⟨e, reached⟩)
    | ok v => simp [contextLine, shown, reached, shallow v reached, bind, Except.bind, pure,
        Except.pure] at fails
  · intro hidden
    cases reached : valueAt data m.path with
    | error e => exact ⟨e, by simp [contextLine, reached, bind, Except.bind]⟩
    | ok v =>
      have deep : ¬ v.nesting ≤ Limits.write := fun shallow => by
        refine hidden ⟨fun obstructed => ?_, fun w hw => ?_⟩
        · obtain ⟨e, fails⟩ := walked.mpr obstructed
          cases reached.symm.trans fails
        · cases reached.symm.trans hw
          exact shallow
      exact ⟨.tooDeep .writing, by simp [contextLine, shown, reached, deep, bind, Except.bind]⟩

lemma context_error_iff : (∃ e, context l data = .error e) ↔
    ∃ m ∈ l.mappings, m.enabled = true ∧ ¬ Showable m data := by
  simp only [← and_assoc, ← List.mem_filter (p := Mapping.enabled), ← contextLine_error_iff,
    ← mapM_error_iff]
  unfold context
  cases l.mappings.filter Mapping.enabled with
  | nil => simp [pure, Except.pure]
  | cons m ms =>
    dsimp only
    generalize (m :: ms).mapM (contextLine data) = lines
    cases lines <;> simp [bind, Except.bind, pure, Except.pure]

end

lemma statusError_eq_none (url : String) :
    statusError r url = none ↔ r.status < 400 ∨ 600 ≤ r.status := by
  simp only [statusError, Bool.and_eq_true, decide_eq_true_eq]
  split_ifs with client server
  · exact iff_of_false nofun (by omega)
  · exact iff_of_false nofun (by omega)
  · exact iff_of_true rfl (by omega)

lemma directData_eq_ok : directData url r = .ok data ↔
    (r.status < 400 ∨ 600 ≤ r.status) ∧ r.value = .ok data := by
  rw [← statusError_eq_none url, directData]
  cases statusError r url <;> cases r.value <;> simp

lemma height_of_directData {e : Reason} (h : directData url r = .error e) : e.height = 0 := by
  unfold directData at h
  split at h <;> cases h <;> rfl

lemma accepts_iff : Accepts r fs ↔ isRefused r.status = false ∧
    relayRefused ((Fields.get? fs "status").getD (.whole r.status)) = false := by
  refine and_congr (by simp [isRefused, imp_iff_not_or]) ?_
  cases (Fields.get? fs "status").getD (.whole r.status) <;> simp [relayRefused]

lemma Found.configured (h : Found route transport l phone data) : l.endpoint ≠ "" := by
  cases h <;> assumption

section

variable [Limits]

lemma relayData_of_accepts (answers : r.value = .ok (.object fs)) (accepts : Accepts r fs) :
    relayData r = .ok ((Fields.get? fs "data").getD .null) := by
  obtain ⟨own, target⟩ := accepts_iff.mp accepts
  simp [relayData, answers, own, target]

lemma relayData_of_not_accepts (answers : r.value = .ok (.object fs)) (refuses : ¬ Accepts r fs) :
    ∃ status, relayData r = .error (relayReason fs status) := by
  rw [accepts_iff, not_and_or, Bool.not_eq_false, Bool.not_eq_false, ← Bool.or_eq_true] at refuses
  refine ⟨(Fields.get? fs "status").getD (.whole r.status), ?_⟩
  simp only [relayData, answers, refuses, if_true]

lemma relayReason_eq (fs : Fields) (status : Json) :
    (∃ e, Fields.get? fs "error" = some e ∧ e.counts = true ∧ relayReason fs status = e) ∨
      relayReason fs status = .text (statusReason fs status) := by
  unfold relayReason
  cases given : (Fields.get? fs "error").filter Json.counts with
  | none => exact .inr rfl
  | some e =>
    obtain ⟨given, counts⟩ := Option.filter_eq_some_iff.mp given
    exact .inl ⟨e, given, counts, rfl⟩

lemma relayReason_of_given (given : Fields.get? fs "error" = some e) (counts : e.counts = true)
    (status : Json) : relayReason fs status = e := by
  simp [relayReason, given, Option.filter, counts]

lemma relayData_eq_ok : relayData r = .ok data ↔ ∃ fs, r.value = .ok (.object fs) ∧
    Accepts r fs ∧ (Fields.get? fs "data").getD .null = data := by
  constructor
  · intro h
    match answers : r.value with
    | .ok (.object fs) =>
      by_cases accepts : Accepts r fs
      · rw [relayData_of_accepts answers accepts] at h
        exact ⟨fs, rfl, accepts, Except.ok.inj h⟩
      · obtain ⟨_, refused⟩ := relayData_of_not_accepts answers accepts
        cases refused.symm.trans h
    | .error _ | .ok .null | .ok (.bool _) | .ok (.whole _) | .ok (.real _) | .ok (.text _)
    | .ok (.list _) => simp [relayData, answers] at h
  · rintro ⟨fs, answers, accepts, rfl⟩
    exact relayData_of_accepts answers accepts

/-! The exchange either finds the data or ends with a reason, which is a relay's own error or else a
text. -/

lemma found_iff (configured : l.endpoint ≠ "") : Found route transport l phone data ↔
    delivered route (request route l phone).url (transport (request route l phone)) = .ok data := by
  constructor
  · intro h
    cases h with
    | direct _ direct answer low value =>
      simp only [delivered, answer, direct, Option.isSome_none, Bool.false_eq_true, if_false,
        directData_eq_ok]
      exact ⟨low, value⟩
    | relayed _ relay answer value accepts =>
      simp only [delivered, answer, relay, Option.isSome_some, if_true]
      exact relayData_of_accepts value accepts
  · intro h
    cases answer : transport (request route l phone) with
    | broken message => simp [delivered, answer] at h
    | answered r =>
      cases relay : nonEmpty? route.relay with
      | none =>
        simp only [delivered, answer, relay, Option.isSome_none, Bool.false_eq_true, if_false,
          directData_eq_ok] at h
        exact .direct configured relay answer h.1 h.2
      | some _ =>
        simp only [delivered, answer, relay, Option.isSome_some, if_true, relayData_eq_ok] at h
        obtain ⟨fs, value, accepts, rfl⟩ := h
        exact .relayed configured relay answer value accepts

lemma Found.unique {other : Json} (h : Found route transport l phone data)
    (h' : Found route transport l phone other) : other = data :=
  Except.ok.inj (((found_iff h.configured).mp h').symm.trans ((found_iff h.configured).mp h))

lemma Blamed.refused (h : Blamed route transport l phone e) :
    delivered route (request route l phone).url (transport (request route l phone)) = .error e := by
  obtain ⟨-, relay, answer, value, refuses, given, counts⟩ := h
  obtain ⟨status, refused⟩ := relayData_of_not_accepts value refuses
  simp only [delivered, answer, relay, Option.isSome_some, if_true, refused,
    relayReason_of_given given counts]

lemma blamed_of_refused (configured : l.endpoint ≠ "") (refused : delivered route
      (request route l phone).url (transport (request route l phone)) = .error e) :
    Blamed route transport l phone e ∨ e.height = 0 := by
  cases answer : transport (request route l phone) with
  | broken message =>
    rw [answer] at refused
    cases refused
    exact .inr rfl
  | answered r =>
    cases relay : nonEmpty? route.relay with
    | none =>
      simp only [delivered, answer, relay, Option.isSome_none, Bool.false_eq_true, if_false]
        at refused
      exact .inr (height_of_directData refused)
    | some _ =>
      simp only [delivered, answer, relay, Option.isSome_some, if_true] at refused
      match value : r.value with
      | .ok (.object fs) =>
        by_cases accepts : Accepts r fs
        · cases (relayData_of_accepts value accepts).symm.trans refused
        · obtain ⟨status, reason⟩ := relayData_of_not_accepts value accepts
          cases reason.symm.trans refused
          rcases relayReason_eq fs status with ⟨e, given, counts, same⟩ | same
          · exact .inl (same ▸ .relayed configured relay answer value accepts given counts)
          · exact .inr (same ▸ rfl)
      | .error _ | .ok .null | .ok (.bool _) | .ok (.whole _) | .ok (.real _) | .ok (.text _)
      | .ok (.list _) =>
        simp only [relayData, value] at refused
        cases refused
        exact .inr rfl

lemma told_iff (configured : l.endpoint ≠ "") (refused : delivered route
      (request route l phone).url (transport (request route l phone)) = .error e) :
    e.height ≤ Limits.tell ↔
      ∀ reason, Blamed route transport l phone reason → reason.height ≤ Limits.tell := by
  constructor
  · intro low reason blamed
    cases blamed.refused.symm.trans refused
    exact low
  · intro told
    rcases blamed_of_refused configured refused with blamed | flat
    · exact told e blamed
    · exact flat ▸ Nat.zero_le _

lemma failure_eq_ok {result : Result} (h : failure e = .ok result) :
    e.height ≤ Limits.tell ∧ ∃ message, result = .failed message ∧ message ≠ "" := by
  unfold failure at h
  split_ifs at h with low silent
  · exact ⟨low, _, (Except.ok.inj h).symm, by decide⟩
  · exact ⟨low, _, (Except.ok.inj h).symm, by simpa using silent⟩

lemma failure_of_low (low : e.height ≤ Limits.tell) : ∃ result, failure e = .ok result :=
  ⟨_, if_pos low⟩

/-! How the exchange shows in the end of a lookup -/

lemma execute_found (h : Found route transport l phone data) :
    (execute route transport l phone).2 = (context l data).map fun c => ⟨true, c, none, data⟩ := by
  have delivers := (found_iff h.configured).mp h
  have configured : l.endpoint.isEmpty = false := by simpa using h.configured
  simp only [execute, configured, Bool.false_eq_true, if_false, delivers]

lemma execute_ok_of_found (h : Found route transport l phone data) :
    (∃ r, (execute route transport l phone).2 = .ok r) ↔
      ∀ m ∈ l.mappings, m.enabled = true → Showable m data := by
  have clear : (¬ ∃ e, context l data = .error e) ↔
      ∀ m ∈ l.mappings, m.enabled = true → Showable m data := by
    simp only [context_error_iff, not_exists, not_and, not_not]
  rw [← clear, execute_found h]
  cases context l data <;> simp [Except.map]

lemma execute_refused (configured : l.endpoint ≠ "") (refused : delivered route
      (request route l phone).url (transport (request route l phone)) = .error e) :
    (execute route transport l phone).2 = failure e := by
  have filled : l.endpoint.isEmpty = false := by simpa using configured
  simp only [execute, filled, Bool.false_eq_true, if_false, refused]

lemma execute_missed (h : ∀ data, ¬ Found route transport l phone data) :
    ((∃ r, (execute route transport l phone).2 = .ok r) ↔
      ∀ e, Blamed route transport l phone e → e.height ≤ Limits.tell) ∧
    ∀ r, (execute route transport l phone).2 = .ok r →
      ∃ message, r = .failed message ∧ message ≠ "" := by
  by_cases configured : l.endpoint = ""
  · have ends : (execute route transport l phone).2 =
        .ok (.failed "No API endpoint configured") := by
      simp [execute, configured]
    refine ⟨iff_of_true ⟨_, ends⟩ ?_, fun r hr => ?_⟩
    · rintro e ⟨filled⟩
      exact absurd configured filled
    · cases ends.symm.trans hr
      exact ⟨_, rfl, by decide⟩
  · cases delivers : delivered route (request route l phone).url
        (transport (request route l phone)) with
    | ok data => exact absurd ((found_iff configured).mpr delivers) (h data)
    | error e =>
      rw [execute_refused configured delivers, ← told_iff configured delivers]
      exact ⟨⟨fun ⟨_, ends⟩ => (failure_eq_ok ends).1, failure_of_low⟩,
        fun r ends => (failure_eq_ok ends).2⟩

/-- A lookup ends with a result for every route, transport, lookup and number, exactly if each enabled
mapping can be shown of the data that is found, and the error that a relay gives can be told. The
result is a success with the data that was found, or a failure for want of any with an error that is
not empty. -/
theorem lookup_settles_iff (route : Route) (transport : Transport) (l : Lookup)
    (phone : Option String) :
    ((∃ r, (execute route transport l phone).2 = .ok r) ↔
      (∀ data, Found route transport l phone data →
        ∀ m ∈ l.mappings, m.enabled = true → Showable m data) ∧
      ∀ e, Blamed route transport l phone e → e.height ≤ Limits.tell) ∧
    ∀ r, (execute route transport l phone).2 = .ok r →
      (r.success = true ∧ r.error = none ∧ Found route transport l phone r.data) ∨
      (r.success = false ∧ (∀ data, ¬ Found route transport l phone data) ∧
        ∃ e, r.error = some e ∧ e ≠ "") := by
  -- Only where data is found are the paths of the mappings followed at all.
  by_cases found : ∃ data, Found route transport l phone data
  · obtain ⟨data, found⟩ := found
    have blameless : ∀ e, ¬ Blamed route transport l phone e := fun e blamed => by
      cases blamed.refused.symm.trans ((found_iff found.configured).mp found)
    rw [execute_ok_of_found found]
    refine ⟨⟨fun shows => ⟨fun other hit => found.unique hit ▸ shows, fun e blamed =>
      absurd blamed (blameless e)⟩, fun ⟨shows, _⟩ => shows data found⟩, ?_⟩
    intro r ends
    rw [execute_found found] at ends
    cases block : context l data with
    | error e => simp [block, Except.map] at ends
    | ok c =>
      rw [block] at ends
      obtain rfl := Except.ok.inj ends
      exact .inl ⟨rfl, rfl, found⟩
  · have missed : ∀ data, ¬ Found route transport l phone data := fun data h => found ⟨data, h⟩
    obtain ⟨settles, fails⟩ := execute_missed missed
    refine ⟨settles.trans (iff_and_self.mpr fun _ data hit => absurd hit (missed data)), ?_⟩
    intro r ends
    obtain ⟨message, rfl, filled⟩ := fails r ends
    exact .inr ⟨rfl, missed, message, rfl, filled⟩

end

def orders : Json := .object [("orders", .list [.text "A-1", .text "A-2"])]

def shop : Transport := fun _ => .answered ⟨200, "OK", .ok orders⟩

def orderAt (path : String) : Lookup :=
  ⟨"https://shop.example/orders", [], [⟨path, "Order", true⟩], none, none⟩

lemma found_orders (path : String) : Found ⟨none, none, .whole 10⟩ shop (orderAt path) none orders :=
  .direct (by simp [orderAt]) rfl rfl (.inl (by decide)) rfl

theorem order_at_arabic_one : letI := Limits.usual
    ∃ r, (execute ⟨none, none, .whole 10⟩ shop (orderAt "orders.١") none).2 = .ok r ∧
      r.success = true := by
  let _ := Limits.usual
  have path : segments "orders.١" = [['o', 'r', 'd', 'e', 'r', 's'], ['١']] := by decide +kernel
  have written : isMiswritten ['١'] = false := by decide +kernel
  have shows : Showable ⟨"orders.١", "Order", true⟩ orders := by
    refine ⟨?_, fun v hv => (nesting_le_of_follow hv).trans (by decide)⟩
    simp [path, orders, obstructed_cons, not_obstructed_nil, written]
  have settles := lookup_settles_iff ⟨none, none, .whole 10⟩ shop (orderAt "orders.١") none
  obtain ⟨r, ends⟩ := settles.1.mpr ⟨fun data hit m mem _ => by
    rw [(found_orders "orders.١").unique hit, List.mem_singleton.mp mem]
    exact shows, fun e blamed => by cases blamed with | relayed _ relay => cases relay⟩
  refine ⟨r, ends, ?_⟩
  rcases settles.2 r ends with ⟨success, -⟩ | ⟨-, missed, -⟩
  · exact success
  · exact absurd (found_orders "orders.١") (missed orders)

theorem order_at_superscript_two : letI := Limits.usual
    (execute ⟨none, none, .whole 10⟩ shop (orderAt "orders.²") none).2 =
      .error (.noNumber ['²']) := by
  let _ := Limits.usual
  have path : segments "orders.²" = [['o', 'r', 'd', 'e', 'r', 's'], ['²']] := by decide +kernel
  have fails : valueAt orders "orders.²" = .error (.noNumber ['²']) := by
    rw [valueAt, path]
    rfl
  rw [execute_found (found_orders _)]
  simp [context, contextLine, orderAt, fails, bind, Except.bind, Except.map]

end Dialogue.Lookup
