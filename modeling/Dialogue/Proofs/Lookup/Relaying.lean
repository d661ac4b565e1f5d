import Dialogue.Proofs.Lookup.Settling

/-! Whether a lookup travels directly or through a relay makes no difference to what it asks of the
target nor to what becomes of the answer. -/

namespace Dialogue.Lookup

inductive Asks : Request → String → Fields → Prop
  | directly {url : String} {headers : Fields} {timeout : Json} :
      Asks ⟨"GET", url, some headers, none, timeout⟩ url headers
  | through {relay url : String} {own headers : Fields} {timeout : Json} :
      Asks ⟨"POST", relay, some own, some (.object [("url", .text url), ("method", .text "GET"),
        ("headers", .object headers)]), timeout⟩ url headers

def report (status : Int) (statusText : String) (data : Json) : Json :=
  .object [("status", .whole status), ("statusText", .text statusText), ("data", data),
    ("error", .null)]

variable {route direct through : Route} {transport upstream relayed : Transport} {l : Lookup}
  {phone : Option String} {relay statusText reason reason' : String} {status : Int} {data : Json}

lemma asks_request (route : Route) (l : Lookup) (phone : Option String) :
    Asks (request route l phone) (targetUrl l.endpoint phone) (headerFields l) := by
  unfold request
  cases nonEmpty? route.relay with
  | none => exact .directly
  | some relay => exact .through

section

variable [Limits]

lemma requests_of_configured (configured : l.endpoint ≠ "") :
    (execute route transport l phone).1 = [request route l phone] := by
  have filled : l.endpoint.isEmpty = false := by simpa using configured
  simp only [execute, filled, Bool.false_eq_true, if_false]

lemma found_direct_iff {found : Json} (configured : l.endpoint ≠ "")
    (unrelayed : nonEmpty? direct.relay = none) (bound : status < 600)
    (answers : upstream (request direct l phone) = .answered ⟨status, reason, .ok data⟩) :
    Found direct upstream l phone found ↔ status < 400 ∧ found = data := by
  have low : status < 400 ∨ 600 ≤ status ↔ status < 400 := by omega
  rw [found_iff configured, answers, delivered, unrelayed, Option.isSome_none,
    if_neg Bool.false_ne_true, directData_eq_ok, low, Except.ok.injEq, eq_comm (a := data)]

lemma found_relayed_iff {found : Json} (configured : l.endpoint ≠ "")
    (rerouted : nonEmpty? through.relay = some relay)
    (answers : relayed (request through l phone) =
      .answered ⟨200, reason, .ok (report status statusText data)⟩) :
    Found through relayed l phone found ↔ status < 400 ∧ found = data := by
  rw [found_iff configured, answers, delivered, rerouted, Option.isSome_some, if_pos rfl,
    relayData_eq_ok]
  simp [report, Accepts, Fields.get?, List.lookup_cons, eq_comm (a := data)]

lemma succeeds_iff (found : ∀ v, Found route transport l phone v ↔ status < 400 ∧ v = data)
    {r : Result} (success : r.success = true) : (execute route transport l phone).2 = .ok r ↔
      status < 400 ∧ ∃ c, context l data = .ok c ∧ r = ⟨true, c, none, data⟩ := by
  by_cases low : status < 400
  · rw [execute_found ((found data).mpr ⟨low, rfl⟩)]
    cases context l data <;> simp [Except.map, low, eq_comm (a := r)]
  · obtain ⟨-, fails⟩ := execute_missed fun v hit => low ((found v).mp hit).1
    refine iff_of_false (fun ends => ?_) fun h => low h.1
    obtain ⟨message, rfl, -⟩ := fails r ends
    cases success

/-- A relay that reports what the target answered is as good as the target: the lookup asks for the
same under the same headers, and it succeeds with the same result and in the same cases, which are
those of a status below 400 and of data whose context can be told. -/
theorem relaying_is_transparent (configured : l.endpoint ≠ "")
    (unrelayed : nonEmpty? direct.relay = none) (rerouted : nonEmpty? through.relay = some relay)
    (bound : status < 600)
    (answers : upstream (request direct l phone) = .answered ⟨status, reason, .ok data⟩)
    (reports : relayed (request through l phone) =
      .answered ⟨200, reason', .ok (report status statusText data)⟩) :
    (∃ asked asked', (execute direct upstream l phone).1 = [asked] ∧
      (execute through relayed l phone).1 = [asked'] ∧
      asked.url = targetUrl l.endpoint phone ∧ asked'.url = relay ∧
      Asks asked (targetUrl l.endpoint phone) (headerFields l) ∧
      Asks asked' (targetUrl l.endpoint phone) (headerFields l)) ∧
    ∀ r : Result, r.success = true →
      ((execute direct upstream l phone).2 = .ok r ↔ (execute through relayed l phone).2 = .ok r) ∧
      ((execute direct upstream l phone).2 = .ok r ↔
        status < 400 ∧ ∃ c, context l data = .ok c ∧ r = ⟨true, c, none, data⟩) := by
  have plainly (v : Json) : Found direct upstream l phone v ↔ status < 400 ∧ v = data :=
    found_direct_iff configured unrelayed bound answers
  have around (v : Json) : Found through relayed l phone v ↔ status < 400 ∧ v = data :=
    found_relayed_iff configured rerouted reports
  refine ⟨⟨_, _, requests_of_configured configured, requests_of_configured configured, ?_, ?_,
    asks_request direct l phone, asks_request through l phone⟩, fun r success => ⟨?_, ?_⟩⟩
  · simp [request, unrelayed]
  · simp [request, rerouted]
  · rw [succeeds_iff plainly success, succeeds_iff around success]
  · exact succeeds_iff plainly success

end

def orderNumbers : Json := .list [.text "A-1", .null]

def orderLookup : Lookup :=
  ⟨"https://shop.example/\x7bphone\x7d", [⟨"X-Key", "k"⟩], [⟨"0", "Order", true⟩], none, none⟩

theorem redirected_orders_are_relayed : letI := Limits.usual
    let direct : Route := ⟨none, none, .whole 10⟩
    let through : Route := ⟨some "https://relay.example", some "t", .whole 10⟩
    let upstream : Transport := fun _ => .answered ⟨302, "Found", .ok orderNumbers⟩
    let relayed : Transport := fun _ => .answered ⟨200, "OK", .ok (report 302 "Found" orderNumbers)⟩
    let result : Result :=
      ⟨true, "[CONTEXT UPDATE] Customer information retrieved:\n- Order: A-1", none, orderNumbers⟩
    (execute direct upstream orderLookup (some "+1 555")).2 = .ok result ∧
    (execute through relayed orderLookup (some "+1 555")).2 = .ok result := by
  let _ := Limits.usual
  intro direct through upstream relayed result
  have block : context orderLookup orderNumbers = .ok result.context := by decide +kernel
  have answers : upstream (request direct orderLookup (some "+1 555")) =
      .answered ⟨302, "Found", .ok orderNumbers⟩ := rfl
  have reports : relayed (request through orderLookup (some "+1 555")) =
      .answered ⟨200, "OK", .ok (report 302 "Found" orderNumbers)⟩ := rfl
  have unrelayed : nonEmpty? direct.relay = none := rfl
  have rerouted : nonEmpty? through.relay = some "https://relay.example" := by decide
  have configured : orderLookup.endpoint ≠ "" := by decide
  obtain ⟨-, same⟩ :=
    relaying_is_transparent configured unrelayed rerouted (by decide) answers reports
  obtain ⟨agree, succeeds⟩ := same result rfl
  have plainly := succeeds.mpr ⟨by decide, _, block, rfl⟩
  exact ⟨plainly, agree.mp plainly⟩

end Dialogue.Lookup
