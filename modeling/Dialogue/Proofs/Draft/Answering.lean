import Dialogue.Draft.Generation
import Dialogue.Proofs.Json.Reading

/-! When a request for a flow is answered. Whatever a model does with it, there is a result, unless
its reply takes more to read or to tell of than may be spent: a whole number with too many digits, or
lists and objects too deep inside one another. -/

namespace Dialogue.Draft

open Text
open Json.Reader hiding Result

variable {backend : Option Backend} {description raw : String}

lemma built_readable {e : Json.ReadError} (payload : Json) :
    built payload ≠ .error (.unreadable e) := by
  unfold built
  split
  · nofun
  · dsimp only
    split <;> nofun

lemma nesting_le_of_given? {v w : Json} {key : String} (h : given? v key = some w) :
    w.nesting ≤ v.nesting :=
  Json.nesting_le_of_get? (Option.filter_eq_some_iff.mp h).1

lemma nesting_le_of_listed {payload item : Json} {key : String} {items : List Json}
    (h : payload.get? key = some (.list items)) (listed : item ∈ items) :
    item.nesting ≤ payload.nesting :=
  (Nat.le_succ_of_le (Json.nesting_le_of_mem_items listed)).trans (Json.nesting_le_of_get? h)

lemma item_of_parts {payload : Json} {errors : List ShapeError} {e : ShapeError}
    (h : parts payload = .error errors) (he : e ∈ errors) :
    e ∈ [.notObject, .noNodes, .noEdges] ∨ ∃ item, item.nesting ≤ payload.nesting ∧
      (nodeError? item = some e ∨ edgeError? item = some e) := by
  unfold parts at h
  split at h
  · next fs =>
    split at h
    · next nodes edges ofNodes ofEdges =>
      split at h
      · cases h
      · obtain rfl := Except.error.inj h
        refine .inr ?_
        rcases List.mem_append.mp he with he | he
        · obtain ⟨item, listed, fails⟩ := List.mem_filterMap.mp he
          exact ⟨item, nesting_le_of_listed ofNodes listed, .inl fails⟩
        · obtain ⟨item, listed, fails⟩ := List.mem_filterMap.mp he
          exact ⟨item, nesting_le_of_listed ofEdges listed, .inr fails⟩
    all_goals
      obtain rfl := Except.error.inj h
      simp_all
  · obtain rfl := Except.error.inj h
    simp_all

def Replies (backend : Option Backend) (description : String) (said : Option String) : Prop :=
  within strip description ≠ "" ∧ ∃ ask, backend = some ask ∧
    ask systemPrompt (request (within strip description)) = .reply said

lemma Replies.unique {said other : Option String} (h : Replies backend description said)
    (h' : Replies backend description other) : other = said := by
  obtain ⟨-, ask, rfl, reply⟩ := h
  obtain ⟨-, _, ⟨⟩, again⟩ := h'
  exact Completion.reply.inj (again.symm.trans reply)

section

variable [Limits]

def overtaxes (raw : String) : Bool :=
  match Json.read (within stripFences raw) with
  | .ok payload => (tooDeep? payload).isSome
  | .error (.malformed _) => false
  | .error (.tooManyDigits _) | .error (.tooDeep _) => true

lemma answered_iff (raw : String) : (∃ r, ofAnswer raw = .ok r) ↔ overtaxes raw = false := by
  -- By name only: to prove an equation here, its text would be read.
  delta ofAnswer ofReply overtaxes
  cases Json.read (within stripFences raw) with
  | ok payload =>
    dsimp only [ofPayload]
    cases tooDeep? payload with
    | some pass => exact iff_of_false (fun ⟨_, h⟩ => nomatch h) nofun
    | none =>
      refine iff_of_true ?_ rfl
      dsimp only
      cases draft : built payload with
      | ok d => exact ⟨_, rfl⟩
      | error e =>
        cases e with
        | unreadable e => exact absurd draft (built_readable payload)
        | misshapen | faulty => exact ⟨_, rfl⟩
  | error e =>
    cases e with
    | malformed => exact iff_of_true ⟨_, rfl⟩ rfl
    | tooManyDigits | tooDeep => exact iff_of_false (fun ⟨_, h⟩ => nomatch h) nofun

lemma nesting_of_shapeError {item : Json} {e : ShapeError} {pass : Json.Pass}
    (h : nodeError? item = some e ∨ edgeError? item = some e) (deep : e.tooDeep? = some pass) :
    min Limits.write Limits.tell < item.nesting := by
  rcases h with h | h
  · unfold nodeError? at h
    split at h
    · next id _ given _ =>
      split_ifs at h
      obtain rfl := Option.some.inj h
      have high := not_le.mp (Option.ite_none_left_eq_some.mp deep).1
      have inside := id.height_le_nesting.trans (nesting_le_of_given? given)
      exact (min_le_right _ _).trans_lt (high.trans_le inside)
    · obtain rfl := Option.some.inj h
      exact (min_le_left _ _).trans_lt (not_le.mp (Option.ite_none_left_eq_some.mp deep).1)
  · unfold edgeError? at h
    split_ifs at h
    obtain rfl := Option.some.inj h
    exact (min_le_left _ _).trans_lt (not_le.mp (Option.ite_none_left_eq_some.mp deep).1)

lemma nesting_of_tooDeep? {payload : Json} {pass : Json.Pass} (h : tooDeep? payload = some pass) :
    min Limits.write Limits.tell < payload.nesting := by
  unfold tooDeep? at h
  split at h
  · next errors wrong =>
    obtain ⟨e, he, deep⟩ := List.exists_of_findSome?_eq_some h
    rcases item_of_parts wrong he with plain | ⟨item, inside, fails⟩
    · simp only [List.mem_cons, List.not_mem_nil, or_false] at plain
      rcases plain with rfl | rfl | rfl <;> cases deep
    · exact (nesting_of_shapeError fails deep).trans_le inside
  · have high := not_le.mp (Option.ite_none_left_eq_some.mp h).1
    cases given : given? payload "summary" with
    | none => simp [given, Json.height] at high
    | some w =>
      rw [given, Option.getD_some] at high
      have inside := w.height_le_nesting.trans (nesting_le_of_given? given)
      exact (min_le_right _ _).trans_lt (high.trans_le inside)

/-- What in a reply takes more to read than may be spent: a number with too many digits, or lists and
objects that are too deep inside one another for it, or for telling what is wrong with them. -/
inductive Burden (raw : String) : Prop
  | digits : HasLongNumber raw.toList → Burden raw
  | depth : Limits.read < raw.toList.countP opens → Burden raw
  | told {payload : Json} : Json.read (within stripFences raw) = .ok payload →
      min Limits.write Limits.tell < payload.nesting → Burden raw

lemma burden_of_overtaxes (h : overtaxes raw = true) : Burden raw := by
  have inside : (within stripFences raw).toList <:+: raw.toList := by
    rw [within, String.toList_ofList]
    exact infix_stripFences _
  delta overtaxes at h
  cases reads : Json.read (within stripFences raw) with
  | ok payload =>
    simp only [reads] at h
    obtain ⟨pass, deep⟩ := Option.isSome_iff_exists.mp h
    exact .told reads (nesting_of_tooDeep? deep)
  | error e =>
    cases e with
    | malformed => simp [reads] at h
    | tooManyDigits => exact .digits ((Json.longNumber_of_read reads).mono inside)
    | tooDeep => exact .depth ((Json.deep_of_read reads).trans_le inside.sublist.countP_le)

lemma burden_of_error {e : Json.ReadError} (h : ofAnswer raw = .error e) : Burden raw := by
  apply burden_of_overtaxes
  by_contra light
  obtain ⟨r, answered⟩ := (answered_iff raw).mpr (Bool.not_eq_true _ ▸ light)
  rw [answered] at h
  cases h

lemma Replies.outcome_eq {said : Option String} (h : Replies backend description said) :
    (generate backend description).outcome = ofAnswer (said.getD "") := by
  obtain ⟨filled, ask, rfl, reply⟩ := h
  have wish : (within strip description).isEmpty = false := by simpa using filled
  simp only [generate, wish, Bool.false_eq_true, if_false, reply]

lemma failed_of_no_reply (silent : ∀ said, ¬ Replies backend description said) :
    ∃ message, (generate backend description).outcome = .ok (.failed message) := by
  cases blank : (within strip description).isEmpty with
  | true => exact ⟨_, by simp only [generate, blank, if_true]; rfl⟩
  | false =>
    have filled : within strip description ≠ "" := by simpa using blank
    cases backend with
    | none => exact ⟨_, by simp only [generate, blank]; rfl⟩
    | some ask =>
      cases answer : ask systemPrompt (request (within strip description)) with
      | failure message => exact ⟨_, by simp only [generate, blank, answer]; rfl⟩
      | reply said => exact absurd ⟨filled, ask, rfl, answer⟩ (silent said)

lemma generated_of_no_reply (silent : ∀ said, ¬ Replies backend description said) :
    ∃ r, (generate backend description).outcome = .ok r :=
  let ⟨_, ends⟩ := failed_of_no_reply silent
  ⟨_, ends⟩

/-- A request comes to a result for every description and whatever the model does, unless it replies
with a text that takes more to read or to tell of than may be spent, by a number or by its depth. -/
theorem generation_ends_iff (backend : Option Backend) (description : String) :
    ((∃ r, (generate backend description).outcome = .ok r) ↔
      ∀ said, Replies backend description said → overtaxes (said.getD "") = false) ∧
    ∀ e, (generate backend description).outcome = .error e →
      ∃ said, Replies backend description said ∧ Burden (said.getD "") := by
  by_cases replies : ∃ said, Replies backend description said
  · obtain ⟨said, reply⟩ := replies
    rw [reply.outcome_eq, answered_iff]
    refine ⟨⟨fun light other h => reply.unique h ▸ light, fun light => light said reply⟩, ?_⟩
    exact fun e ends => ⟨said, reply, burden_of_error ends⟩
  · have silent : ∀ said, ¬ Replies backend description said := fun said h => replies ⟨said, h⟩
    obtain ⟨r, ends⟩ := generated_of_no_reply silent
    refine ⟨iff_of_true ⟨r, ends⟩ fun said h => absurd h (silent said), fun e fails => ?_⟩
    rw [ends] at fails
    cases fails

end

def fragment : String := "\x60\x60\x60json\n\x7b\"nodes\": [\x7b\"id\": 1e999"

theorem fragment_is_answered : letI := Limits.usual
    ∃ r, (generate (some fun _ _ => .reply (some fragment)) "a pizza line").outcome = .ok r := by
  let _ := Limits.usual
  refine (generation_ends_iff _ _).1.mpr ?_
  rintro _ ⟨-, _, ⟨⟩, ⟨⟩⟩
  decide +kernel

def ones (n : Nat) : List Char := List.replicate n '1'

lemma wholePart_ones (n : Nat) :
    wholePart (ones (n + 1)) = some (ones (n + 1), []) := by
  have digits : (ones (n + 1)).takeWhile Decimal.isAsciiDigit = ones (n + 1) := by
    simp [ones, Decimal.isAsciiDigit]
  have none : (ones (n + 1)).dropWhile Decimal.isAsciiDigit = [] := by
    simp [ones, Decimal.isAsciiDigit]
  rw [wholePart]
  · rw [digits, none]
    rfl
  · simp [ones, List.replicate_succ]

lemma number_ones {n : Nat} (many : digitLimit < n + 1) :
    number ('1' :: ones n) = .error (.tooManyDigits (n + 1)) := by
  have whole : wholePart ('1' :: ones n) = some ('1' :: ones n, []) := wholePart_ones n
  have count : (ones n).length = n := List.length_replicate
  simp [number, whole, places, exponent, count, many]

lemma read_ones [Limits] {n : Nat} (many : digitLimit < n + 1) :
    Json.read (String.ofList ('1' :: ones n)) = .error (.tooManyDigits (n + 1)) := by
  have skips : skip ('1' :: ones n) = '1' :: ones n := rfl
  have scalar : scalar ('1' :: ones n) = .error (.tooManyDigits (n + 1)) := by
    simp [scalar, number_ones many]
  have whole : document ('1' :: ones n) = .error (.tooManyDigits (n + 1)) := by
    simp [document, skips, value, scalar, bind, Except.bind]
  rw [Json.read, String.toList_ofList, whole]

lemma stripFences_ones (n : Nat) : stripFences ('1' :: ones n) = '1' :: ones n := by
  have edge : isEdge '1' = true := by decide
  have last : Ends ('1' :: ones n) [] := ⟨ones n, '1', List.replicate_succ', edge⟩
  have bare := Fenced.bare (t := '1' :: ones n) margin_nil margin_nil
  simpa using stripFences_of_fenced ⟨⟨'1', ones n, rfl, edge⟩, last⟩ bare

lemma ofAnswer_ones [Limits] {n : Nat} (many : digitLimit < n + 1) :
    ofAnswer (String.ofList ('1' :: ones n)) = .error (.tooManyDigits (n + 1)) := by
  delta ofAnswer ofReply
  rw [within, String.toList_ofList, stripFences_ones, read_ones many]

theorem long_number_leaves_no_generation : letI := Limits.usual
    (generate (some fun _ _ => .reply (some (String.ofList ('1' :: ones 4300))))
      "a pizza line").outcome = .error (.tooManyDigits 4301) := by
  let _ := Limits.usual
  have filled : within strip "a pizza line" ≠ "" := by decide +kernel
  have reply : Replies _ "a pizza line" (some (String.ofList ('1' :: ones 4300))) :=
    ⟨filled, fun _ _ => .reply (some (String.ofList ('1' :: ones 4300))), rfl, rfl⟩
  exact reply.outcome_eq.trans (ofAnswer_ones (by decide))

end Dialogue.Draft
