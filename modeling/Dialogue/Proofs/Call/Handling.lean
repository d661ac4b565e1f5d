import Dialogue.Call.Handling
import Mathlib.Tactic.Common

/-! What each handler can bring: a change found among its changes, with the guards that it
passed. -/

namespace Dialogue.Call

variable {g : Flow} {helpers : Helpers} {t : Tracker} {s : State} {i : Input} {c : Change}
  {w : Work}

lemma kindOf_of_node {id : String} {n : Node} (h : g.node? id = some n) :
    kindOf g id = some n.kind := by
  simp [kindOf, h]

lemma exists_node_of_kind {id : String} {k : Kind} (h : kindOf g id = some k) :
    ∃ n, g.node? id = some n ∧ n.kind = k := Option.map_eq_some_iff.mp h

lemma nodes_of_ahead {id : String} {next : Node} (h : (g.next? id).bind g.node? = some next) :
    g.next? id = some next.id ∧ g.node? next.id = some next := by
  obtain ⟨x, first, node⟩ := Option.bind_eq_some_iff.mp h
  obtain rfl := Flow.node?_id node
  exact ⟨first, node⟩

lemma kindOf_of_ahead {id : String} {next : Node} (h : (g.next? id).bind g.node? = some next) :
    kindOf g next.id = some next.kind := kindOf_of_node (nodes_of_ahead h).2

@[grind →] lemma mem_onEvent {e : Event} (h : c ∈ onEvent g helpers t e) :
    (∃ payload, e = .callStart payload ∧ c ∈ onCallStart g t.state payload) ∨
    (∃ payload, e = .failure payload ∧ c ∈ onFailure) ∨
    t.state.isActive = true ∧
      (e = .speechStart ∧ c ∈ onSpeechStart g t.state ∨
        e = .speechEnd ∧ c ∈ onSpeechEnd g helpers t.state ∨
        (∃ role transcript, e = .message role transcript ∧ c ∈ onMessage g t role transcript) ∨
        e = .callEnd ∧ c ∈ onCallEnd g t.state) := by
  cases e <;> simp only [onEvent] at h <;> grind

@[grind →] lemma mem_onCallStart {payload : Fields} (h : c ∈ onCallStart g s payload) :
    c = .begin (Event.phone payload) (Event.handle payload) ∨ c = .resetView ∨
      ∃ n, g.start? = some n ∧
        (c = .moveTo n.id ∨ c = .spawn (.completion (s.epoch + 1) n.id false false)) := by
  unfold onCallStart at h
  grind

@[grind →] lemma mem_onFailure (h : c ∈ onFailure) : c = .resetView ∨ c = .fail := by
  simpa [onFailure] using h

@[grind =] lemma mem_arrive {node : String} : c ∈ arrive g s node ↔ c = .moveTo node ∨
    kindOf g node = some .ending ∧ c = .spawn (.completion s.epoch node false true) := by
  unfold arrive
  grind

@[grind →] lemma mem_onSpeechStart (h : c ∈ onSpeechStart g s) :
    ∃ id, s.current = some id ∧ (s.isClassifying = true → kindOf g id ≠ some .branch) ∧
      (c = .highlight (some id) ∨
        (kindOf g id = some .start ∨ s.isVisited id = true) ∧ ∃ next, g.next? id = some next ∧
          s.isVisited next = false ∧ (c = .complete id ∨ c = .moveTo next)) := by
  unfold onSpeechStart at h
  grind

@[grind →] lemma mem_lookupWork {n : Node} (h : c ∈ lookupWork helpers s n) :
    ∃ spoken actionType spec, n.content = .action spoken actionType (some spec) ∧
      spec.endpoint.isEmpty = false ∧ helpers.looksUp = true ∧
      c = .spawn (.lookup s.epoch n.id spec s.phone) := by
  unfold lookupWork at h
  grind

@[grind →] lemma mem_onSpeechEnd (h : c ∈ onSpeechEnd g helpers s) :
    ∃ id, s.current = some id ∧
      (c = .complete id ∨
        ∃ n, g.node? id = some n ∧ (n.kind = .message ∨ n.kind = .action) ∧
          (c ∈ lookupWork helpers s n ∨
            ∃ next, (g.next? id).bind g.node? = some next ∧
              (s.visit id).isVisited next.id = false ∧ c ∈ arrive g s next.id)) := by
  unfold onSpeechEnd at h
  grind

@[grind →] lemma mem_onMessage {role : Role} {transcript : String}
    (h : c ∈ onMessage g t role transcript) :
    (∃ content, c = .record role.name content) ∨
    transcript.isEmpty = false ∧
      (role = .assistant ∧ c ∈ onAssistant g t.state transcript ∨
        role = .user ∧ c ∈ onUser g t transcript) := by
  simp only [onMessage, List.mem_append] at h
  rcases h with h | h
  · split at h
    · simp at h
    · exact .inl ⟨_, by simpa using h⟩
  · right
    split at h
    · simp at h
    · cases role <;> simp_all

@[grind →] lemma mem_onAssistant {transcript : String} (h : c ∈ onAssistant g s transcript) :
    (∃ marked, markedStep g transcript = some marked ∧ c ∈ onMarker g s marked) ∨
    markedStep g transcript = none ∧ c ∈ onUnmarked g s := by
  unfold onAssistant at h
  grind

@[grind →] lemma mem_onMarker {marked : String} (h : c ∈ onMarker g s marked) :
    (∃ previous, s.current = some previous ∧ previous ≠ marked ∧
      (c = .complete previous ∨ c = .remember none ∨
        s.isClassifying = true ∧ c = .forgetTicket)) ∨
    c ∈ arrive g s marked := by
  unfold onMarker at h
  grind

@[grind →] lemma mem_onUnmarked (h : c ∈ onUnmarked g s) :
    ∃ id, s.current = some id ∧
      ((kindOf g id = some .start ∧ s.isVisited id = false ∧
          ∃ next, g.next? id = some next ∧ (c = .complete id ∨ c = .moveTo next)) ∨
        kindOf g id = some .branch ∧ ∃ intent, s.intent = some intent ∧
          (c = .remember none ∨
            ∃ e, g.matchEdge id intent = some e ∧ (c = .complete id ∨ c = .moveTo e.target))) := by
  unfold onUnmarked at h
  cases current : s.current with
  | none => simp [current] at h
  | some id =>
    simp only [current] at h
    split at h
    · grind
    · cases intent : s.intent <;> grind
    · simp at h

@[grind →] lemma mem_classify {branch utterance : String} (h : c ∈ classify g t branch utterance) :
    c = .awaitTicket (t.tickets + 1) ∨
      c = .spawn (.classification t.state.epoch (t.tickets + 1) branch utterance
        (g.candidates branch)) := by
  unfold classify at h
  split at h <;> simp_all

@[grind →] lemma mem_onUser {transcript : String} (h : c ∈ onUser g t transcript) :
    ∃ id, t.state.current = some id ∧
      (kindOf g id = some .listen ∧
          (c = .complete id ∨ ∃ next, (g.next? id).bind g.node? = some next ∧
            (c = .moveTo next.id ∨ next.kind = .branch ∧ c ∈ classify g t next.id transcript)) ∨
        kindOf g id = some .branch ∧ c ∈ classify g t id transcript) := by
  unfold onUser at h
  grind

@[grind →] lemma mem_onCallEnd (h : c ∈ onCallEnd g s) :
    (∃ id, s.current = some id ∧ c = .complete id) ∨
    (∃ n, g.ending? = some n ∧
      (c = .highlight (some n.id) ∨ c = .spawn (.completion s.epoch n.id true true))) ∨
    c = .highlight none ∨ c = .hangUp := by
  simp only [onCallEnd, List.mem_append] at h
  rcases h with (h | h) | h
  · exact .inl (by simpa [eq_comm] using h)
  · grind
  · grind

@[grind →] lemma mem_onCompleted {epoch : Nat} {node : String} {clears : Bool}
    (h : c ∈ onCompleted s epoch node clears) :
    epoch = s.epoch ∧
      (c = .complete node ∨ clears = true ∧ s.current = none ∧ c = .highlight none) := by
  simp only [onCompleted, Bool.and_eq_true, Option.isNone_iff_eq_none] at h
  grind

@[grind →] lemma mem_onClassified {epoch ticket : Nat} {branch : String} {intent : Option String}
    (h : c ∈ onClassified g s epoch ticket branch intent) :
    epoch = s.epoch ∧ s.isActive = true ∧ s.ticket = some ticket ∧
      (c = .forgetTicket ∨ s.current = some branch ∧ ∃ named, intent = some named ∧
        (c = .remember (some named) ∨ ∃ e, g.matchEdge branch named = some e ∧
          (c = .complete branch ∨ c = .moveTo e.target ∨ c = .remember none))) := by
  unfold onClassified at h
  grind

@[grind →] lemma mem_onLookedUp {epoch : Nat} {result : Lookup.Result}
    (h : c ∈ onLookedUp helpers s epoch result) :
    epoch = s.epoch ∧ result.success = true ∧ result.context.isEmpty = false ∧
      helpers.injects = true ∧
      ∃ handle, s.handle = some handle ∧ c = .spawn (.injection handle result.context) := by
  unfold onLookedUp at h
  grind

inductive Moves (g : Flow) (t : Tracker) : Input → String → Prop
  | opening {payload : Fields} {n : Node} : g.start? = some n →
      Moves g t (.event (.callStart payload)) n.id
  | onward {id next : String} : t.state.isActive = true → t.state.current = some id →
      (t.state.isClassifying = true → kindOf g id ≠ some .branch) →
      kindOf g id = some .start ∨ t.state.isVisited id = true →
      g.next? id = some next → t.state.isVisited next = false →
      Moves g t (.event .speechStart) next
  | spoken {id : String} {n next : Node} : t.state.isActive = true → t.state.current = some id →
      g.node? id = some n → n.kind = .message ∨ n.kind = .action →
      (g.next? id).bind g.node? = some next → (t.state.visit id).isVisited next.id = false →
      Moves g t (.event .speechEnd) next.id
  | marked {transcript marked : String} : t.state.isActive = true →
      markedStep g transcript = some marked →
      Moves g t (.event (.message .assistant transcript)) marked
  | begun {transcript id next : String} : t.state.isActive = true →
      markedStep g transcript = none → t.state.current = some id → kindOf g id = some .start →
      t.state.isVisited id = false → g.next? id = some next →
      Moves g t (.event (.message .assistant transcript)) next
  | recalled {transcript id intent : String} {e : Edge} : t.state.isActive = true →
      markedStep g transcript = none → t.state.current = some id → kindOf g id = some .branch →
      t.state.intent = some intent → g.matchEdge id intent = some e →
      Moves g t (.event (.message .assistant transcript)) e.target
  | heard {transcript id : String} {next : Node} : t.state.isActive = true →
      t.state.current = some id → kindOf g id = some .listen →
      (g.next? id).bind g.node? = some next →
      Moves g t (.event (.message .user transcript)) next.id
  | chosen {ticket : Nat} {branch intent : String} {e : Edge} : t.state.isActive = true →
      t.state.ticket = some ticket → t.state.current = some branch →
      g.matchEdge branch intent = some e →
      Moves g t (.classified t.state.epoch ticket branch (some intent)) e.target

lemma moves_of_mem {next : String} (h : .moveTo next ∈ changes g helpers t i) :
    Moves g t i next := by
  cases i <;> simp only [changes] at h <;> grind [Moves]

inductive Completes (g : Flow) (t : Tracker) : Input → String → Prop
  | passed {id : String} : t.state.isActive = true → t.state.current = some id →
      kindOf g id = some .start ∨ t.state.isVisited id = true →
      Completes g t (.event .speechStart) id
  | spoken {id : String} : t.state.isActive = true → t.state.current = some id →
      Completes g t (.event .speechEnd) id
  | left {transcript id marked : String} : t.state.isActive = true →
      markedStep g transcript = some marked → t.state.current = some id → id ≠ marked →
      Completes g t (.event (.message .assistant transcript)) id
  | unmarked {transcript id : String} : t.state.isActive = true →
      markedStep g transcript = none → t.state.current = some id →
      kindOf g id = some .start ∨ kindOf g id = some .branch →
      Completes g t (.event (.message .assistant transcript)) id
  | heard {transcript id : String} : t.state.isActive = true → t.state.current = some id →
      kindOf g id = some .listen → Completes g t (.event (.message .user transcript)) id
  | ended {id : String} : t.state.isActive = true → t.state.current = some id →
      Completes g t (.event .callEnd) id
  | due {node : String} {clears : Bool} :
      Completes g t (.completed t.state.epoch node clears) node
  | chosen {ticket : Nat} {branch intent : String} : t.state.isActive = true →
      t.state.ticket = some ticket → t.state.current = some branch →
      Completes g t (.classified t.state.epoch ticket branch (some intent)) branch

lemma completes_of_mem {id : String} (h : .complete id ∈ changes g helpers t i) :
    Completes g t i id := by
  cases i <;> simp only [changes] at h <;> grind [Completes]

inductive Starts (g : Flow) (helpers : Helpers) (t : Tracker) : Input → Work → Prop
  | opening {payload : Fields} {n : Node} : g.start? = some n →
      Starts g helpers t (.event (.callStart payload))
        (.completion (t.state.epoch + 1) n.id false false)
  | spoken {id : String} {n next : Node} : t.state.isActive = true →
      t.state.current = some id → g.node? id = some n → n.kind = .message ∨ n.kind = .action →
      (g.next? id).bind g.node? = some next → (t.state.visit id).isVisited next.id = false →
      kindOf g next.id = some .ending →
      Starts g helpers t (.event .speechEnd) (.completion t.state.epoch next.id false true)
  | marked {transcript marked : String} : t.state.isActive = true →
      markedStep g transcript = some marked → kindOf g marked = some .ending →
      Starts g helpers t (.event (.message .assistant transcript))
        (.completion t.state.epoch marked false true)
  | ended {n : Node} : t.state.isActive = true → g.ending? = some n →
      Starts g helpers t (.event .callEnd) (.completion t.state.epoch n.id true true)
  | heard {transcript id : String} {next : Node} : t.state.isActive = true →
      transcript.isEmpty = false → t.state.current = some id → kindOf g id = some .listen →
      (g.next? id).bind g.node? = some next → next.kind = .branch →
      Starts g helpers t (.event (.message .user transcript))
        (.classification t.state.epoch (t.tickets + 1) next.id transcript (g.candidates next.id))
  | asked {transcript id : String} : t.state.isActive = true →
      transcript.isEmpty = false → t.state.current = some id → kindOf g id = some .branch →
      Starts g helpers t (.event (.message .user transcript))
        (.classification t.state.epoch (t.tickets + 1) id transcript (g.candidates id))
  | action {id : String} {n : Node} {spoken actionType : Option String} {spec : Lookup} :
      t.state.isActive = true → t.state.current = some id → g.node? id = some n →
      n.content = .action spoken actionType (some spec) → spec.endpoint.isEmpty = false →
      helpers.looksUp = true →
      Starts g helpers t (.event .speechEnd) (.lookup t.state.epoch n.id spec t.state.phone)
  | found {node handle : String} {result : Lookup.Result} : result.success = true →
      result.context.isEmpty = false → helpers.injects = true → t.state.handle = some handle →
      Starts g helpers t (.lookedUp t.state.epoch node result) (.injection handle result.context)

lemma starts_of_mem (h : .spawn w ∈ changes g helpers t i) : Starts g helpers t i w := by
  cases i <;> simp only [changes] at h <;> grind [Starts]

lemma ticket_of_mem {n : Nat} (h : .awaitTicket n ∈ changes g helpers t i) :
    n = t.tickets + 1 := by
  cases i <;> simp only [changes] at h <;> grind

lemma classified_of_mem {intent : String} (h : .remember (some intent) ∈ changes g helpers t i) :
    ∃ ticket branch, i = .classified t.state.epoch ticket branch (some intent) ∧
      t.state.isActive = true ∧ t.state.ticket = some ticket ∧ t.state.current = some branch := by
  cases i <;> simp only [changes] at h <;> grind

lemma callStart_of_mem {phone handle : Option String}
    (h : .begin phone handle ∈ changes g helpers t i) :
    ∃ payload, i = .event (.callStart payload) := by
  cases i <;> simp only [changes] at h <;> grind

lemma failure_of_mem (h : .fail ∈ changes g helpers t i) :
    ∃ payload, i = .event (.failure payload) := by
  cases i <;> simp only [changes] at h <;> grind

lemma callEnd_of_mem (h : .hangUp ∈ changes g helpers t i) : i = .event .callEnd := by
  cases i <;> simp only [changes] at h <;> grind

def noted (role : Role) (transcript : String) : List Change :=
  if (Marker.eraseText transcript).isEmpty then []
  else [.record role.name (Marker.eraseText transcript)]

lemma mem_noted {role : Role} {transcript : String} {c : Change} (h : c ∈ noted role transcript) :
    c = .record role.name (Marker.eraseText transcript) := by
  unfold noted at h
  split at h <;> simp_all

lemma op?_of_noted {role : Role} {transcript : String} {c : Change}
    (h : c ∈ noted role transcript) (s : State) : c.op? s = none := by
  rw [mem_noted h]
  rfl

lemma changes_onward {a b : String} (active : t.state.isActive = true)
    (here : t.state.current = some a)
    (waits : t.state.isClassifying = true → kindOf g a ≠ some .branch)
    (done : kindOf g a = some .start ∨ t.state.isVisited a = true) (ahead : g.next? a = some b)
    (new : t.state.isVisited b = false) :
    changes g helpers t (.event .speechStart) = [.complete a, .moveTo b] := by
  have goes : ¬ (t.state.isClassifying && decide (kindOf g a = some .branch)) = true := by
    simpa using waits
  have past : (decide (kindOf g a = some .start) || t.state.isVisited a) = true := by
    simpa using done
  simp only [changes, onEvent, onSpeechStart, active, here, if_neg goes, if_pos past, ahead, new,
    Bool.not_true, Bool.false_eq_true, if_false]

lemma changes_assistant {transcript : String} (active : t.state.isActive = true)
    (spoken : transcript.isEmpty = false) :
    changes g helpers t (.event (.message .assistant transcript)) =
      noted .assistant transcript ++ onAssistant g t.state transcript := by
  simp [changes, onEvent, onMessage, noted, active, spoken]

lemma changes_user {transcript : String} (active : t.state.isActive = true)
    (spoken : transcript.isEmpty = false) :
    changes g helpers t (.event (.message .user transcript)) =
      noted .user transcript ++ onUser g t transcript := by
  simp [changes, onEvent, onMessage, noted, active, spoken]

lemma isEmpty_of_move {role : Role} {transcript next : String}
    (h : .moveTo next ∈ changes g helpers t (.event (.message role transcript))) :
    transcript.isEmpty = false := by
  simp only [changes] at h
  grind

lemma isEmpty_of_marked {transcript marked : String} (h : markedStep g transcript = some marked) :
    transcript.isEmpty = false := by
  by_contra he
  obtain rfl : transcript = "" := by simpa using he
  have hn : markedStep g "" = none := rfl
  simp [hn] at h

def leaving (s : State) (transcript previous : String) : List Change :=
  noted .assistant transcript ++ ([.complete previous, .remember none] ++
    if s.isClassifying then [.forgetTicket] else [])

lemma changes_named {transcript previous marked : String} (active : t.state.isActive = true)
    (named : markedStep g transcript = some marked) (here : t.state.current = some previous)
    (away : previous ≠ marked) :
    changes g helpers t (.event (.message .assistant transcript)) =
      leaving t.state transcript previous ++ arrive g t.state marked := by
  simp only [changes_assistant active (isEmpty_of_marked named), onAssistant, named, onMarker,
    here, if_neg away, leaving, List.append_assoc]

lemma mem_leaving {transcript previous : String} (h : c ∈ leaving s transcript previous) :
    c = .record Role.assistant.name (Marker.eraseText transcript) ∨ c = .complete previous ∨
      c = .remember none ∨ s.isClassifying = true ∧ c = .forgetTicket := by
  simp only [leaving, List.mem_append, List.mem_cons, List.not_mem_nil, or_false] at h
  rcases h with h | (h | h) | h
  · exact .inl (mem_noted h)
  · exact .inr (.inl h)
  · exact .inr (.inr (.inl h))
  · split at h <;> simp_all

lemma classify_eq {branch utterance : String} (h : .spawn w ∈ classify g t branch utterance) :
    classify g t branch utterance = [.awaitTicket (t.tickets + 1), .spawn w] := by
  unfold classify at h ⊢
  split at h <;> simp_all

lemma classify_of_awaited {branch utterance : String} {n : Nat}
    (h : .awaitTicket n ∈ classify g t branch utterance) :
    classify g t branch utterance = [.awaitTicket n,
      .spawn (.classification t.state.epoch n branch utterance (g.candidates branch))] := by
  unfold classify at h ⊢
  split at h <;> simp_all

def Change.isRequest : Change → Bool
  | awaitTicket _ | spawn _ => true
  | _ => false

lemma changes_asking {utterance : String} (active : t.state.isActive = true)
    (spoken : utterance.isEmpty = false)
    (h : c ∈ changes g helpers t (.event (.message .user utterance))) (hc : c.isRequest = true) :
    ∃ steps branch, changes g helpers t (.event (.message .user utterance)) =
        noted .user utterance ++ steps ++ classify g t branch utterance ∧
      c ∈ classify g t branch utterance ∧ kindOf g branch = some .branch ∧
      (steps = [] ∧ t.state.current = some branch ∨
        ∃ id, steps = [.complete id, .moveTo branch]) := by
  rw [changes_user active spoken] at h ⊢
  have mem : c ∈ onUser g t utterance := by
    refine (List.mem_append.mp h).resolve_left fun hn => ?_
    rw [mem_noted hn] at hc
    cases hc
  obtain ⟨id, here, ⟨listening, rfl | ⟨next, ahead, rfl | ⟨kind, hc'⟩⟩⟩ | ⟨kind, hc'⟩⟩ :=
    mem_onUser mem
  · cases hc
  · cases hc
  · refine ⟨[.complete id, .moveTo next.id], next.id, ?_, hc', ?_, .inr ⟨id, rfl⟩⟩
    · simp [onUser, here, listening, ahead, kind]
    · exact kind ▸ kindOf_of_ahead ahead
  · refine ⟨[], id, ?_, hc', kind, .inl ⟨rfl, here⟩⟩
    simp [onUser, here, kind]

lemma isRequest_of_before {role : Role} {transcript branch : String} {steps : List Change}
    (shape : steps = [] ∧ t.state.current = some branch ∨
      ∃ id, steps = [.complete id, .moveTo branch]) (h : c ∈ noted role transcript ++ steps) :
    c.isRequest = false := by
  rcases List.mem_append.mp h with h | h
  · rw [mem_noted h]
    rfl
  · rcases shape with ⟨rfl, -⟩ | ⟨id, rfl⟩
    · simp at h
    · simp only [List.mem_cons, List.not_mem_nil, or_false] at h
      rcases h with rfl | rfl <;> rfl

lemma changes_of_classification {epoch ticket : Nat} {branch utterance : String}
    {candidates : List String}
    (h : .spawn (.classification epoch ticket branch utterance candidates) ∈
      changes g helpers t i) :
    ∃ before : List Change, (∀ c ∈ before, c.work? = none) ∧ changes g helpers t i = before ++
      [.awaitTicket ticket, .spawn (.classification epoch ticket branch utterance candidates)] := by
  obtain ⟨rfl, active, spoken, rfl⟩ : i = .event (.message .user utterance) ∧
      t.state.isActive = true ∧ utterance.isEmpty = false ∧ ticket = t.tickets + 1 := by
    cases starts_of_mem h <;> exact ⟨rfl, ‹_›, ‹_›, rfl⟩
  obtain ⟨steps, b, split, asked, -, shape⟩ := changes_asking active spoken h rfl
  refine ⟨noted .user utterance ++ steps, ?_, by rw [split, classify_eq asked]⟩
  intro c hc
  have quiet := isRequest_of_before shape hc
  cases c with
  | spawn w => cases quiet
  | _ => rfl

end Dialogue.Call
