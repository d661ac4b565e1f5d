import Dialogue.Proofs.Call.Carrying
import Dialogue.Proofs.Call.Handling
import Mathlib.Data.List.Forall2

/-! Two calls that differ in what they count from: epochs and tickets lie equally far behind two
beginnings, and timestamps are free. What an input does to one call, its counterpart does to the
other. -/

namespace Dialogue.Call

def Shifted (m n x y : Nat) : Prop := ∃ k, x = m + k ∧ y = n + k

lemma Shifted.succ {m n x y : Nat} (h : Shifted m n x y) : Shifted m n (x + 1) (y + 1) := by
  obtain ⟨k, rfl, rfl⟩ := h
  exact ⟨k + 1, rfl, rfl⟩

lemma Shifted.eq_iff {m n x y x' y' : Nat} (h : Shifted m n x y) (h' : Shifted m n x' y') :
    x = x' ↔ y = y' := by
  obtain ⟨k, rfl, rfl⟩ := h
  obtain ⟨k', rfl, rfl⟩ := h'
  omega

lemma Shifted.some_eq_iff {m n x y : Nat} {o o' : Option Nat} (h : Option.Rel (Shifted m n) o o')
    (h' : Shifted m n x y) : o = some x ↔ o' = some y := by
  cases h with
  | none => simp
  | some h => simpa using h.eq_iff h'

def Line.told (l : Line) : String × String × Option String := (l.role, l.content, l.node)

variable {g : Flow} {helpers : Helpers} {a b t u : Tracker} {s r : State} {c d : Change}
  {cs ds : List Change} {i j : Input} {p q : Stamp} {refuses : ViewOp → Bool}

inductive Work.Alike (a b : Tracker) : Work → Work → Prop
  | completion {x y : Nat} (node : String) (clears isEnding : Bool) :
      Shifted a.state.epoch b.state.epoch x y →
      Alike a b (.completion x node clears isEnding) (.completion y node clears isEnding)
  | classification {x y m n : Nat} (branch utterance : String) (candidates : List String) :
      Shifted a.state.epoch b.state.epoch x y → Shifted a.tickets b.tickets m n →
      Alike a b (.classification x m branch utterance candidates)
        (.classification y n branch utterance candidates)
  | lookup {x y : Nat} (node : String) (spec : Lookup) (phone : Option String) :
      Shifted a.state.epoch b.state.epoch x y →
      Alike a b (.lookup x node spec phone) (.lookup y node spec phone)
  | injection (handle context : String) :
      Alike a b (.injection handle context) (.injection handle context)

inductive Input.Alike (a b : Tracker) : Input → Input → Prop
  | event (e : Event) : Alike a b (.event e) (.event e)
  | completed {x y : Nat} (node : String) (clears : Bool) :
      Shifted a.state.epoch b.state.epoch x y →
      Alike a b (.completed x node clears) (.completed y node clears)
  | classified {x y m n : Nat} (branch : String) (intent : Option String) :
      Shifted a.state.epoch b.state.epoch x y → Shifted a.tickets b.tickets m n →
      Alike a b (.classified x m branch intent) (.classified y n branch intent)
  | lookedUp {x y : Nat} (node : String) (result : Lookup.Result) :
      Shifted a.state.epoch b.state.epoch x y →
      Alike a b (.lookedUp x node result) (.lookedUp y node result)

def Change.isPlain : Change → Bool
  | awaitTicket _ => false
  | spawn _ => false
  | _ => true

inductive Change.Alike (a b : Tracker) : Change → Change → Prop
  | plain {c : Change} : c.isPlain = true → Alike a b c c
  | awaitTicket {m n : Nat} : Shifted a.tickets b.tickets m n →
      Alike a b (.awaitTicket m) (.awaitTicket n)
  | spawn {w v : Work} : Work.Alike a b w v → Alike a b (.spawn w) (.spawn v)

structure State.Alike (a b : Tracker) (s r : State) : Prop where
  epoch : Shifted a.state.epoch b.state.epoch s.epoch r.epoch
  isActive : s.isActive = r.isActive
  current : s.current = r.current
  visited : s.visited = r.visited
  isClassifying : s.isClassifying = r.isClassifying
  ticket : Option.Rel (Shifted a.tickets b.tickets) s.ticket r.ticket
  intent : s.intent = r.intent
  phone : s.phone = r.phone
  handle : s.handle = r.handle
  transcript : s.transcript.map Line.told = r.transcript.map Line.told
  started : s.started.isSome = r.started.isSome
  ended : s.ended.isSome = r.ended.isSome

/-- The histories of the views are left aside: they reach back before the beginnings. -/
structure Tracker.Alike (a b t u : Tracker) : Prop where
  state : State.Alike a b t.state u.state
  tickets : Shifted a.tickets b.tickets t.tickets u.tickets
  highlighted : t.view.highlighted = u.view.highlighted
  completed : t.view.completed = u.view.completed

lemma map_latest {α β : Type} (f : α → β) (n : Nat) (xs : List α) :
    (latest n xs).map f = latest n (xs.map f) := by
  simp [latest, List.map_drop]

namespace State.Alike

lemma isVisited (h : State.Alike a b s r) (id : String) : s.isVisited id = r.isVisited id := by
  simp only [State.isVisited, h.visited]

lemma visit (h : State.Alike a b s r) (id : String) :
    State.Alike a b (s.visit id) (r.visit id) := by
  unfold State.visit
  rw [h.isVisited]
  split
  · exact h
  · exact { h with visited := by rw [h.visited] }

lemma record {l k : Line} (h : State.Alike a b s r) (hl : l.told = k.told) :
    State.Alike a b (s.record l) (r.record k) := by
  unfold State.record
  refine ⟨h.epoch, h.isActive, h.current, h.visited, h.isClassifying, h.ticket, h.intent, h.phone,
    h.handle, ?_, h.started, h.ended⟩
  simp only [map_latest, List.map_append, h.transcript, List.map_cons, List.map_nil, hl]

lemma onState (h : State.Alike a b s r) (hc : Change.Alike a b c d) :
    State.Alike a b (c.onState p s) (d.onState q r) := by
  cases hc with
  | awaitTicket hk => exact { h with isClassifying := rfl, ticket := .some hk }
  | spawn => exact h
  | @plain c hc =>
    cases c with
    | begin | fail =>
      exact ⟨h.epoch.succ, rfl, rfl, rfl, rfl, .none, rfl, rfl, rfl, rfl, rfl, rfl⟩
    | hangUp =>
      exact { h with
        isActive := rfl, current := rfl, isClassifying := rfl, ticket := .none, intent := rfl
        ended := rfl }
    | complete node => exact h.visit node
    | moveTo node => exact { h with current := rfl }
    | highlight | resetView => exact h
    | record role content =>
      exact h.record (by rw [Line.told, Line.told, h.current])
    | remember intent => exact { h with intent := rfl }
    | forgetTicket => exact { h with isClassifying := rfl, ticket := .none }
    | awaitTicket | spawn => simp [Change.isPlain] at hc

end State.Alike

lemma Change.Alike.op?_eq (hc : Change.Alike a b c d) (h : State.Alike a b s r) :
    c.op? s = d.op? r := by
  cases hc with
  | awaitTicket | spawn => rfl
  | @plain c hc => cases c <;> simp [Change.op?, h.isVisited]

lemma Tracker.Alike.perform (h : Tracker.Alike a b t u) (hc : Change.Alike a b c d) :
    Tracker.Alike a b (c.perform p t) (d.perform q u) := by
  refine ⟨h.state.onState hc, ?_, ?_, ?_⟩
  · cases hc with
    | awaitTicket hk => exact hk
    | spawn => exact h.tickets
    | @plain c hc => cases c <;> simp_all [Change.isPlain, Change.onTickets, h.tickets]
  · simp only [Change.perform, hc.op?_eq h.state]
    cases d.op? u.state with
    | none => exact h.highlighted
    | some op => cases op <;> simp [Change.onView, View.apply, h.highlighted]
  · simp only [Change.perform, hc.op?_eq h.state]
    cases d.op? u.state with
    | none => exact h.completed
    | some op => cases op <;> simp [Change.onView, View.apply, h.completed]

lemma Change.Alike.work? (hc : Change.Alike a b c d) :
    List.Forall₂ (Work.Alike a b) c.work?.toList d.work?.toList := by
  cases hc with
  | awaitTicket => exact .nil
  | spawn h => exact .cons h .nil
  | @plain c hc => cases c <;> first | exact .nil | simp [Change.isPlain] at hc

lemma carryOut_alike (h : Tracker.Alike a b t u) (hcs : List.Forall₂ (Change.Alike a b) cs ds) :
    Tracker.Alike a b (carryOut p refuses cs t).1 (carryOut q refuses ds u).1 ∧
      List.Forall₂ (Work.Alike a b) (carryOut p refuses cs t).2 (carryOut q refuses ds u).2 := by
  induction hcs generalizing t u with
  | nil => exact ⟨h, .nil⟩
  | @cons c d cs ds hc _ ih =>
    simp only [carryOut, hc.op?_eq h.state]
    split
    · exact ⟨h.perform hc, .nil⟩
    · obtain ⟨ht, hw⟩ := ih (h.perform hc)
      exact ⟨ht, List.rel_append hc.work? hw⟩

lemma forall₂_of_isPlain (h : ∀ c ∈ cs, c.isPlain = true) :
    List.Forall₂ (Change.Alike a b) cs cs := List.forall₂_same.mpr fun c hc => .plain (h c hc)

section Handlers

variable (h : State.Alike a b s r)

include h

lemma arrive_alike (node : String) :
    List.Forall₂ (Change.Alike a b) (arrive g s node) (arrive g r node) := by
  unfold arrive
  split
  · exact .cons (.plain rfl) (.cons (.spawn (.completion _ _ _ h.epoch)) .nil)
  · exact .cons (.plain rfl) .nil

lemma onCallStart_alike (payload : Fields) :
    List.Forall₂ (Change.Alike a b) (onCallStart g s payload) (onCallStart g r payload) := by
  refine List.rel_append (.cons (.plain rfl) (.cons (.plain rfl) .nil)) ?_
  split
  · exact .cons (.plain rfl) (.cons (.spawn (.completion _ _ _ h.epoch.succ)) .nil)
  · exact .nil

lemma onSpeechStart_alike :
    List.Forall₂ (Change.Alike a b) (onSpeechStart g s) (onSpeechStart g r) := by
  have same : onSpeechStart g s = onSpeechStart g r := by
    simp only [onSpeechStart, h.current, h.isClassifying, h.isVisited]
  rw [same]
  refine forall₂_of_isPlain fun c hc => ?_
  obtain ⟨id, -, -, rfl | ⟨-, next, -, -, rfl | rfl⟩⟩ := mem_onSpeechStart hc <;> rfl

lemma lookupWork_alike (n : Node) :
    List.Forall₂ (Change.Alike a b) (lookupWork helpers s n) (lookupWork helpers r n) := by
  unfold lookupWork
  split
  · split
    · exact .nil
    · rw [h.phone]
      exact .cons (.spawn (.lookup _ _ _ h.epoch)) .nil
  · exact .nil

lemma onSpeechEnd_alike :
    List.Forall₂ (Change.Alike a b) (onSpeechEnd g helpers s) (onSpeechEnd g helpers r) := by
  unfold onSpeechEnd
  rw [h.current]
  cases r.current with
  | none => exact .nil
  | some id =>
    refine .cons (.plain rfl) ?_
    cases g.node? id with
    | none => exact .nil
    | some n =>
      dsimp only
      split
      · refine List.rel_append (lookupWork_alike h n) ?_
        cases (g.next? id).bind g.node? with
        | none => exact .nil
        | some next =>
          dsimp only
          rw [(h.visit id).isVisited]
          split
          · exact .nil
          · exact arrive_alike h next.id
      · exact .nil

lemma onMarker_alike (marked : String) :
    List.Forall₂ (Change.Alike a b) (onMarker g s marked) (onMarker g r marked) := by
  unfold onMarker
  rw [h.current, h.isClassifying]
  refine List.rel_append (forall₂_of_isPlain fun c hc => ?_) (arrive_alike h marked)
  grind [Change.isPlain]

lemma onUnmarked_alike : List.Forall₂ (Change.Alike a b) (onUnmarked g s) (onUnmarked g r) := by
  have same : onUnmarked g s = onUnmarked g r := by
    simp only [onUnmarked, h.current, h.intent, h.isVisited]
  rw [same]
  refine forall₂_of_isPlain fun c hc => ?_
  have := mem_onUnmarked hc
  grind [Change.isPlain]

lemma onAssistant_alike (transcript : String) :
    List.Forall₂ (Change.Alike a b) (onAssistant g s transcript) (onAssistant g r transcript) := by
  unfold onAssistant
  split
  · exact onMarker_alike h _
  · exact onUnmarked_alike h

lemma onCallEnd_alike : List.Forall₂ (Change.Alike a b) (onCallEnd g s) (onCallEnd g r) := by
  unfold onCallEnd
  rw [h.current]
  refine List.rel_append (List.rel_append ?_ ?_) (.cons (.plain rfl) .nil)
  · refine forall₂_of_isPlain fun c hc => ?_
    obtain ⟨id, -, rfl⟩ := List.mem_map.mp hc
    rfl
  · cases g.ending? with
    | none => exact .cons (.plain rfl) .nil
    | some n =>
      have ending : ∀ done : Bool, List.Forall₂ (Change.Alike a b)
          (if done = true then [.highlight none]
            else [.highlight (some n.id), .spawn (.completion s.epoch n.id true true)])
          (if done = true then [.highlight none]
            else [.highlight (some n.id), .spawn (.completion r.epoch n.id true true)]) := by
        intro done
        split
        · exact .cons (.plain rfl) .nil
        · exact .cons (.plain rfl) (.cons (.spawn (.completion _ _ _ h.epoch)) .nil)
      cases r.current with
      | none =>
        dsimp only
        rw [h.isVisited]
        exact ending _
      | some id =>
        dsimp only
        rw [(h.visit id).isVisited]
        exact ending _

lemma onCompleted_alike {x y : Nat} (hx : Shifted a.state.epoch b.state.epoch x y) (node : String)
    (clears : Bool) :
    List.Forall₂ (Change.Alike a b) (onCompleted s x node clears)
      (onCompleted r y node clears) := by
  have same : onCompleted s x node clears = onCompleted r y node clears := by
    simp only [onCompleted, ne_eq, hx.eq_iff h.epoch, h.current]
  rw [same]
  refine forall₂_of_isPlain fun c hc => ?_
  obtain ⟨-, rfl | ⟨-, -, rfl⟩⟩ := mem_onCompleted hc <;> rfl

lemma onClassified_alike {x y m n : Nat} (hx : Shifted a.state.epoch b.state.epoch x y)
    (hm : Shifted a.tickets b.tickets m n) (branch : String) (intent : Option String) :
    List.Forall₂ (Change.Alike a b) (onClassified g s x m branch intent)
      (onClassified g r y n branch intent) := by
  have same : onClassified g s x m branch intent = onClassified g r y n branch intent := by
    simp only [onClassified, ne_eq, hx.eq_iff h.epoch, Shifted.some_eq_iff h.ticket hm, h.current,
      h.isActive]
  rw [same]
  refine forall₂_of_isPlain fun c hc => ?_
  have := mem_onClassified hc
  grind [Change.isPlain]

lemma onLookedUp_alike {x y : Nat} (hx : Shifted a.state.epoch b.state.epoch x y)
    (result : Lookup.Result) :
    List.Forall₂ (Change.Alike a b) (onLookedUp helpers s x result)
      (onLookedUp helpers r y result) := by
  simp only [onLookedUp, ne_eq, hx.eq_iff h.epoch, h.handle]
  split
  · exact .nil
  · cases r.handle with
    | none => exact .nil
    | some handle => exact .cons (.spawn (.injection _ _)) .nil

end Handlers

section Tracked

variable (h : Tracker.Alike a b t u)

include h

lemma classify_alike (branch utterance : String) :
    List.Forall₂ (Change.Alike a b) (classify g t branch utterance)
      (classify g u branch utterance) := by
  unfold classify
  split
  · exact .nil
  · exact .cons (.awaitTicket h.tickets.succ)
      (.cons (.spawn (.classification _ _ _ h.state.epoch h.tickets.succ)) .nil)

lemma onUser_alike (transcript : String) :
    List.Forall₂ (Change.Alike a b) (onUser g t transcript) (onUser g u transcript) := by
  unfold onUser
  rw [h.state.current]
  cases u.state.current with
  | none => exact .nil
  | some id =>
    dsimp only
    split
    · refine .cons (.plain rfl) ?_
      cases (g.next? id).bind g.node? with
      | none => exact .nil
      | some next =>
        refine .cons (.plain rfl) ?_
        split
        · exact classify_alike h next.id transcript
        · exact .nil
    · exact classify_alike h id transcript
    · exact .nil

lemma onMessage_alike (role : Role) (transcript : String) :
    List.Forall₂ (Change.Alike a b) (onMessage g t role transcript)
      (onMessage g u role transcript) := by
  unfold onMessage
  refine List.rel_append ?_ ?_
  · split
    · exact .nil
    · exact .cons (.plain rfl) .nil
  · split
    · exact .nil
    · cases role with
      | assistant => exact onAssistant_alike h.state transcript
      | user => exact onUser_alike h transcript
      | system => exact .nil

lemma onEvent_alike (e : Event) :
    List.Forall₂ (Change.Alike a b) (onEvent g helpers t e) (onEvent g helpers u e) := by
  have heard : ∀ {cs ds}, List.Forall₂ (Change.Alike a b) cs ds →
      List.Forall₂ (Change.Alike a b) (if !t.state.isActive then [] else cs)
        (if !u.state.isActive then [] else ds) := by
    intro cs ds hcs
    rw [h.state.isActive]
    split
    · exact .nil
    · exact hcs
  cases e with
  | callStart payload => exact onCallStart_alike h.state payload
  | failure payload => exact .cons (.plain rfl) (.cons (.plain rfl) .nil)
  | speechStart => exact heard (onSpeechStart_alike h.state)
  | speechEnd => exact heard (onSpeechEnd_alike h.state)
  | message role transcript => exact heard (onMessage_alike h role transcript)
  | callEnd => exact heard (onCallEnd_alike h.state)

lemma changes_alike (hi : Input.Alike a b i j) :
    List.Forall₂ (Change.Alike a b) (changes g helpers t i) (changes g helpers u j) := by
  cases hi with
  | event e => exact onEvent_alike h e
  | completed node clears hx => exact onCompleted_alike h.state hx node clears
  | classified branch intent hx hm => exact onClassified_alike h.state hx hm branch intent
  | lookedUp node result hx => exact onLookedUp_alike h.state hx result

end Tracked

end Dialogue.Call
