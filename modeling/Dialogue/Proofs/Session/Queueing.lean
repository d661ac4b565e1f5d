import Dialogue.Proofs.Session.Managing

/-! What overlapping operations queue to the engines. An engine is handed exactly the events that
were submitted to its call since it was registered, in their order; a submission takes effect as a
whole or not at all, and operations on other calls have no part in it. Keeping book of the queues
takes nothing away: every run of the operations, and so all that a manager does, is a course of
engines with such books. -/

namespace Dialogue.Session

open Call Registry

structure Desk (K : Type) where
  queue : List Event := []
  inner : K

variable {E K : Type}

def Desk.put (deliver : Event → K → K) (e : Event) (d : Desk K) : Desk K :=
  ⟨d.queue ++ [e], deliver e d.inner⟩

inductive Piece (K : Type) where
  | ask (q : Request)
  | serve (before : List Request) (q : Request) (after : List Request)
  | register (id : String) (engine : K)
  | giveUp
  | submit (due : Micros) (id : String) (raw : Json)
  | wake (x : Expiry)
  | expire (x : Expiry)
  | work (step : Entry (Desk K) → K)

namespace Piece

def IsReady (b : Switchboard (Desk K)) : Piece K → Prop
  | serve before q after => b.opening = none ∧ b.waiting = before ++ q :: after
  | register id _ => b.opening = some id
  | giveUp => ∃ id, b.opening = some id
  | wake x => ∃ t ∈ b.timers, t.expiry = x
  | expire x => b.opening = none ∧ ∃ t ∈ b.timers, t.expiry = x ∧ t.woken = true
  | ask _ | submit _ _ _ | work _ => True

def carry (deliver : Event → K → K) (b : Switchboard (Desk K)) : Piece K → Switchboard (Desk K)
  | ask q => { b with waiting := b.waiting ++ [q] }
  | serve before q after => { b with waiting := before ++ after }.serve q
  | register id engine => b.register id { inner := engine }
  | giveUp => { b with opening := none }
  | submit due id raw =>
    match b.registry.submit (Desk.put deliver) due id raw with
    | .ok r => b.adopt r
    | .error _ => b
  | wake x => b.wake x
  | expire x => b.expire x
  | work step => b.work fun s => { s.engine with inner := step s }

def Concerns (id : String) : Piece K → Prop
  | serve _ (.openCall other) _ | serve _ (.close other) _ => other = id
  | serve _ .closeAll _ => True
  | register other _ | submit _ other _ => other = id
  | expire x => x.id = id
  | ask _ | giveUp | wake _ | work _ => False

def Opens (id : String) : Piece K → Prop
  | register other _ => other = id
  | _ => False

def event? (id : String) : Piece K → Option Event
  | submit _ other raw => if other = id then (Event.ofJson raw).toOption else none
  | _ => none

end Piece

def heard (id : String) (ps : List (Piece K)) : List Event := ps.filterMap (·.event? id)

inductive Course (deliver : Event → K → K) : List (Piece K) → Switchboard (Desk K) → Prop
  | start : Course deliver [] {}
  | snoc {ps : List (Piece K)} {b : Switchboard (Desk K)} {p : Piece K} :
      Course deliver ps b → p.IsReady b → Course deliver (ps ++ [p]) (p.carry deliver b)

variable {deliver : Event → K → K} {b : Switchboard (Desk K)} {r : Registry E} {s : Entry E}
  {ps : List (Piece K)} {p : Piece K} {id other : String} {raw : Json} {due : Micros} {e : Event}

/-! Submissions -/

namespace Registry

variable {put : Event → E → E}

lemma submit_unknown (unknown : r.find? id = none) :
    r.submit put due id raw = .error (.unknown id) := by
  simp only [submit, unknown]

lemma submit_unread {e : EventError} (found : r.find? id = some s)
    (unread : Event.ofJson raw = .error e) : r.submit put due id raw = .error (.noEvent e) := by
  simp only [submit, found, unread]

lemma refused_or_accepted (r : Registry E) (id : String) (raw : Json) :
    (r.find? id = none ∨ ∃ e, Event.ofJson raw = .error e) ∨
      ∃ s e, r.find? id = some s ∧ Event.ofJson raw = .ok e := by
  cases found : r.find? id with
  | none => exact .inl (.inl rfl)
  | some s => cases read : Event.ofJson raw with
    | error e => exact .inl (.inr ⟨e, rfl⟩)
    | ok e => exact .inr ⟨s, e, rfl, rfl⟩

lemma submit_refused (refused : r.find? id = none ∨ ∃ e, Event.ofJson raw = .error e) :
    ∃ e, r.submit put due id raw = .error e := by
  cases found : r.find? id with
  | none => exact ⟨_, submit_unknown found⟩
  | some s =>
    obtain ⟨e, unread⟩ := refused.resolve_left (by simp [found])
    exact ⟨_, submit_unread found unread⟩

lemma submit_refused_iff : (∃ e, r.submit put due id raw = .error e) ↔
    r.find? id = none ∨ ∃ e, Event.ofJson raw = .error e := by
  refine ⟨fun ⟨e, error⟩ => ?_, submit_refused⟩
  obtain refused | ⟨s, f, found, read⟩ := refused_or_accepted r id raw
  · exact refused
  · rw [submit_eq found read] at error
    cases error

lemma sessions_noteEvent : (r.noteEvent due s e).sessions = r.sessions := by
  cases e <;> rfl

end Registry

namespace Piece

lemma carry_refused (refused : b.registry.find? id = none ∨ ∃ e, Event.ofJson raw = .error e) :
    (submit due id raw).carry deliver b = b := by
  obtain ⟨e, error⟩ : ∃ e, b.registry.submit (Desk.put deliver) due id raw = .error e :=
    submit_refused refused
  simp only [carry, error]

lemma carry_accepted {s : Entry (Desk K)} (found : b.registry.find? id = some s)
    (read : Event.ofJson raw = .ok e) : (submit due id raw).carry deliver b =
      b.adopt ((b.registry.update id (Desk.put deliver e)).noteEvent due s e) := by
  simp only [carry, submit_eq found read]

lemma exists_step (deliver : Event → K → K) (ready : p.IsReady b) :
    ∃ log, Step (Desk.put deliver) b log (p.carry deliver b) := by
  cases p with
  | ask q => exact ⟨_, .ask b q⟩
  | serve before q after => exact ⟨_, .serve ready.1 ready.2⟩
  | register id engine => exact ⟨_, .register _ ready⟩
  | giveUp =>
    obtain ⟨id, opening⟩ := ready
    exact ⟨_, .giveUp opening⟩
  | submit due id raw =>
    obtain refused | ⟨s, e, found, read⟩ := refused_or_accepted b.registry id raw
    · obtain ⟨e, error⟩ : ∃ e, b.registry.submit (Desk.put deliver) due id raw = .error e :=
        submit_refused refused
      rw [carry_refused refused]
      exact ⟨_, .refuse error⟩
    · rw [carry_accepted found read]
      exact ⟨_, .accept found read (submit_eq found read)⟩
  | wake x =>
    obtain ⟨t, ht, rfl⟩ := ready
    exact ⟨_, .wake ht⟩
  | expire x =>
    obtain ⟨unlocked, t, ht, rfl, woken⟩ := ready
    exact ⟨_, .expire unlocked ht woken⟩
  | work step => exact ⟨_, .work b _⟩

end Piece

lemma Course.run (course : Course deliver ps b) : ∃ log, Run (Desk.put deliver) log b := by
  induction course with
  | start => exact ⟨[], .start⟩
  | snoc _ ready ih =>
    obtain ⟨log, before⟩ := ih
    obtain ⟨accepted, step⟩ := Piece.exists_step deliver ready
    exact ⟨_, before.step step⟩

/-! Every run is a course of engines whose queues are not looked at. -/

def Entry.bare (s : Entry (Desk K)) : Entry K := ⟨s.id, s.number, s.engine.inner⟩

def Registry.bare (r : Registry (Desk K)) : Registry K :=
  ⟨r.opened, r.scheduled, r.sessions.map Entry.bare, r.expiries⟩

def Switchboard.bare (b : Switchboard (Desk K)) : Switchboard K :=
  ⟨b.registry.bare, b.waiting, b.opening, b.timers⟩

namespace Registry

variable {r : Registry (Desk K)} {s : Entry (Desk K)}

lemma find?_bare : r.bare.find? id = (r.find? id).map Entry.bare := by
  rw [find?, bare, List.find?_map]
  rfl

lemma remove_bare : (r.remove id).bare = r.bare.remove id := by
  simp only [bare, remove, spare, List.filter_map]
  rfl

lemma expire_bare {x : Expiry} : (r.expire x).bare = r.bare.expire x := by
  simp only [bare, expire, spare, List.filter_map]
  rfl

lemma register_bare (engine : K) :
    (r.register id { inner := engine }).bare = r.bare.register id engine := by
  simp only [bare, register, List.map_append]
  rfl

lemma update_bare : (r.update id (Desk.put deliver e)).bare = r.bare.update id (deliver e) := by
  simp only [bare, update, List.map_map]
  congr 1
  refine List.map_congr_left fun s _ => ?_
  by_cases own : s.id = id <;> simp [Entry.bare, own, Desk.put]

lemma noteEvent_bare : (r.noteEvent due s e).bare = r.bare.noteEvent due s.bare e := by
  cases e <;> rfl

end Registry

namespace Switchboard

lemma adopt_bare {r : Registry (Desk K)} : (b.adopt r).bare = b.bare.adopt r.bare := rfl

lemma serve_bare (q : Request) : (b.serve q).bare = b.bare.serve q := by
  cases q with
  | openCall id =>
    exact congrArg (fun r => { b.bare.adopt r with opening := some id }) remove_bare
  | close id => exact congrArg (fun r => b.bare.adopt r) remove_bare
  | closeAll => rfl

lemma register_bare (engine : K) :
    (b.register id { inner := engine }).bare = b.bare.register id engine :=
  congrArg (fun r => { b.bare with registry := r, opening := none }) (Registry.register_bare engine)

lemma expire_bare {x : Expiry} : (b.expire x).bare = b.bare.expire x :=
  congrArg (fun r => (⟨r, b.waiting, b.opening, b.timers.filter (·.expiry ≠ x)⟩ : Switchboard K))
    Registry.expire_bare

lemma work_bare (step : Entry K → K) :
    (b.work fun s => { s.engine with inner := step s.bare }).bare = b.bare.work step := by
  simp only [bare, work, Registry.bare, List.map_map]
  rfl

end Switchboard

open Switchboard in
lemma Piece.exists_of_step {accepted : Log} {c : Switchboard K}
    (step : Step deliver b.bare accepted c) :
    ∃ p : Piece K, p.IsReady b ∧ (p.carry deliver b).bare = c := by
  cases step with
  | ask q => exact ⟨.ask q, trivial, rfl⟩
  | @serve before after q unlocked asked =>
    exact ⟨.serve before q after, ⟨unlocked, asked⟩, serve_bare q⟩
  | register engine opening => exact ⟨.register _ engine, opening, register_bare engine⟩
  | giveUp opening => exact ⟨.giveUp, ⟨_, opening⟩, rfl⟩
  | @accept due id raw s e r found read accepted =>
    rw [submit_eq found read] at accepted
    obtain rfl := Except.ok.inj accepted
    obtain ⟨t, present, rfl⟩ := Option.map_eq_some_iff.mp (find?_bare.symm.trans found)
    refine ⟨.submit due id raw, trivial, ?_⟩
    rw [carry_accepted present read, adopt_bare, noteEvent_bare, update_bare]
    rfl
  | @refuse due id raw e refused =>
    refine ⟨.submit due id raw, trivial, congrArg Switchboard.bare (carry_refused ?_)⟩
    refine (submit_refused_iff.mp ⟨e, refused⟩).imp_left fun unknown => ?_
    exact Option.map_eq_none_iff.mp (find?_bare.symm.trans unknown)
  | wake asleep => exact ⟨.wake _, ⟨_, asleep, rfl⟩, rfl⟩
  | expire unlocked waiting woken =>
    exact ⟨.expire _, ⟨unlocked, _, waiting, rfl, woken⟩, expire_bare⟩
  | work step => exact ⟨.work fun s => step s.bare, trivial, work_bare step⟩

lemma Run.course {log : Log} {c : Switchboard K} (run : Run deliver log c) :
    ∃ ps b, Course deliver ps b ∧ b.bare = c := by
  induction run with
  | start => exact ⟨[], {}, .start, rfl⟩
  | step _ step ih =>
    obtain ⟨ps, b, course, rfl⟩ := ih
    obtain ⟨p, ready, same⟩ := Piece.exists_of_step step
    exact ⟨_, _, course.snoc ready, same⟩

theorem Managed.course [Limits] {m : Manager} (managed : Managed m) :
    ∃ ps b, Course handOver ps b ∧ b.bare.registry = m.registry := by
  obtain ⟨log, c, run, -, same⟩ := managed.reached
  obtain ⟨ps, b, course, rfl⟩ := run.course
  exact ⟨ps, b, course, same⟩

/-! What an engine has been handed -/

lemma heard_snoc : heard id (ps ++ [p]) = heard id ps ++ (p.event? id).toList := by
  rw [heard, List.filterMap_append, heard]
  cases h : p.event? id <;> simp [h]

def IsHeard (ps : List (Piece K)) (s : Entry (Desk K)) : Prop :=
  ∃ before engine after, ps = before ++ .register s.id engine :: after ∧
    (∀ p ∈ after, ¬ p.Opens s.id) ∧ s.engine.queue = heard s.id after

lemma IsHeard.snoc {s t : Entry (Desk K)} (h : IsHeard ps s) (same : t.id = s.id)
    (stays : ¬ p.Opens s.id) (queue : t.engine.queue = s.engine.queue ++ (p.event? s.id).toList) :
    IsHeard (ps ++ [p]) t := by
  obtain ⟨before, engine, after, rfl, last, handed⟩ := h
  rw [IsHeard, same]
  refine ⟨before, engine, after ++ [p], by simp, ?_, ?_⟩
  · intro q hq
    rcases List.mem_append.mp hq with hq | hq
    · exact last q hq
    · exact List.mem_singleton.mp hq ▸ stays
  · rw [queue, handed, heard_snoc]

namespace Piece

variable {s t : Entry (Desk K)}

lemma event?_refused (refused : b.registry.find? id = none ∨ ∃ e, Event.ofJson raw = .error e)
    (hs : s ∈ b.registry.sessions) : (submit due id raw : Piece K).event? s.id = none := by
  rw [event?]
  split
  · next same =>
    rcases refused with unknown | ⟨e, unread⟩
    · exact absurd (decide_eq_true same.symm) (List.find?_eq_none.mp unknown s hs)
    · rw [unread]
      rfl
  · rfl

lemma mem_carry (ht : t ∈ (p.carry deliver b).registry.sessions) :
    (∃ engine, p = .register t.id engine ∧ t.engine.queue = []) ∨
      ∃ s ∈ b.registry.sessions, t.id = s.id ∧
        t.engine.queue = s.engine.queue ++ (p.event? s.id).toList := by
  have kept (there : t ∈ b.registry.sessions) (silent : p.event? t.id = none) :
      ∃ s ∈ b.registry.sessions, t.id = s.id ∧
        t.engine.queue = s.engine.queue ++ (p.event? s.id).toList :=
    ⟨t, there, rfl, by rw [silent, Option.toList_none, List.append_nil]⟩
  cases p with
  | ask | giveUp | wake => exact .inr (kept ht rfl)
  | serve before q after =>
    cases q with
    | openCall | close => exact .inr (kept (List.mem_filter.mp ht).1 rfl)
    | closeAll => cases ht
  | register id engine =>
    rcases List.mem_append.mp ht with ht | ht
    · exact .inr (kept ht rfl)
    · obtain rfl := List.mem_singleton.mp ht
      exact .inl ⟨engine, rfl, rfl⟩
  | submit due id raw =>
    obtain refused | ⟨_, e, found, read⟩ := refused_or_accepted b.registry id raw
    · rw [carry_refused refused] at ht
      exact .inr (kept ht (event?_refused refused ht))
    · rw [carry_accepted found read, Switchboard.adopt, sessions_noteEvent] at ht
      obtain ⟨s, hs, rfl⟩ := List.mem_map.mp ht
      refine .inr ⟨s, hs, ?_⟩
      by_cases own : s.id = id
      · simp [own, event?, read, Desk.put, Except.toOption]
      · simp [own, event?, Ne.symm own]
  | expire x => exact .inr (kept (List.mem_filter.mp ht).1 rfl)
  | work step =>
    obtain ⟨s, hs, rfl⟩ := List.mem_map.mp ht
    exact .inr ⟨s, hs, rfl, (List.append_nil _).symm⟩

end Piece

lemma Course.isHeard (course : Course deliver ps b) {s : Entry (Desk K)}
    (hs : s ∈ b.registry.sessions) : IsHeard ps s := by
  induction course generalizing s with
  | start => cases hs
  | @snoc ps b p before ready ih =>
    obtain ⟨engine, rfl, fresh⟩ | ⟨t, ht, same, queue⟩ := Piece.mem_carry hs
    · exact ⟨ps, engine, [], rfl, by simp, fresh⟩
    · refine (ih ht).snoc same (fun opens => ?_) queue
      -- A call that is there is not being opened.
      obtain ⟨log, run⟩ := before.run
      cases p with
      | register id engine =>
        obtain rfl : id = t.id := opens
        exact run.exact.free _ ready (List.mem_map_of_mem (mem_numbering ht))
      | _ => exact opens

/-! Other calls -/

namespace Registry

def ledger (id : String) (r : Registry (Desk K)) : Option (Nat × List Event) :=
  (r.find? id).map fun s => (s.number, s.engine.queue)

lemma find?_filter {keep : Entry E → Bool} (kept : ∀ s, s.id = id → keep s = true) :
    (r.sessions.filter keep).find? (·.id = id) = r.find? id := by
  rw [List.find?_filter, find?]
  congr 1
  funext s
  by_cases own : s.id = id <;> simp [own, kept]

lemma find?_remove (apart : other ≠ id) : (r.remove other).find? id = r.find? id :=
  find?_filter fun _ own => by simpa [own] using apart.symm

lemma find?_expire {x : Expiry} (apart : x.id ≠ id) : (r.expire x).find? id = r.find? id :=
  find?_filter fun _ own => by simp [own, apart.symm]

lemma find?_register (apart : other ≠ id) (engine : E) :
    (r.register other engine).find? id = r.find? id := by
  rw [find?, register, List.find?_append, ← find?]
  simp [apart]

lemma find?_update (apart : other ≠ id) (f : E → E) : (r.update other f).find? id = r.find? id := by
  have named : ((fun s : Entry E => decide (s.id = id)) ∘ fun s =>
      if s.id = other then { s with engine := f s.engine } else s) =
        fun s => decide (s.id = id) := by
    funext s
    by_cases own : s.id = other <;> simp [own]
  rw [find?, update, List.find?_map, named, ← find?]
  cases found : r.find? id with
  | none => rfl
  | some s => simp [id_of_find? found, apart.symm]

end Registry

lemma Piece.ledger_carry (apart : ¬ p.Concerns id) :
    (p.carry deliver b).registry.ledger id = b.registry.ledger id := by
  cases p with
  | ask | giveUp | wake => rfl
  | serve before q after =>
    cases q with
    | openCall | close => exact congrArg (Option.map _) (find?_remove apart)
    | closeAll => exact absurd trivial apart
  | register other engine => exact congrArg (Option.map _) (find?_register apart _)
  | submit due other raw =>
    obtain refused | ⟨s, e, found, read⟩ := refused_or_accepted b.registry other raw
    · rw [carry_refused refused]
    · have kept : ((b.registry.update other (Desk.put deliver e)).noteEvent due s e).find? id =
          b.registry.find? id := by
        rw [find?, sessions_noteEvent]
        exact find?_update apart _
      rw [carry_accepted found read]
      exact congrArg (Option.map _) kept
  | expire x => exact congrArg (Option.map _) (find?_expire apart)
  | work step =>
    rw [carry, Switchboard.work, ledger, find?, List.find?_map, Option.map_map]
    rfl

/-- The engine that is registered for a call was handed just the events that can be read among those
submitted to the call since it was registered, in their order. A submission is refused if the call
is unknown or the event cannot be read, and then changes nothing. Pieces that do not concern a call
change neither which engine is registered for it nor what that was handed. -/
theorem sessions_are_isolated (course : Course deliver ps b) :
    (∀ id s, b.registry.find? id = some s → ∃ before engine after,
      ps = before ++ .register id engine :: after ∧ (∀ p ∈ after, ¬ p.Opens id) ∧
        s.engine.queue = heard id after) ∧
    (∀ due id raw,
      ((∃ e, b.registry.submit (Desk.put deliver) due id raw = .error e) ↔
        b.registry.find? id = none ∨ ∃ e, Event.ofJson raw = .error e) ∧
      ((∃ e, b.registry.submit (Desk.put deliver) due id raw = .error e) →
        (Piece.submit due id raw).carry deliver b = b)) ∧
    ∀ (p : Piece K) (id : String), ¬ p.Concerns id →
      (p.carry deliver b).registry.ledger id = b.registry.ledger id := by
  refine ⟨fun id s found => ?_, fun due id raw => ⟨submit_refused_iff, fun refused => ?_⟩,
    fun p id => Piece.ledger_carry⟩
  · exact id_of_find? found ▸ course.isHeard (List.mem_of_find?_eq_some found)
  · exact Piece.carry_refused (submit_refused_iff.mp refused)

theorem reopened_call_is_isolated :
    ∃ (ps : List (Piece Unit)) (b : Switchboard (Desk Unit)) (s : Entry (Desk Unit)),
      b.registry.find? "a" = some s ∧ s.engine.queue = [.speechStart, .callEnd] ∧
      (∃ before engine after, ps = before ++ .register "a" engine :: after ∧
        (∀ p ∈ after, ¬ p.Opens "a") ∧ s.engine.queue = heard "a" after) ∧
      (Piece.submit 0 "b" (.object [])).carry (fun _ k => k) b = b := by
  have empty : Course (fun _ k => k) ([] : List (Piece Unit)) {} := Course.start
  have asked := empty.snoc (p := .ask (.openCall "a")) trivial
  have served := asked.snoc (p := .serve [] (.openCall "a") []) ⟨rfl, rfl⟩
  have opened := served.snoc (p := .register "a" ()) rfl
  have started := opened.snoc (p := .submit 0 "a" (.object [("type", .text "call-start")])) trivial
  have asked := started.snoc (p := .ask (.openCall "a")) trivial
  have served := asked.snoc (p := .serve [] (.openCall "a") []) ⟨rfl, rfl⟩
  have opened := served.snoc (p := .register "a" ()) rfl
  have spoken := opened.snoc (p := .submit 0 "a" (.object [("type", .text "speech-start")])) trivial
  have unread := spoken.snoc (p := .submit 0 "a" .null) trivial
  have unknown := unread.snoc (p := .submit 0 "b" (.object [("type", .text "call-end")])) trivial
  have ended := unknown.snoc (p := .submit 0 "a" (.object [("type", .text "call-end")])) trivial
  obtain ⟨queued, refused, -⟩ := sessions_are_isolated ended
  exact ⟨_, _, _, rfl, rfl, queued "a" _ rfl, (refused 0 "b" _).2 ⟨_, rfl⟩⟩

end Dialogue.Session
