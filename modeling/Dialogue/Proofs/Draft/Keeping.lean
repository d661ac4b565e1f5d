import Dialogue.Proofs.Draft.Answering
import Dialogue.Proofs.Flow.Soundness
import Dialogue.Proofs.Layout.Placing
import Dialogue.Script

/-! What is kept of a drafted flow: only one that can be published as it stands, with every step where
a placement by level puts it. -/

namespace Dialogue.Draft

open Text

variable {backend : Option Backend} {description raw : String} {r : Generation} {d : Draft}

lemma ofDraft_of_sound (sound : d.flow.isSound = true) : ofDraft d = ⟨true, some d, none, []⟩ :=
  if_pos sound

lemma ofDraft_of_unsound (unsound : d.flow.isSound = false) :
    ofDraft d = ⟨false, some d, some invalid, d.flow.errors⟩ :=
  if_neg (by simp [unsound])

lemma errors_ne_nil (unsound : d.flow.isSound = false) : d.flow.errors ≠ [] := by
  intro none
  rw [Flow.errors, List.map_eq_nil_iff] at none
  simp [Flow.isSound, none] at unsound

lemma placed_of_built {payload : Json} (h : built payload = .ok d) :
    ∃ g, d.flow = Layout.apply (Layout.byLevel .standard g) g := by
  unfold built at h
  split at h
  · cases h
  · dsimp only at h
    split at h
    · cases h
    · exact ⟨_, (congrArg Draft.flow (Except.ok.inj h)).symm⟩

section

variable [Limits]

lemma placed_of_ofReply (h : ofReply raw = .ok d) :
    ∃ g, d.flow = Layout.apply (Layout.byLevel .standard g) g := by
  unfold ofReply at h
  split at h
  · unfold ofPayload at h
    split at h
    · cases h
    · exact placed_of_built h
  · cases h

lemma positions_of_sound (h : ofReply raw = .ok d) (sound : d.flow.isSound = true) :
    Layout.byLevel .standard d.flow = d.flow.nodes.map fun n => (n.id, n.position) := by
  obtain ⟨g, placed⟩ := placed_of_ofReply h
  rw [← Layout.current_of_nodup (Flow.sound_of_isSound sound).ids, placed, Layout.byLevel_apply]

lemma ofAnswer_of_read (read : ofReply raw = .ok d) : ofAnswer raw = .ok (ofDraft d) := by
  delta ofAnswer
  rw [read]

lemma ofAnswer_eq_ok (h : ofAnswer raw = .ok r) :
    (∃ d, ofReply raw = .ok d ∧ r = ofDraft d) ∨
      (∃ message errors, r = .failed message errors) ∧ ∀ d, ofReply raw ≠ .ok d := by
  unfold ofAnswer at h
  split at h
  · next d read => exact .inl ⟨d, read, (Except.ok.inj h).symm⟩
  · next read => exact .inr ⟨⟨_, _, (Except.ok.inj h).symm⟩, fun d other => by simp [read] at other⟩
  · cases h
  · next read => exact .inr ⟨⟨_, _, (Except.ok.inj h).symm⟩, fun d other => by simp [read] at other⟩
  · next read => exact .inr ⟨⟨_, _, (Except.ok.inj h).symm⟩, fun d other => by simp [read] at other⟩

def Drafts (backend : Option Backend) (description : String) (d : Draft) : Prop :=
  ∃ said, Replies backend description said ∧ ofReply (said.getD "") = .ok d

lemma outcome_eq_ok (h : (generate backend description).outcome = .ok r) :
    (∃ d, Drafts backend description d ∧ r = ofDraft d) ∨
      (∃ message errors, r = .failed message errors) ∧ ∀ d, ¬ Drafts backend description d := by
  by_cases replies : ∃ said, Replies backend description said
  · obtain ⟨said, reply⟩ := replies
    rw [reply.outcome_eq] at h
    rcases ofAnswer_eq_ok h with ⟨d, read, rfl⟩ | ⟨failed, unread⟩
    · exact .inl ⟨d, ⟨said, reply, read⟩, rfl⟩
    · exact .inr ⟨failed, fun d ⟨other, again, read⟩ => unread d (reply.unique again ▸ read)⟩
  · have silent : ∀ said, ¬ Replies backend description said := fun said h => replies ⟨said, h⟩
    obtain ⟨message, ends⟩ := failed_of_no_reply silent
    rw [ends] at h
    exact .inr ⟨⟨message, [], (Except.ok.inj h).symm⟩, fun d ⟨said, reply, _⟩ => silent said reply⟩

lemma ofReply_of_fenced {t : List Char} {payload : Json} (edged : Edged t)
    (fenced : Fenced t raw.toList) (reads : Json.Reader.document t = .ok payload)
    (drafts : ofPayload payload = .ok d) : ofReply raw = .ok d := by
  have read : Json.read (within stripFences raw) = .ok payload := by
    rw [Json.read, within, String.toList_ofList, stripFences_of_fenced edged fenced, reads]
  delta ofReply
  rw [read]
  exact drafts

/-- A request succeeds exactly if the model drafts a sound flow, and then that flow can be published
as it is kept; an unsound draft comes back with its errors, and no other draft does. -/
theorem kept_draft_is_publishable (ends : (generate backend description).outcome = .ok r) :
    (r.success = true ↔ r.failure = none) ∧
    (r.success = true ↔ ∃ d, Drafts backend description d ∧ d.flow.isSound = true) ∧
    (r.success = true → ∃ d, r.draft = some d ∧ Drafts backend description d ∧
      d.flow.isSound = true ∧ r.errors = [] ∧
      Script.publish d.flow = .ok (Script.compile d.flow) ∧
      Layout.byLevel .standard d.flow = d.flow.nodes.map fun n => (n.id, n.position)) ∧
    (r.success = false → ∀ d, r.draft = some d → Drafts backend description d ∧
      d.flow.isSound = false ∧ r.errors = d.flow.errors ∧ r.errors ≠ []) := by
  rcases outcome_eq_ok ends with ⟨d, drafts, rfl⟩ | ⟨⟨message, errors, rfl⟩, none⟩
  · cases sound : d.flow.isSound with
    | true =>
      obtain ⟨said, reply, read⟩ := drafts
      have publishes : Script.publish d.flow = .ok (Script.compile d.flow) := if_pos sound
      rw [ofDraft_of_sound sound]
      refine ⟨by simp, iff_of_true rfl ⟨d, ⟨said, reply, read⟩, sound⟩, fun _ => ?_, nofun⟩
      exact ⟨d, rfl, ⟨said, reply, read⟩, sound, rfl, publishes, positions_of_sound read sound⟩
    | false =>
      rw [ofDraft_of_unsound sound]
      refine ⟨by simp, iff_of_false nofun ?_, nofun, fun _ => ?_⟩
      · rintro ⟨other, ⟨said, reply, read⟩, sound'⟩
        obtain ⟨_, again, read'⟩ := drafts
        obtain rfl := again.unique reply
        obtain rfl := Except.ok.inj (read.symm.trans read')
        simp [sound] at sound'
      · rintro _ ⟨⟩
        exact ⟨drafts, sound, rfl, errors_ne_nil sound⟩
  · refine ⟨by simp [Generation.failed], iff_of_false nofun ?_, nofun, nofun⟩
    exact fun ⟨d, drafts, _⟩ => none d drafts

end

def fieldText (key value : String) : List Char :=
  '"' :: key.toList ++ "\": \"".toList ++ value.toList ++ ['"']

def stepText (id kind label : String) : List Char :=
  '\x7b' :: fieldText "id" id ++ ", ".toList ++ fieldText "type" kind ++
    ", \"data\": \x7b".toList ++ fieldText "label" label ++ "\x7d\x7d".toList

def edgeText (id source target : String) : List Char :=
  '\x7b' :: fieldText "id" id ++ ", ".toList ++ fieldText "source" source ++ ", ".toList ++
    fieldText "target" target ++ ['\x7d']

def looped : List Char :=
  '\x7b' :: ("\"nodes\": [".toList ++ stepText "s" "start" "Start" ++ ", ".toList ++
    stepText "m" "message" "Hello" ++ ", ".toList ++ stepText "e" "end" "Bye" ++
    "], \"edges\": [".toList ++ edgeText "1" "s" "e" ++ ", ".toList ++ edgeText "2" "m" "m" ++
    "]".toList) ++ ['\x7d']

theorem looped_draft_is_publishable : letI := Limits.usual
    ∃ r d, (generate (some fun _ _ => .reply (some (String.ofList
        (fence ++ ['j', 's', 'o', 'n', '\n'] ++ looped ++ ['\n'] ++ fence))))
        "a pizza line").outcome = .ok r ∧
      r.success = true ∧ r.draft = some d ∧
      Layout.byLevel .standard d.flow = d.flow.nodes.map fun n => (n.id, n.position) := by
  let _ := Limits.usual
  have filled : within strip "a pizza line" ≠ "" := by decide +kernel
  have reply : Replies _ "a pizza line" (some (String.ofList
      (fence ++ ['j', 's', 'o', 'n', '\n'] ++ looped ++ ['\n'] ++ fence))) :=
    ⟨filled, fun _ _ => .reply (some (String.ofList _)), rfl, rfl⟩
  have edged : Edged looped :=
    ⟨⟨'\x7b', _, rfl, by decide⟩, ⟨'\x7b' :: _, '\x7d', rfl, by decide⟩⟩
  have fenced : Fenced looped (fence ++ ['j', 's', 'o', 'n', '\n'] ++ looped ++ ['\n'] ++ fence) := by
    simpa using Fenced.fence (t := looped) margin_nil (.inr rfl) margin_lineFeed nofun
      margin_lineFeed margin_nil
  have sound : (match Json.Reader.document looped with
      | .ok payload => match ofPayload payload with
        | .ok d => d.flow.isSound
        | .error _ => false
      | .error _ => false) = true := by decide +kernel
  cases reads : Json.Reader.document looped with
  | error => simp [reads] at sound
  | ok payload =>
    cases drafts : ofPayload payload with
    | error => simp [reads, drafts] at sound
    | ok d =>
      simp only [reads, drafts] at sound
      have read := ofReply_of_fenced edged (by rwa [String.toList_ofList]) reads drafts
      have ends := reply.outcome_eq.trans (ofAnswer_of_read read)
      obtain ⟨-, -, keeps, -⟩ := kept_draft_is_publishable ends
      have success : (ofDraft d).success = true := by rw [ofDraft_of_sound sound]
      obtain ⟨kept, hd, -, -, -, -, placed⟩ := keeps success
      exact ⟨_, kept, ends, success, hd, placed⟩

end Dialogue.Draft
