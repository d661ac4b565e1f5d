import Dialogue.Call.Event
import Dialogue.Proofs.Schema.Reading

/-! The two shapes of an event. Few fields are read from either, so that both give the same event or
the same faults, whatever else stands beside them. -/

namespace Dialogue

open Schema

variable {fs gs data : Fields} {key kind : String} {v : Json}

lemma Fields.get?_filter {p : String → Bool} (kept : p key = true) :
    get? (fs.filter fun f => p f.1) key = fs.get? key := by
  induction fs with
  | nil => rfl
  | cons f rest ih =>
    obtain ⟨k, v⟩ := f
    rw [get?, get?] at ih ⊢
    by_cases same : key = k
    · subst same
      simp [kept]
    · have other : (key == k) = false := beq_eq_false_iff_ne.mpr same
      cases hk : p k <;> simp [hk, other, ih, List.lookup_cons]

namespace Schema

variable {α : Type} {default : α} {d : Decoder α}

lemma find?_plain : (Field.plain key).find? fs = (fs.get? key).map (key, ·) := Option.or_self

lemma optional_congr (same : fs.get? key = gs.get? key) :
    optional (.plain key) default d fs = optional (.plain key) default d gs := by
  rw [optional, optional, find?_plain, find?_plain, same]

end Schema

namespace Call.Event

lemma role_name (r : Role) : role (.text r.name) = .ok r := by
  cases r <;> rfl

/-! Flat fields -/

lemma ofFlat_eq {form : Fields → Checked Event} (named : fs.get? "type" = some (.text kind))
    (known : forms.lookup kind = some form) : ofFlat fs = (form fs).under (.name kind) := by
  simp [ofFlat, tagged, named, Json.text?, known]

lemma ofFlat_message_congr (hf : fs.get? "type" = some (.text "message"))
    (hg : gs.get? "type" = some (.text "message")) (role : fs.get? "role" = gs.get? "role")
    (transcript : fs.get? "transcript" = gs.get? "transcript") : ofFlat fs = ofFlat gs := by
  rw [ofFlat_eq hf rfl, ofFlat_eq hg rfl, optional_congr role, optional_congr transcript]

lemma ofFlat_message {r : Role} {transcript : String}
    (named : fs.get? "type" = some (.text "message"))
    (spoken : fs.get? "role" = some (.text r.name))
    (said : fs.get? "transcript" = some (.text transcript)) :
    ofFlat fs = .ok (.message r transcript) := by
  rw [ofFlat_eq named rfl, optional_of_find? (Field.find?_of_key spoken) (role_name r),
    optional_of_find? (d := text) (Field.find?_of_key said) rfl]
  rfl

/-! What is read from either shape -/

def carried (fs : Fields) : Json := (fs.get? "payload").getD ((fs.get? "data").getD .null)

lemma carried_of_payload (flat : fs.get? "payload" = some v) : carried fs = v := by
  rw [carried, flat, Option.getD_some]

lemma carried_of_data (absent : fs.get? "payload" = none) (wrapped : fs.get? "data" = some v) :
    carried fs = v := by
  rw [carried, absent, wrapped, Option.getD_none, Option.getD_some]

lemma ofFields_of_carried (named : fs.get? "type" = some (.text kind))
    (carries : kind ∈ ["call-start", "error"]) :
    ofFields fs = ofFields [("type", .text kind), ("payload", carried fs)] := by
  have payload :
      payloadOf kind fs = payloadOf kind [("type", .text kind), ("payload", carried fs)] := by
    rw [payloadOf, ← carried]
    rfl
  rw [List.mem_pair] at carries
  rcases carries with rfl | rfl <;> simp only [ofFields, flatten, named, payload] <;> rfl

lemma ofFields_of_data (named : fs.get? "type" = some (.text "message"))
    (wrapped : fs.get? "data" = some (.object data)) :
    ofFields fs = ofFlat (("type", .text "message") ::
      data.filter fun f => f.1 = "role" || f.1 = "transcript") := by
  simp only [ofFields, flatten, named, wrapped]

lemma ofFields_of_bare (named : fs.get? "type" = some (.text kind))
    (empty : kind ∉ ["call-start", "error"])
    (bare : kind = "message" → ∀ data, fs.get? "data" ≠ some (.object data)) :
    ofFields fs = ofFlat (fs.without ["data"]) := by
  rw [ofFields, flatten, named]
  split <;> simp_all

lemma get?_without_data (other : key ≠ "data") : (fs.without ["data"]).get? key = fs.get? key :=
  Fields.get?_filter (p := fun k => !(["data"].contains k)) (by simpa using other)

lemma ofFields_message_congr (hf : fs.get? "type" = some (.text "message"))
    (hg : gs.get? "type" = some (.text "message")) (wrapped : fs.get? "data" = some (.object data))
    (bare : ∀ other, gs.get? "data" ≠ some (.object other))
    (role : gs.get? "role" = data.get? "role")
    (transcript : gs.get? "transcript" = data.get? "transcript") : ofFields fs = ofFields gs := by
  rw [ofFields_of_data hf wrapped, ofFields_of_bare hg (by decide) fun _ => bare]
  refine ofFlat_message_congr rfl ?_ ?_ ?_
  · rw [get?_without_data (by decide), hg]
  · rw [get?_without_data (by decide), role]
    exact Fields.get?_filter (p := fun k => k = "role" || k = "transcript") rfl
  · rw [get?_without_data (by decide), transcript]
    exact Fields.get?_filter (p := fun k => k = "role" || k = "transcript") rfl

/-! Events in either shape -/

structure IsFlat (e : Event) (fs : Fields) : Prop where
  fields : ∀ f ∈ e.toFields, fs.get? f.1 = some f.2
  bare : e.typeName = "message" → ∀ data, fs.get? "data" ≠ some (.object data)

/-- What an event has under its data in the wrapped shape; beside the data no payload may stand that
would be taken for it. -/
def IsUnderData (fs : Fields) : Event → Prop
  | callStart payload => fs.get? "payload" = none ∧ fs.get? "data" = some (.object payload)
  | failure payload => fs.get? "payload" = none ∧ fs.get? "data" = some payload
  | message role transcript => ∃ data : Fields, fs.get? "data" = some (.object data) ∧
      data.get? "role" = some (.text role.name) ∧ data.get? "transcript" = some (.text transcript)
  | _ => True

structure IsWrapped (e : Event) (fs : Fields) : Prop where
  named : fs.get? "type" = some (.text e.typeName)
  fields : e.IsUnderData fs

variable {e : Event}

lemma read_signal (signal : e = .speechStart ∨ e = .speechEnd ∨ e = .callEnd)
    (named : fs.get? "type" = some (.text e.typeName)) : ofFields fs = .ok e := by
  have kept : (fs.without ["data"]).get? "type" = some (.text e.typeName) := by
    rw [get?_without_data (by decide), named]
  rcases signal with rfl | rfl | rfl <;>
  · rw [ofFields_of_bare named (by decide) (absurd · (by decide)), ofFlat_eq kept rfl]
    rfl

lemma read_callStart {payload : Fields} (named : fs.get? "type" = some (.text "call-start"))
    (carries : carried fs = .object payload) : ofFields fs = .ok (.callStart payload) := by
  rw [ofFields_of_carried named (by simp), carries]
  rfl

lemma read_failure {payload : Json} (named : fs.get? "type" = some (.text "error"))
    (carries : carried fs = payload) : ofFields fs = .ok (.failure payload) := by
  rw [ofFields_of_carried named (by simp), carries]
  cases payload <;> rfl

lemma isFlat_toFields (e : Event) : e.IsFlat e.toFields := by
  refine ⟨?_, fun _ data => ?_⟩ <;>
  cases e <;> simp [toFields, Fields.get?, List.lookup_cons]

lemma IsFlat.named (h : e.IsFlat fs) : fs.get? "type" = some (.text e.typeName) := by
  cases e <;> exact h.fields (_, _) List.mem_cons_self

lemma IsFlat.read (h : e.IsFlat fs) : ofFields fs = .ok e := by
  cases e with
  | callStart payload =>
    exact read_callStart h.named (carried_of_payload (h.fields (_, _) (by simp [toFields])))
  | failure payload =>
    exact read_failure h.named (carried_of_payload (h.fields (_, _) (by simp [toFields])))
  | message role transcript =>
    have kept {key : String} {v : Json} (other : key ≠ "data")
        (hv : (key, v) ∈ toFields (.message role transcript)) :
        (fs.without ["data"]).get? key = some v :=
      (get?_without_data other).trans (h.fields _ hv)
    rw [ofFields_of_bare h.named (by simp [typeName]) fun _ => h.bare rfl]
    exact ofFlat_message (kept (by decide) (by simp [toFields]))
      (kept (by decide) (by simp [toFields])) (kept (by decide) (by simp [toFields]))
  | speechStart => exact read_signal (.inl rfl) h.named
  | speechEnd => exact read_signal (.inr (.inl rfl)) h.named
  | callEnd => exact read_signal (.inr (.inr rfl)) h.named

lemma IsWrapped.read (h : e.IsWrapped fs) : ofFields fs = .ok e := by
  obtain ⟨named, fields⟩ := h
  cases e with
  | callStart payload => exact read_callStart named (carried_of_data fields.1 fields.2)
  | failure payload => exact read_failure named (carried_of_data fields.1 fields.2)
  | message role transcript =>
    obtain ⟨data, there, spoken, said⟩ := fields
    have flat := isFlat_toFields (.message role transcript)
    rw [← flat.read]
    exact ofFields_message_congr named rfl there (flat.bare rfl) spoken.symm said.symm
  | speechStart => exact read_signal (.inl rfl) named
  | speechEnd => exact read_signal (.inr (.inl rfl)) named
  | callEnd => exact read_signal (.inr (.inr rfl)) named

/-- Either shape is read as the event that it was made of, and shapes that hold the same values give
the same event or the same faults. -/
theorem shapes_mean_the_same :
    (∀ (e : Event) (fs : Fields), e.IsFlat fs ∨ e.IsWrapped fs → ofJson (.object fs) = .ok e) ∧
    (∀ fs gs data : Fields,
      fs.get? "type" = some (.text "message") → gs.get? "type" = some (.text "message") →
      fs.get? "data" = some (.object data) → (∀ other, gs.get? "data" ≠ some (.object other)) →
      gs.get? "role" = data.get? "role" → gs.get? "transcript" = data.get? "transcript" →
      ofJson (.object fs) = ofJson (.object gs)) ∧
    ∀ kind ∈ ["call-start", "error"], ∀ (v : Json) (fs gs : Fields),
      fs.get? "type" = some (.text kind) → gs.get? "type" = some (.text kind) →
      fs.get? "payload" = none → fs.get? "data" = some v → gs.get? "payload" = some v →
      ofJson (.object fs) = ofJson (.object gs) := by
  refine ⟨?_, ?_, ?_⟩
  · rintro e fs (flat | wrapped)
    · rw [ofJson, flat.read]
    · rw [ofJson, wrapped.read]
  · intro fs gs data hf hg wrapped bare role transcript
    rw [ofJson, ofFields_message_congr hf hg wrapped bare role transcript, ofJson]
  · intro kind carries v fs gs hf hg absent wrapped flat
    have same : ofFields fs = ofFields gs := by
      rw [ofFields_of_carried hf carries, ofFields_of_carried hg carries,
        carried_of_data absent wrapped, carried_of_payload flat]
    rw [ofJson, same, ofJson]

theorem wrapped_greeting_is_read :
    ofJson (.object [("type", .text "message"), ("id", .whole 7), ("data", .object
        [("role", .text "user"), ("at", .null), ("transcript", .text "Hi")])]) =
      .ok (.message .user "Hi") ∧
    ofJson (.object [("type", .text "message"), ("data", .object [("role", .whole 7)])]) =
      ofJson (.object [("type", .text "message"), ("role", .whole 7)]) ∧
    ofJson (.object [("type", .text "call-start"), ("data", .whole 7)]) =
      ofJson (.object [("type", .text "call-start"), ("payload", .whole 7)]) := by
  obtain ⟨read, message, payload⟩ := shapes_mean_the_same
  exact ⟨read _ _ (.inr ⟨rfl, _, rfl, rfl, rfl⟩),
    message _ _ _ rfl rfl rfl (fun _ => nofun) rfl rfl,
    payload "call-start" (by simp) _ _ _ rfl rfl rfl rfl rfl⟩

end Call.Event

end Dialogue
