import Dialogue.Flow.Decode
import Dialogue.Proofs.Flow.Slots

/-! What is stored of a flow, and what is read back. Of the extras, some may be lost, and some be taken for
fields: those that stand under the second spelling of a field which is left out because it is null. -/

namespace Dialogue

open Schema

def Stable {α : Type} (read : Decoder α) (store : α → Json) (a : α) : Prop :=
  ∃ b, read (store a) = .ok b ∧ store b = store a

lemma stable_items {α : Type} {read : Decoder α} {store : α → Json} {as : List α} :
    (∃ bs, items read (.list (as.map store)) = .ok bs ∧ bs.map store = as.map store) ↔
      ∀ a ∈ as, Stable read store a := by
  induction as with
  | nil => simp [items_eq_ok]
  | cons a rest ih =>
    rw [List.forall_mem_cons, ← ih]
    constructor
    · rintro ⟨bs, reads, same⟩
      rw [items_eq_ok] at reads
      cases bs with
      | nil => cases same
      | cons b bs =>
        obtain ⟨first, later⟩ := List.cons.inj reads
        obtain ⟨firstSame, laterSame⟩ := List.cons.inj same
        exact ⟨⟨b, first, firstSame⟩, bs, items_eq_ok.mpr later, laterSame⟩
    · rintro ⟨⟨b, first, firstSame⟩, bs, later, laterSame⟩
      refine ⟨b :: bs, items_eq_ok.mpr ?_, congrArg₂ List.cons firstSame laterSame⟩
      exact congrArg₂ List.cons first (items_eq_ok.mp later)

lemma map_eq_of_stored {α β : Type} {store : α → Json} {f : α → β} {as bs : List α}
    (told : ∀ a ∈ as, ∀ b ∈ bs, store a = store b → f a = f b)
    (same : as.map store = bs.map store) : as.map f = bs.map f := by
  induction as generalizing bs with
  | nil => rw [List.map_eq_nil_iff.mp same.symm]
  | cons a as ih =>
    cases bs with
    | nil => cases same
    | cons b bs =>
      obtain ⟨first, later⟩ := List.cons.inj same
      have head := told a List.mem_cons_self b List.mem_cons_self first
      have tail := ih (fun a ha b hb => told a (.tail _ ha) b (.tail _ hb)) later
      exact congrArg₂ List.cons head tail

namespace Lookup

variable {l : Lookup}

def reread (l : Lookup) : Lookup :=
  { l with lastResponse := (l.lastResponse.map Json.finite).filter (! ·.isNull) }

def declared : List Field :=
  [.plain "endpoint", .plain "method", .plain "headers", ⟨"responseMapping", "response_mapping"⟩,
    ⟨"testPhone", "test_phone"⟩, ⟨"lastTestResponse", "last_test_response"⟩]

def slots (l : Lookup) : Slots :=
  [(.plain "endpoint", some (.text l.endpoint)), (.plain "method", some (.text "GET")),
    (.plain "headers", some (.list (l.headers.map headerJson))),
    (⟨"responseMapping", "response_mapping"⟩, some (.list (l.mappings.map mappingJson))),
    (⟨"testPhone", "test_phone"⟩, l.testPhone.map .text),
    (⟨"lastTestResponse", "last_test_response"⟩, l.lastResponse.map Json.finite)]

lemma proper_declared : Proper declared := ⟨by decide, by decide⟩

lemma toJson_eq : l.toJson = .object (l.slots.form []) :=
  congrArg Json.object (List.append_nil _).symm

lemma toJson_ne_null (l : Lookup) : l.toJson ≠ .null := by
  simp [toJson]

lemma find?_form : ∀ s ∈ l.slots, s.1.find? (l.slots.form []) = s.2.map (s.1.key, ·) :=
  fun _ => Slots.find?_form proper_declared fresh_nil fun _ _ => List.not_mem_nil

lemma header_headerJson (h : Header) : header (headerJson h) = .ok (id h) := rfl

lemma mapping_mappingJson (m : Mapping) : mapping (mappingJson m) = .ok (id m) := rfl

lemma response_finite (v : Json) : response v.finite = .ok ((some v.finite).filter (! ·.isNull)) := by
  cases h : v.finite <;> rfl

lemma ofJson_of_found {fs : Fields}
    (found : ∀ s ∈ l.slots, s.1.find? fs = s.2.map (s.1.key, ·)) :
    Lookup.ofJson (.object fs) = .ok l.reread := by
  simp only [slots, List.forall_mem_cons] at found
  obtain ⟨endpoint, method, headers, mappings, phone, last, -⟩ := found
  have endpoint : optional (.plain "endpoint") "" text fs = .ok l.endpoint :=
    optional_of_find? endpoint rfl
  have method : optional (.plain "method") "GET" (among ["GET"]) fs = .ok "GET" :=
    optional_of_find? method rfl
  have headers : optional (.plain "headers") [] (items header) fs = .ok (l.headers.map id) :=
    optional_of_find? headers (items_map header_headerJson _)
  have mappings : optional ⟨"responseMapping", "response_mapping"⟩ [] (items mapping) fs =
      .ok (l.mappings.map id) :=
    optional_of_find? mappings (items_map mapping_mappingJson _)
  have phone : optional ⟨"testPhone", "test_phone"⟩ none (nullable text) fs =
      .ok l.testPhone :=
    optional_text phone
  have last : optional ⟨"lastTestResponse", "last_test_response"⟩ none response fs =
      .ok ((l.lastResponse.map Json.finite).filter (! ·.isNull)) := by
    cases given : l.lastResponse with
    | none => exact optional_of_absent (by rw [last, given]; rfl)
    | some v => exact optional_of_find? (by rw [last, given]; rfl) (response_finite v)
  rw [Lookup.ofJson, record, endpoint, method, headers, mappings, phone, last, List.map_id,
    List.map_id]
  rfl

lemma ofJson_toJson : Lookup.ofJson l.toJson = .ok l.reread :=
  toJson_eq ▸ ofJson_of_found find?_form

lemma get?_response : l.slots.entries.get? "lastTestResponse" = l.lastResponse.map Json.finite := by
  have all : ∀ s ∈ l.slots, l.slots.entries.get? s.1.key = s.2 :=
    fun _ => Slots.get?_entries proper_declared
  generalize l.slots.entries = fs at all ⊢
  simp only [slots, List.forall_mem_cons] at all
  exact all.2.2.2.2.2.1

lemma kept_eq {m : Lookup} (same : l.toJson = m.toJson) : l.kept = m.kept := by
  have fields : l.slots.fields = m.slots.fields := rfl
  rw [toJson_eq, toJson_eq, Json.object.injEq, Slots.form_inj fields fresh_nil fresh_nil] at same
  have last := congrArg (Fields.get? · "lastTestResponse") same.1
  simp only [get?_response] at last
  rw [kept, kept, last]

lemma toJson_reread_iff : l.reread.toJson = l.toJson ↔ ∀ v, l.lastResponse = some v → v.IsKept := by
  have fields : l.reread.slots.fields = l.slots.fields := rfl
  rw [toJson_eq, toJson_eq, Json.object.injEq, Slots.form_inj fields fresh_nil fresh_nil]
  constructor
  · rintro ⟨same, -⟩ v given null
    have again := congrArg (Fields.get? · "lastTestResponse") same
    simp [get?_response, reread, given, null, Json.isNull] at again
  · intro kept
    have last : l.reread.lastResponse.map Json.finite = l.lastResponse.map Json.finite := by
      cases given : l.lastResponse with
      | none => simp [reread, given]
      | some v =>
        have there := Json.isNull_eq_false_iff.mpr (kept v given)
        simp [reread, given, there, Json.finite_finite]
    have same : l.reread.slots = l.slots := by
      rw [slots, last]
      rfl
    exact ⟨congrArg _ same, rfl⟩

end Lookup

namespace Content

def lookup? : Content → Option Lookup
  | action _ _ lookup => lookup
  | _ => none

lemma kept_of_lookup? (c : Content) : c.kept = c.lookup?.elim [] Lookup.kept := by
  rcases c with _ | _ | _ | _ | ⟨_, _, _ | _⟩ | _ | _ <;> rfl

def reread : Content → Content
  | action spoken actionType lookup => action spoken actionType (lookup.map Lookup.reread)
  | c => c

lemma kind_reread (c : Content) : c.reread.kind = c.kind := by
  cases c <;> rfl

def slots : Content → Slots
  | start => []
  | message spoken => [(.plain "content", spoken.map .text)]
  | listen intents => [(.plain "intents", some (.ofTexts intents))]
  | branch => []
  | action spoken actionType lookup =>
    [(.plain "content", spoken.map .text), (⟨"actionType", "action_type"⟩, actionType.map .text),
      (⟨"apiConfig", "api_config"⟩, lookup.map Lookup.toJson)]
  | transfer number => [(⟨"transferNumber", "transfer_number"⟩, number.map .text)]
  | ending farewell spoken =>
    [(⟨"endMessage", "end_message"⟩, farewell.map .text), (.plain "content", spoken.map .text)]

end Content

namespace NodeData

variable {d : NodeData} {fs : Fields}

def slots (d : NodeData) : Slots := (.plain "label", some (.text d.label)) :: d.content.slots

lemma fields_slots : d.slots.fields = declared d.content.kind := by
  obtain ⟨_, content, _⟩ := d
  cases content <;> rfl

lemma proper_declared (k : Kind) : Proper (declared k) := by
  cases k <;> exact ⟨by decide, by decide⟩

lemma dataJson_eq : Node.dataJson d = .object (d.slots.form d.extras) := by
  obtain ⟨_, content, _⟩ := d
  cases content <;> rfl

lemma ofFields_of_found {c : Content} (found : ∀ s ∈ c.slots, s.1.find? fs = s.2.map (s.1.key, ·)) :
    Content.ofFields c.kind fs = .ok c.reread := by
  cases c with
  | start => rfl
  | branch => rfl
  | message spoken =>
    simp only [Content.slots, List.forall_mem_cons] at found
    rw [Content.kind, Content.ofFields, Content.spoken, optional_text found.1]
    rfl
  | listen intents =>
    simp only [Content.slots, List.forall_mem_cons] at found
    have reads (s : String) : text (.text s) = .ok (id s) := rfl
    have read := items_map reads intents
    rw [Content.kind, Content.ofFields, optional_of_find? found.1 read, List.map_id]
    rfl
  | action spoken actionType lookup =>
    simp only [Content.slots, List.forall_mem_cons] at found
    obtain ⟨said, typed, looked, -⟩ := found
    have looked :=
      optional_nullable looked (fun l => l.ofJson_toJson) (fun l => l.toJson_ne_null)
    rw [Content.kind, Content.ofFields, Content.spoken, optional_text said, optional_text typed,
      looked]
    rfl
  | transfer number =>
    simp only [Content.slots, List.forall_mem_cons] at found
    rw [Content.kind, Content.ofFields, optional_text found.1]
    rfl
  | ending farewell spoken =>
    simp only [Content.slots, List.forall_mem_cons] at found
    obtain ⟨ended, said, -⟩ := found
    rw [Content.kind, Content.ofFields, Content.spoken, optional_text said, optional_text ended]
    rfl

lemma ofJson_of_found (found : ∀ s ∈ d.slots, s.1.find? fs = s.2.map (s.1.key, ·)) :
    ofJson d.content.kind (.object fs) =
      .ok ⟨d.label, d.content.reread, Schema.extras (declared d.content.kind) fs⟩ := by
  obtain ⟨labelled, found⟩ := List.forall_mem_cons.mp found
  have labelled : optional (.plain "label") "" text fs = .ok d.label := optional_of_find? labelled rfl
  rw [ofJson, record, labelled, ofFields_of_found found]
  rfl

/-! Data that was read. -/

lemma kind_of_ofFields {k : Kind} {c : Content} (read : Content.ofFields k fs = .ok c) :
    c.kind = k := by
  cases k with
  | start | branch =>
    cases read
    rfl
  | message | listen | transfer =>
    obtain ⟨_, _, rfl⟩ := map_eq_ok.mp read
    rfl
  | ending =>
    obtain ⟨_, _, one, _, rfl⟩ := seq_eq_ok.mp read
    obtain ⟨_, _, rfl⟩ := map_eq_ok.mp one
    rfl
  | action =>
    obtain ⟨_, _, two, _, rfl⟩ := seq_eq_ok.mp read
    obtain ⟨_, _, one, _, rfl⟩ := seq_eq_ok.mp two
    obtain ⟨_, _, rfl⟩ := map_eq_ok.mp one
    rfl

lemma of_ofJson_eq_ok {k : Kind} {v : Json} (read : ofJson k v = .ok d) :
    d.content.kind = k ∧ ∃ fs, v = .object fs ∧ d.extras = Schema.extras (declared k) fs := by
  cases v with
  | object fs =>
    obtain ⟨_, _, two, extras, rfl⟩ := seq_eq_ok.mp read
    obtain ⟨_, c, one, content, rfl⟩ := seq_eq_ok.mp two
    obtain ⟨_, _, rfl⟩ := map_eq_ok.mp one
    exact ⟨kind_of_ofFields content, fs, rfl, (Checked.ok.inj extras).symm⟩
  | _ => cases read

def IsRead (d : NodeData) : Prop := Fresh (declared d.content.kind) d.extras

lemma isRead_of_ofJson {k : Kind} {v : Json} (read : ofJson k v = .ok d) : d.IsRead := by
  obtain ⟨rfl, fs, -, extras⟩ := of_ofJson_eq_ok read
  intro e he f hf
  exact key_ne_of_mem_extras (extras ▸ he) hf

lemma isRead_bare (k : Kind) : (bare k).IsRead := fresh_nil

def reread (d : NodeData) : NodeData := ⟨d.label, d.content.reread, d.extras.stored⟩

lemma fields_reread : d.reread.slots.fields = d.slots.fields := by
  rw [fields_slots, fields_slots, reread, Content.kind_reread]

lemma proper_slots : Proper d.slots.fields := fields_slots ▸ proper_declared _

lemma IsRead.fresh (h : d.IsRead) : Fresh d.slots.fields d.extras := fields_slots ▸ h

lemma IsRead.fresh_stored (h : d.IsRead) : Fresh d.reread.slots.fields d.reread.extras := by
  rw [fields_reread]
  exact h.fresh.stored

lemma ofJson_dataJson (h : d.IsRead)
    (written : ∀ key ∈ d.slots.unwritten, key ∉ d.extras.stored.keys) :
    ofJson d.content.kind (Node.dataJson d) = .ok d.reread := by
  have extras := Slots.extras_form proper_slots h.fresh written
  rw [fields_slots] at extras
  rw [dataJson_eq, ofJson_of_found fun _ => Slots.find?_form proper_slots h.fresh written, extras]
  rfl

lemma written_of_stable (h : d.IsRead)
    (stable : Stable (ofJson d.content.kind) Node.dataJson d) :
    ∀ key ∈ d.slots.unwritten, key ∉ d.extras.stored.keys := by
  intro key unwritten stored
  obtain ⟨b, read, same⟩ := stable
  obtain ⟨kind, fs, object, extras⟩ := of_ofJson_eq_ok read
  rw [dataJson_eq, Json.object.injEq] at object
  rw [dataJson_eq, dataJson_eq, Json.object.injEq] at same
  rw [← object, ← fields_slots] at extras
  have there : key ∈ (b.slots.form b.extras).keys := by
    rw [same, Slots.form, Fields.keys, List.map_append]
    exact List.mem_append_right _ stored
  rw [Slots.form, Fields.keys, List.map_append] at there
  rcases List.mem_append.mp there with there | there
  · -- Extras do not have the keys of fields.
    obtain ⟨e, he, rfl, -⟩ := Fields.mem_keys_stored stored
    obtain ⟨s, hs, -, same⟩ := Slots.mem_keys_entries.mp there
    have fields : b.slots.fields = d.slots.fields := by rw [fields_slots, fields_slots, kind]
    exact h.fresh e he s.1 (fields ▸ List.mem_map_of_mem hs) same.symm
  · obtain ⟨e, he, rfl, -⟩ := Fields.mem_keys_stored there
    exact Slots.notMem_extras_form proper_slots h.fresh unwritten stored
      (extras ▸ List.mem_map_of_mem he)

lemma get?_lookup (d : NodeData) :
    d.slots.entries.get? "apiConfig" = d.content.lookup?.map Lookup.toJson := by
  obtain ⟨label, content, extras⟩ := d
  cases content with
  | action spoken actionType lookup =>
    exact Slots.get?_entries (s := (⟨"apiConfig", "api_config"⟩, lookup.map Lookup.toJson))
      proper_slots (by simp [slots, Content.slots])
  | _ =>
    refine Fields.get?_eq_none_iff.mpr ?_
    simp [Slots.mem_keys_entries, slots, Content.slots, Field.plain]

lemma entries_reread_iff : d.reread.slots.entries = d.slots.entries ↔
    ∀ l, d.content.lookup? = some l → l.reread.toJson = l.toJson := by
  obtain ⟨label, content, extras⟩ := d
  cases content with
  | action spoken actionType lookup =>
    constructor
    · rintro same l ⟨⟩
      have again := congrArg (Fields.get? · "apiConfig") same
      simpa [get?_lookup, reread, Content.reread, Content.lookup?] using again
    · intro same
      have looked : (lookup.map Lookup.reread).map Lookup.toJson = lookup.map Lookup.toJson := by
        cases lookup with
        | none => rfl
        | some l => exact congrArg some (same l rfl)
      simp only [reread, Content.reread, slots, Content.slots, looked]
  | _ => exact iff_of_true rfl nofun

lemma kept_eq {b : NodeData} (h : d.IsRead) (h' : b.IsRead) (kind : d.content.kind = b.content.kind)
    (same : Node.dataJson d = Node.dataJson b) :
    d.content.kept = b.content.kept ∧ d.extras.kept = b.extras.kept := by
  have fields : d.slots.fields = b.slots.fields := by rw [fields_slots, fields_slots, kind]
  rw [dataJson_eq, dataJson_eq, Json.object.injEq, Slots.form_inj fields h.fresh h'.fresh] at same
  obtain ⟨entries, extras⟩ := same
  have looked := congrArg (Fields.get? · "apiConfig") entries
  simp only [get?_lookup] at looked
  refine ⟨?_, congrArg (List.map Prod.snd) extras⟩
  rw [Content.kept_of_lookup?, Content.kept_of_lookup?]
  cases found : d.content.lookup? with
  | none =>
    rw [found, Option.map_none, eq_comm, Option.map_eq_none_iff] at looked
    rw [looked]
  | some l =>
    rw [found, Option.map_some, eq_comm, Option.map_eq_some_iff] at looked
    obtain ⟨m, there, same⟩ := looked
    rw [there]
    exact Lookup.kept_eq same.symm

lemma dataJson_reread_iff (h : d.IsRead) : Node.dataJson d.reread = Node.dataJson d ↔
    d.extras.AreKept ∧
      ∀ l, d.content.lookup? = some l → ∀ v, l.lastResponse = some v → v.IsKept := by
  rw [dataJson_eq, dataJson_eq, Json.object.injEq,
    Slots.form_inj fields_reread h.fresh_stored h.fresh, entries_reread_iff, and_comm]
  refine and_congr Fields.stored_stored_iff ?_
  exact forall_congr' fun l => imp_congr_right fun _ => Lookup.toJson_reread_iff

/-- An extra must neither be lost when it is stored nor stand where a field that is left out is looked
for. -/
structure Settled (d : NodeData) : Prop where
  kept : d.extras.AreKept
  apart : ∀ e ∈ d.extras, e.2 ≠ .null → e.1 ∉ d.slots.unwritten
  response : ∀ l, d.content.lookup? = some l → ∀ v, l.lastResponse = some v → v.IsKept

lemma written_iff : (∀ key ∈ d.slots.unwritten, key ∉ d.extras.stored.keys) ↔
    ∀ e ∈ d.extras, e.2 ≠ .null → e.1 ∉ d.slots.unwritten := by
  constructor
  · intro written e he there unwritten
    exact written e.1 unwritten (Fields.mem_keys_stored_of_mem he there)
  · intro apart key unwritten stored
    obtain ⟨e, he, rfl, there⟩ := Fields.mem_keys_stored stored
    exact apart e he there unwritten

lemma stable_iff (h : d.IsRead) : Stable (ofJson d.content.kind) Node.dataJson d ↔ d.Settled := by
  constructor
  · intro stable
    have written := written_of_stable h stable
    obtain ⟨b, read, same⟩ := stable
    obtain rfl := Checked.ok.inj ((ofJson_dataJson h written).symm.trans read)
    obtain ⟨kept, response⟩ := (dataJson_reread_iff h).mp same
    exact ⟨kept, written_iff.mp written, response⟩
  · intro settled
    have same := (dataJson_reread_iff h).mpr ⟨settled.kept, settled.response⟩
    exact ⟨d.reread, ofJson_dataJson h (written_iff.mpr settled.apart), same⟩

end NodeData

namespace Node

variable {n : Node}

def slots (n : Node) : Slots :=
  [(.plain "id", some (.text n.id)), (.plain "type", some (.text n.kind.name)),
    (.plain "position", some n.position.toJson), (.plain "data", some (dataJson n.data))]

lemma proper_declared : Proper declared := ⟨by decide, by decide⟩

lemma toJson_eq : n.toJson = .object (n.slots.form n.extras) := rfl

def IsRead (n : Node) : Prop := n.data.IsRead ∧ Fresh declared n.extras

lemma isRead_of_ofFields {k : Kind} {fs : Fields} (read : ofFields k fs = .ok n) : n.IsRead := by
  obtain ⟨_, _, three, extras, rfl⟩ := seq_eq_ok.mp read
  obtain ⟨_, data, two, readData, rfl⟩ := seq_eq_ok.mp three
  obtain ⟨_, _, one, _, rfl⟩ := seq_eq_ok.mp two
  obtain ⟨_, _, rfl⟩ := map_eq_ok.mp one
  refine ⟨?_, fun e he f hf => key_ne_of_mem_extras (Checked.ok.inj extras ▸ he) hf⟩
  rcases of_optional_eq_ok readData with rfl | ⟨v, readData⟩
  · exact NodeData.isRead_bare k
  · exact NodeData.isRead_of_ofJson readData

lemma isRead_of_ofJson {v : Json} (read : ofJson v = .ok n) : n.IsRead := by
  cases v with
  | object fs =>
    obtain ⟨form, known, read⟩ := of_tagged_eq_ok read
    obtain ⟨k, -, rfl⟩ := List.mem_map.mp known
    exact isRead_of_ofFields read
  | _ => cases read

lemma ofJson_of_type {fs : Fields} {k : Kind} (typed : fs.get? "type" = some (.text k.name)) :
    ofJson (.object fs) = (ofFields k fs).under (.name k.name) := by
  rw [ofJson, tagged, typed]
  cases k <;> rfl

lemma ofFields_form (fresh : Fresh declared n.extras) :
    ofFields n.kind (n.slots.form n.extras) =
      (Node.mk n.id n.position · n.extras.stored) <$>
        (NodeData.ofJson n.kind (dataJson n.data)).under (.name "data") := by
  have written : ∀ key ∈ n.slots.unwritten, key ∉ n.extras.stored.keys := nofun
  have extras : Schema.extras declared (n.slots.form n.extras) = n.extras.stored :=
    Slots.extras_form proper_declared fresh written
  have found : ∀ s ∈ n.slots, s.1.find? (n.slots.form n.extras) = s.2.map (s.1.key, ·) :=
    fun _ => Slots.find?_form proper_declared fresh written
  generalize n.slots.form n.extras = fs at extras found ⊢
  simp only [slots, List.forall_mem_cons] at found
  obtain ⟨id, -, position, data, -⟩ := found
  have id : required (.plain "id") text fs = .ok n.id := required_of_find? id rfl
  have position : optional (.plain "position") .origin Position.ofJson fs = .ok n.position :=
    optional_of_find? position rfl
  have data : optional (.plain "data") (.bare n.kind) (NodeData.ofJson n.kind) fs =
      (NodeData.ofJson n.kind (dataJson n.data)).under (.name "data") := by
    rw [Schema.optional, data]
    rfl
  rw [ofFields, id, position, data, extras]
  cases (NodeData.ofJson n.kind (dataJson n.data)).under (.name "data") <;> rfl

lemma ofJson_toJson (fresh : Fresh declared n.extras) {b : Node} : ofJson n.toJson = .ok b ↔
    ∃ data, NodeData.ofJson n.kind (dataJson n.data) = .ok data ∧
      ⟨n.id, n.position, data, n.extras.stored⟩ = b := by
  have typed : (n.slots.form n.extras).get? "type" = some (.text n.kind.name) := rfl
  rw [toJson_eq, ofJson_of_type typed, Checked.under_eq_ok, ofFields_form fresh, map_eq_ok]
  simp only [Checked.under_eq_ok]

lemma kept_eq {m : Node} (h : n.IsRead) (h' : m.IsRead) (same : n.toJson = m.toJson) :
    n.kept = m.kept := by
  have fields : n.slots.fields = m.slots.fields := rfl
  rw [toJson_eq, toJson_eq, Json.object.injEq, Slots.form_inj fields h.2 h'.2] at same
  obtain ⟨entries, extras⟩ := same
  have outer : n.extras.kept = m.extras.kept := congrArg (List.map Prod.snd) extras
  obtain ⟨-, named, -, data⟩ : n.id = m.id ∧ n.kind.name = m.kind.name ∧
      n.position.toJson = m.position.toJson ∧ dataJson n.data = dataJson m.data := by
    simpa [slots, Slots.entries, Fields.present] using entries
  obtain ⟨lookups, inner⟩ := NodeData.kept_eq h.1 h'.1 (Kind.name_inj named) data
  rw [kept, kept, lookups, inner, outer]

structure Settled (n : Node) : Prop where
  data : n.data.Settled
  kept : n.extras.AreKept

lemma stable_iff (h : n.IsRead) : Stable ofJson toJson n ↔ n.Settled := by
  have same_iff {data : NodeData} (kind : data.content.kind = n.kind) :
      toJson ⟨n.id, n.position, data, n.extras.stored⟩ = n.toJson ↔
        dataJson data = dataJson n.data ∧ n.extras.AreKept := by
    have kind : Node.kind ⟨n.id, n.position, data, n.extras.stored⟩ = n.kind := kind
    have fields : (slots ⟨n.id, n.position, data, n.extras.stored⟩).fields = n.slots.fields := rfl
    rw [toJson_eq, toJson_eq, Json.object.injEq, Slots.form_inj fields h.2.stored h.2]
    refine and_congr ?_ Fields.stored_stored_iff
    simp [slots, Slots.entries, Fields.present, kind]
  constructor
  · rintro ⟨b, read, same⟩
    obtain ⟨data, readData, rfl⟩ := (ofJson_toJson h.2).mp read
    obtain ⟨sameData, kept⟩ := (same_iff (NodeData.of_ofJson_eq_ok readData).1).mp same
    exact ⟨(NodeData.stable_iff h.1).mp ⟨data, readData, sameData⟩, kept⟩
  · rintro ⟨data, kept⟩
    obtain ⟨data, readData, sameData⟩ := (NodeData.stable_iff h.1).mpr data
    refine ⟨_, (ofJson_toJson h.2).mpr ⟨data, readData, rfl⟩, ?_⟩
    exact (same_iff (NodeData.of_ofJson_eq_ok readData).1).mpr ⟨sameData, kept⟩

end Node

namespace Edge

variable {e : Edge}

def slots (e : Edge) : Slots :=
  [(.plain "id", some (.text e.id)), (.plain "source", some (.text e.source)),
    (.plain "target", some (.text e.target)), (.plain "label", e.label.map .text)]

lemma proper_declared : Proper declared := ⟨by decide, by decide⟩

lemma toJson_eq : e.toJson = .object (e.slots.form e.extras) := by
  obtain ⟨_, _, _, label, _⟩ := e
  cases label <;> rfl

def IsRead (e : Edge) : Prop := Fresh declared e.extras

lemma isRead_of_ofJson {v : Json} (read : ofJson v = .ok e) : e.IsRead := by
  cases v with
  | object fs =>
    obtain ⟨_, _, four, extras, rfl⟩ := seq_eq_ok.mp read
    obtain ⟨_, _, three, _, rfl⟩ := seq_eq_ok.mp four
    obtain ⟨_, _, two, _, rfl⟩ := seq_eq_ok.mp three
    obtain ⟨_, _, one, _, rfl⟩ := seq_eq_ok.mp two
    obtain ⟨_, _, rfl⟩ := map_eq_ok.mp one
    exact fun e he f hf => key_ne_of_mem_extras (Checked.ok.inj extras ▸ he) hf
  | _ => cases read

lemma ofJson_toJson (fresh : e.IsRead) :
    ofJson e.toJson = .ok { e with extras := e.extras.stored } := by
  have plain : ∀ s ∈ e.slots, s.1.spelling = s.1.key := by simp [slots, Field.plain]
  have written := Slots.written_of_plain plain fresh
  have extras : Schema.extras declared (e.slots.form e.extras) = e.extras.stored :=
    Slots.extras_form proper_declared fresh written
  have found : ∀ s ∈ e.slots, s.1.find? (e.slots.form e.extras) = s.2.map (s.1.key, ·) :=
    fun _ => Slots.find?_form proper_declared fresh written
  rw [toJson_eq, ofJson, record]
  generalize e.slots.form e.extras = fs at extras found ⊢
  simp only [slots, List.forall_mem_cons] at found
  obtain ⟨id, source, target, label, -⟩ := found
  have id : required (.plain "id") text fs = .ok e.id := required_of_find? id rfl
  have source : required (.plain "source") text fs = .ok e.source := required_of_find? source rfl
  have target : required (.plain "target") text fs = .ok e.target := required_of_find? target rfl
  rw [id, source, target, optional_text label, extras]
  rfl

lemma kept_eq {d : Edge} (h : e.IsRead) (h' : d.IsRead) (same : e.toJson = d.toJson) :
    e.extras.kept = d.extras.kept := by
  have fields : e.slots.fields = d.slots.fields := rfl
  rw [toJson_eq, toJson_eq, Json.object.injEq, Slots.form_inj fields h h'] at same
  exact congrArg (List.map Prod.snd) same.2

def Settled (e : Edge) : Prop := e.extras.AreKept

lemma stable_iff (fresh : e.IsRead) : Stable ofJson toJson e ↔ e.Settled := by
  have same_iff : toJson { e with extras := e.extras.stored } = e.toJson ↔ e.Settled := by
    have fields : (slots { e with extras := e.extras.stored }).fields = e.slots.fields := rfl
    rw [toJson_eq, toJson_eq, Json.object.injEq, Slots.form_inj fields fresh.stored fresh]
    exact (and_iff_right rfl).trans Fields.stored_stored_iff
  constructor
  · rintro ⟨b, read, same⟩
    obtain rfl := Checked.ok.inj ((ofJson_toJson fresh).symm.trans read)
    exact same_iff.mp same
  · exact fun settled => ⟨_, ofJson_toJson fresh, same_iff.mpr settled⟩

end Edge

namespace Flow

variable {g h : Flow}

/-- Nothing that was read is lost, or read as something else, when the flow is stored and read again. -/
structure Settled (g : Flow) : Prop where
  nodes : ∀ n ∈ g.nodes, n.Settled
  edges : ∀ e ∈ g.edges, e.Settled

lemma isRead_of_ofJson {p : Json} (read : ofJson p = .ok g) :
    (∀ n ∈ g.nodes, n.IsRead) ∧ ∀ e ∈ g.edges, e.IsRead := by
  cases p with
  | object fs =>
    obtain ⟨_, edges, one, readEdges, rfl⟩ := seq_eq_ok.mp read
    obtain ⟨nodes, readNodes, rfl⟩ := map_eq_ok.mp one
    constructor
    · intro n hn
      obtain ⟨v, read⟩ := of_optional_items_eq_ok readNodes hn
      exact Node.isRead_of_ofJson read
    · intro e he
      obtain ⟨v, read⟩ := of_optional_items_eq_ok readEdges he
      exact Edge.isRead_of_ofJson read
  | _ => cases read

lemma toJson_inj : g.toJson = h.toJson ↔
    g.nodes.map Node.toJson = h.nodes.map Node.toJson ∧
      g.edges.map Edge.toJson = h.edges.map Edge.toJson := by
  simp [toJson]

lemma ofJson_toJson {b : Flow} : ofJson g.toJson = .ok b ↔
    items Node.ofJson (.list (g.nodes.map Node.toJson)) = .ok b.nodes ∧
      items Edge.ofJson (.list (g.edges.map Edge.toJson)) = .ok b.edges := by
  change Flow.mk <$> (items Node.ofJson (.list (g.nodes.map Node.toJson))).under (.name "nodes") <*>
    (items Edge.ofJson (.list (g.edges.map Edge.toJson))).under (.name "edges") = _ ↔ _
  rw [seq_eq_ok]
  constructor
  · rintro ⟨_, edges, one, readEdges, rfl⟩
    obtain ⟨nodes, readNodes, rfl⟩ := map_eq_ok.mp one
    exact ⟨Checked.under_eq_ok.mp readNodes, Checked.under_eq_ok.mp readEdges⟩
  · rintro ⟨readNodes, readEdges⟩
    exact ⟨_, _, map_eq_ok.mpr ⟨_, Checked.under_eq_ok.mpr readNodes, rfl⟩,
      Checked.under_eq_ok.mpr readEdges, rfl⟩

lemma rereads_iff {p : Json} (loaded : ofJson p = .ok g) :
    (∃ again, ofJson g.toJson = .ok again ∧ again.toJson = g.toJson) ↔ g.Settled := by
  obtain ⟨nodesRead, edgesRead⟩ := isRead_of_ofJson loaded
  have nodes : (∀ n ∈ g.nodes, Stable Node.ofJson Node.toJson n) ↔ ∀ n ∈ g.nodes, n.Settled :=
    forall₂_congr fun n hn => Node.stable_iff (nodesRead n hn)
  have edges : (∀ e ∈ g.edges, Stable Edge.ofJson Edge.toJson e) ↔ ∀ e ∈ g.edges, e.Settled :=
    forall₂_congr fun e he => Edge.stable_iff (edgesRead e he)
  constructor
  · rintro ⟨again, read, same⟩
    obtain ⟨readNodes, readEdges⟩ := ofJson_toJson.mp read
    obtain ⟨sameNodes, sameEdges⟩ := toJson_inj.mp same
    exact ⟨nodes.mp (stable_items.mp ⟨again.nodes, readNodes, sameNodes⟩),
      edges.mp (stable_items.mp ⟨again.edges, readEdges, sameEdges⟩)⟩
  · intro settled
    obtain ⟨bs, readNodes, sameNodes⟩ := stable_items.mpr (nodes.mpr settled.nodes)
    obtain ⟨es, readEdges, sameEdges⟩ := stable_items.mpr (edges.mpr settled.edges)
    exact ⟨⟨bs, es⟩, ofJson_toJson.mpr ⟨readNodes, readEdges⟩, toJson_inj.mpr ⟨sameNodes, sameEdges⟩⟩

lemma kept_eq {p q : Json} (read : ofJson p = .ok g) (read' : ofJson q = .ok h)
    (same : g.toJson = h.toJson) : g.kept = h.kept := by
  obtain ⟨sameNodes, sameEdges⟩ := toJson_inj.mp same
  obtain ⟨nodes, edges⟩ := isRead_of_ofJson read
  obtain ⟨nodes', edges'⟩ := isRead_of_ofJson read'
  have ofNodes : g.nodes.map Node.kept = h.nodes.map Node.kept :=
    map_eq_of_stored (fun n hn m hm => Node.kept_eq (nodes n hn) (nodes' m hm)) sameNodes
  have ofEdges : g.edges.map (·.extras.kept) = h.edges.map (·.extras.kept) :=
    map_eq_of_stored (fun e he d hd => Edge.kept_eq (edges e he) (edges' d hd)) sameEdges
  rw [kept, kept, List.flatMap_def, List.flatMap_def, ofNodes, ofEdges]
  rfl

section

variable [Limits]

lemma payload_eq_ok {q : Json} :
    g.payload = .ok q ↔ (∀ v ∈ g.kept, Limits.stores v = true) ∧ g.toJson = q := by
  unfold payload
  split_ifs with all
  · rw [Except.ok.injEq, and_iff_right (List.all_eq_true.mp all)]
  · exact iff_of_false nofun fun taken => all (List.all_eq_true.mpr taken.1)

/-- A flow that was read can be stored, read again, and stored as before, exactly if the store takes
every value that is kept as given and the flow is settled. -/
theorem stored_form_is_stable_iff {p : Json} (loaded : ofJson p = .ok g) :
    (∃ q again, g.payload = .ok q ∧ ofJson q = .ok again ∧ again.payload = .ok q) ↔
      (∀ v ∈ g.kept, Limits.stores v = true) ∧ g.Settled := by
  constructor
  · rintro ⟨q, again, stored, read, storedAgain⟩
    obtain ⟨taken, rfl⟩ := payload_eq_ok.mp stored
    exact ⟨taken, (rereads_iff loaded).mp ⟨again, read, (payload_eq_ok.mp storedAgain).2⟩⟩
  · rintro ⟨taken, settled⟩
    obtain ⟨again, read, same⟩ := (rereads_iff loaded).mpr settled
    have takenAgain : ∀ v ∈ again.kept, Limits.stores v = true := by
      rwa [kept_eq read loaded same]
    exact ⟨g.toJson, again, payload_eq_ok.mpr ⟨taken, rfl⟩, read,
      payload_eq_ok.mpr ⟨takenAgain, same⟩⟩

end

def hotline (data edge : Fields) : Json :=
  .object
    [("nodes", .list [.object [("id", .text "desk"), ("type", .text "transfer"), ("data", .object data)]]),
      ("edges", .list [.object
        ([("id", .text "e"), ("source", .text "start"), ("target", .text "desk")] ++ edge)])]

def styledHotline : Flow :=
  ⟨[⟨"desk", .origin, ⟨"Desk", .transfer (some "+15550100"), [("style", .text "bold")]⟩, []⟩],
    [⟨"e", "start", "desk", none, [("animated", .bool true)]⟩]⟩

lemma settled_styledHotline : styledHotline.Settled where
  nodes n hn := by
    obtain rfl := List.mem_singleton.mp hn
    refine ⟨⟨?_, ?_, nofun⟩, nofun⟩
    · simp [Fields.AreKept, Json.isKept_iff]
    · simp [NodeData.slots, Content.slots, Slots.unwritten]
  edges e he := by
    obtain rfl := List.mem_singleton.mp he
    simp [Edge.Settled, Fields.AreKept, Json.isKept_iff]

theorem styled_hotline_is_stable : letI := Limits.usual
    ∃ g q again, ofJson (hotline [("label", .text "Desk"), ("transfer_number", .text "+15550100"),
        ("style", .text "bold")] [("animated", .bool true)]) = .ok g ∧
      g.payload = .ok q ∧ ofJson q = .ok again ∧ again.payload = .ok q := by
  let _ := Limits.usual
  have loaded : ofJson (hotline [("label", .text "Desk"), ("transfer_number", .text "+15550100"),
      ("style", .text "bold")] [("animated", .bool true)]) = .ok styledHotline := rfl
  have taken : ∀ v ∈ styledHotline.kept, Limits.stores v = true := List.all_eq_true.mp rfl
  obtain ⟨q, again, stable⟩ := (stored_form_is_stable_iff loaded).mpr ⟨taken, settled_styledHotline⟩
  exact ⟨styledHotline, q, again, loaded, stable⟩

theorem stored_transfer_is_unreadable : letI := Limits.usual
    ∃ g q, ofJson (hotline [("label", .text "Desk"), ("transferNumber", .null),
        ("transfer_number", .whole 5)] []) = .ok g ∧
      g.payload = .ok q ∧
      ofJson q = .bad [⟨[.name "nodes", .index 0, .name "transfer", .name "data",
        .name "transfer_number"], .notText⟩] :=
  ⟨_, _, rfl, rfl, rfl⟩

end Flow

end Dialogue
