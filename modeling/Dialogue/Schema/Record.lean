import Dialogue.Schema.Scalar

/-!
Records: objects with named fields. A field has a key and may have a second spelling of it, which
counts when the key itself is absent; fields that no declared one has used are the extras.
-/

namespace Dialogue.Schema

structure Field where
  key : String
  spelling : String

def Field.plain (key : String) : Field := ⟨key, key⟩

def Field.find? (f : Field) (fs : Fields) : Option (String × Json) :=
  ((fs.get? f.key).map (f.key, ·)).or ((fs.get? f.spelling).map (f.spelling, ·))

variable {α : Type}

def required (f : Field) (d : Decoder α) (fs : Fields) : Checked α :=
  match f.find? fs with
  | some (key, v) => Checked.under (.name key) (d v)
  | none => Checked.under (.name f.key) (.fail .missing)

def optional (f : Field) (default : α) (d : Decoder α) (fs : Fields) : Checked α :=
  match f.find? fs with
  | some (key, v) => Checked.under (.name key) (d v)
  | none => .ok default

def extras (declared : List Field) (fs : Fields) : Fields :=
  fs.without (declared.filterMap fun f => (f.find? fs).map (·.1))

def record (kind : String) (d : Fields → Checked α) : Decoder α
  | .object fs => d fs
  | _ => .fail (.notRecord kind)

def tagged (known : List (String × (Fields → Checked α))) (showTag : Json → String)
    (fs : Fields) : Checked α :=
  match fs.get? "type" with
  | none => .fail .tagMissing
  | some tag =>
    match tag.text?.bind fun s => (known.lookup s).map (s, ·) with
    | some (s, d) => Checked.under (.name s) (d fs)
    | none => .fail (.tagUnknown (showTag tag) (known.map (·.1)))

end Dialogue.Schema
