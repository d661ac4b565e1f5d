/-!
Searching inside a text: occurrence, replacement of every occurrence, and joining with a separator.
-/

namespace Dialogue.Text

def occursIn (needle : List Char) : List Char → Bool
  | [] => needle.isEmpty
  | c :: rest => needle.isPrefixOf (c :: rest) || occursIn needle rest

def replaceFrom (old new : List Char) : Nat → List Char → List Char
  | _, [] => []
  | skip + 1, _ :: rest => replaceFrom old new skip rest
  | 0, c :: rest =>
    if old.isPrefixOf (c :: rest) then new ++ replaceFrom old new (old.length - 1) rest
    else c :: replaceFrom old new 0 rest

def replace (old new text : List Char) : List Char := replaceFrom old new 0 text

def afterLead? : List Char → List Char → Option (List Char)
  | [], text => some text
  | _ :: _, [] => none
  | a :: lead, c :: text => if a = c then afterLead? lead text else none

theorem afterLead?_eq_some {lead text rest : List Char} :
    afterLead? lead text = some rest ↔ text = lead ++ rest := by
  induction lead generalizing text with
  | nil => simp [afterLead?]
  | cons a lead ih =>
    cases text with
    | nil => simp [afterLead?]
    | cons c text =>
      simp only [afterLead?]
      split
      · next h => subst h; simp [ih]
      · next h => simp [Ne.symm h]

theorem occursIn_iff {needle text : List Char} :
    occursIn needle text = true ↔ ∃ before after, text = before ++ needle ++ after := by
  induction text with
  | nil => simp [occursIn]
  | cons c rest ih =>
    simp only [occursIn, Bool.or_eq_true, ih, List.isPrefixOf_iff_prefix]
    constructor
    · rintro (⟨after, h⟩ | ⟨before, after, h⟩)
      · exact ⟨[], after, by simp [h]⟩
      · exact ⟨c :: before, after, by simp [h]⟩
    · rintro ⟨before, after, h⟩
      cases before with
      | nil => exact Or.inl ⟨after, by simpa using h.symm⟩
      | cons b before =>
        rw [List.cons_append, List.cons_append, List.cons.injEq] at h
        exact Or.inr ⟨before, after, h.2⟩

theorem occursIn_iff_infix {needle text : List Char} :
    occursIn needle text = true ↔ needle <:+: text :=
  occursIn_iff.trans ⟨fun ⟨before, after, h⟩ => ⟨before, after, h.symm⟩,
    fun ⟨before, after, h⟩ => ⟨before, after, h.symm⟩⟩

end Dialogue.Text
