import Dialogue.Draft.Reply
import Dialogue.Intent.Reply
import Dialogue.Proofs.Json.Grammar

/-! A reply means the same with a code fence around it. What stands between the fences comes out as it
is, with any fences of its own; and a JSON document has none at its ends, so that nothing is taken
from one that comes bare. -/

namespace Dialogue

namespace Text

variable {t raw : List Char}

inductive Enclosed (t : List Char) : List Char → Prop
  | intro {before language after : List Char} (hb : Margin before)
      (hl : language = [] ∨ language = ['j', 's', 'o', 'n']) (ha : Margin after) :
      Enclosed t (before ++ (fence ++ language ++ '\n' :: t ++ '\n' :: fence) ++ after)

lemma Enclosed.fenced (h : Enclosed t raw) : Fenced (strip t) raw := by
  obtain ⟨hb, hl, ha⟩ := h
  obtain ⟨left, right, split, blank, blank'⟩ := exists_margins t
  generalize strip t = core at split ⊢
  subst split
  have gap : Margin ('\n' :: left) := List.forall_mem_cons.mpr ⟨by decide, blank⟩
  have close : Margin (right ++ ['\n']) := List.forall_mem_append.mpr ⟨blank', margin_lineFeed⟩
  simpa using Fenced.fence (t := core) hb hl gap nofun close ha

lemma stripFences_of_enclosed (trimmed : strip t = t) (h : Enclosed t raw) :
    stripFences raw = t := by
  obtain ⟨hb, hl, ha⟩ := h
  by_cases filled : t = []
  · subst filled
    rw [stripFences, strip_margins hb ha]
    rcases hl with rfl | rfl
    · rfl
    · rfl
  · have apart : ['\n'] = [] → t.head? ≠ some 'j' := fun none => absurd none (List.cons_ne_nil _ _)
    simpa using stripFences_fence trimmed filled hb hl margin_lineFeed apart margin_lineFeed ha

lemma stripFences_of_edged (edged : Edged (strip t)) : stripFences t = strip t := by
  obtain ⟨before, after, split, hb, ha⟩ := exists_margins t
  have bare : Fenced (strip t) (before ++ strip t ++ after) := .bare hb ha
  rw [← split] at bare
  exact stripFences_of_fenced edged bare

end Text

open Text

section

variable [Limits] {t raw : String}

-- By name only: to prove the equation of either reader, its text would be read.
lemma Intent.readReply_congr (same : within stripFences raw = within stripFences t) :
    readReply raw = readReply t := by
  delta readReply
  rw [same]

lemma Draft.ofReply_congr (same : within stripFences raw = within stripFences t) :
    ofReply raw = ofReply t := by
  delta ofReply
  rw [same]

/-- A trimmed text comes out of a code fence as it is; a JSON document comes out trimmed, with or
without a fence around it, and so is read alike by either reader of replies. -/
theorem fence_is_transparent :
    (∀ t raw : String, within strip t = t → Enclosed t.toList raw.toList →
      within stripFences raw = t) ∧
    ∀ t : String, Json.IsDocument t.toList →
      within stripFences t = within strip t ∧
      ∀ raw : String, Enclosed t.toList raw.toList →
        Intent.readReply raw = Intent.readReply t ∧ Draft.ofReply raw = Draft.ofReply t := by
  constructor
  · intro t raw trimmed enclosed
    have same : strip t.toList = t.toList := by
      simpa [within] using congrArg String.toList trimmed
    rw [within, stripFences_of_enclosed same enclosed, String.ofList_toList]
  · intro t document
    have bare : within stripFences t = within strip t :=
      congrArg String.ofList (stripFences_of_edged document.edged)
    refine ⟨bare, fun raw enclosed => ?_⟩
    have fenced : within stripFences raw = within strip t :=
      congrArg String.ofList (stripFences_of_fenced document.edged enclosed.fenced)
    have same := fenced.trans bare.symm
    exact ⟨Intent.readReply_congr same, Draft.ofReply_congr same⟩

end

def quoting : String := "\x7b\"intent\": \"\x60\x60\x60json\\n\x60\x60\x60\"\x7d"

theorem quoted_fence_is_kept : letI := Limits.usual
    ∃ raw, raw = "\t\x60\x60\x60json\n" ++ quoting ++ "\n\x60\x60\x60\r\n" ∧
      within stripFences raw = quoting ∧ within stripFences quoting = quoting ∧
      Intent.readReply raw = Intent.readReply quoting ∧
      Draft.ofReply raw = Draft.ofReply quoting := by
  let _ := Limits.usual
  have tab : Margin ['\t'] := by simp [Margin, isBlank]
  have lineEnd : Margin ['\r', '\n'] := by simp [Margin, isBlank]
  have trimmed : within strip quoting = quoting := by decide +kernel
  have document : Json.IsDocument quoting.toList := by
    have readable : (Json.read quoting).isOk = true := by decide +kernel
    cases reads : Json.read quoting with
    | error => simp [reads, Except.isOk, Except.toBool] at readable
    | ok v => exact Json.isDocument_of_read reads
  have enclosed : Enclosed quoting.toList
      ("\t\x60\x60\x60json\n" ++ quoting ++ "\n\x60\x60\x60\r\n").toList := by
    simpa [fence] using Enclosed.intro (t := quoting.toList) tab (.inr rfl) lineEnd
  obtain ⟨bare, alike⟩ := fence_is_transparent.2 quoting document
  obtain ⟨claims, drafts⟩ := alike _ enclosed
  exact ⟨_, rfl, fence_is_transparent.1 quoting _ trimmed enclosed, bare.trans trimmed, claims,
    drafts⟩

end Dialogue
