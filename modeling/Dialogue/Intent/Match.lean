import Dialogue.Text.Blank
import Dialogue.Text.Case
import Dialogue.Text.Search

/-!
Matching what a caller said with one of several options. Three rules are tried in turn, each over
the options in their order; what matches is always one of the options, unchanged.
-/

namespace Dialogue.Intent

open Text

def tokens (cs : List Char) : List (List Char) := (words cs).filter fun w => 3 ≤ w.length

def overlap (a b : List Char) : Bool := occursIn a b || occursIn b a

def wanted (s : String) : List Char := strip (lower s.toList)

def equals (query : List Char) (option : String) : Bool := lower option.toList == query

def contains (query : List Char) (option : String) : Bool :=
  !option.isEmpty && overlap (lower option.toList) query

def sharesWord (query : List Char) (option : String) : Bool :=
  (tokens query).any fun a => (tokens (lower option.toList)).any fun b => overlap a b

def rules : List (List Char → String → Bool) := [equals, contains, sharesWord]

def bestMatch (candidate : String) (options : List String) : Option String :=
  let query := wanted candidate
  if query.isEmpty then none else rules.findSome? fun rule => options.find? (rule query)

theorem bestMatch_mem {candidate : String} {options : List String} {o : String}
    (h : bestMatch candidate options = some o) : o ∈ options := by
  simp only [bestMatch] at h
  split at h
  · simp at h
  · obtain ⟨rule, _, hr⟩ := List.exists_of_findSome?_eq_some h
    exact List.mem_of_find?_eq_some hr

end Dialogue.Intent
