import Dialogue.Text.CaseTable

/-!
Lower and upper form of a text. A character maps to one or more characters on its own; only the
capital sigma looks around it, since a word that ends in it ends in a form of its own.
-/

namespace Dialogue.Text

def CaseRun.covers (r : CaseRun) (n : Nat) : Bool :=
  r.first ≤ n && n ≤ r.last && (n - r.first) % r.step == 0

def mapped (runs : List CaseRun) (longer : List (Nat × List Nat)) (c : Char) : List Char :=
  match runs.find? (·.covers c.toNat) with
  | some r => [Char.ofNat (c.toNat + r.offset).toNat]
  | none =>
    match longer.lookup c.toNat with
    | some form => form.map Char.ofNat
    | none => [c]

def lowerForm (c : Char) : List Char := mapped lowerRuns lowerLonger c

def upperForm (c : Char) : List Char := mapped upperRuns upperLonger c

def inRanges (ranges : List (Nat × Nat)) (c : Char) : Bool :=
  ranges.any fun r => r.1 ≤ c.toNat && c.toNat ≤ r.2

def isCased (c : Char) : Bool := inRanges casedRanges c

def isPassed (c : Char) : Bool := inRanges passedRanges c

def wordGoesOn (rest : List Char) : Bool :=
  (rest.dropWhile isPassed).head?.any isCased

def lowerFrom (inWord : Bool) : List Char → List Char
  | [] => []
  | 'Σ' :: rest =>
    (if inWord && !wordGoesOn rest then 'ς' else 'σ') :: lowerFrom true rest
  | c :: rest => lowerForm c ++ lowerFrom (if isPassed c then inWord else isCased c) rest

def lower (cs : List Char) : List Char := lowerFrom false cs

def upper (cs : List Char) : List Char := cs.flatMap upperForm

end Dialogue.Text
