/-!
Blank characters, trimming, words and lines. A text is a list of characters here; nothing is lost by
`pieces`, and `strip` leaves no blank at either end. A line ends at a line feed, a carriage return,
both together, or one of the other vertical separators; an end at the very end of the text opens no
further line.
-/

namespace Dialogue.Text

def isBlank (c : Char) : Bool :=
  let n := c.toNat
  (9 ≤ n && n ≤ 13) || (28 ≤ n && n ≤ 32) || n == 0x85 || n == 0xA0 || n == 0x1680 ||
    (0x2000 ≤ n && n ≤ 0x200A) || n == 0x2028 || n == 0x2029 || n == 0x202F || n == 0x205F ||
    n == 0x3000

def stripLeft (cs : List Char) : List Char := cs.dropWhile isBlank

def stripRight (cs : List Char) : List Char := (cs.reverse.dropWhile isBlank).reverse

def strip (cs : List Char) : List Char := stripRight (stripLeft cs)

def pieces (p : Char → Bool) : List Char → List (List Char)
  | [] => [[]]
  | c :: rest =>
    if p c then [] :: pieces p rest
    else match pieces p rest with
      | [] => [[c]]
      | w :: ws => (c :: w) :: ws

def words (cs : List Char) : List (List Char) :=
  (pieces isBlank cs).filter (! ·.isEmpty)

def isLineEnd (c : Char) : Bool :=
  let n := c.toNat
  (10 ≤ n && n ≤ 13) || (28 ≤ n && n ≤ 30) || n == 0x85 || n == 0x2028 || n == 0x2029

def consLine (c : Char) : List (List Char) → List (List Char)
  | [] => [[c]]
  | line :: more => (c :: line) :: more

def lines : List Char → List (List Char)
  | [] => []
  | '\r' :: '\n' :: rest => [] :: lines rest
  | c :: rest => if isLineEnd c then [] :: lines rest else consLine c (lines rest)

def unifyLineEnds : List Char → List Char
  | [] => []
  | '\r' :: '\n' :: rest => '\n' :: unifyLineEnds rest
  | '\r' :: rest => '\n' :: unifyLineEnds rest
  | c :: rest => c :: unifyLineEnds rest

def within (f : List Char → List Char) (s : String) : String := String.ofList (f s.toList)

def isBlankText (s : String) : Bool := s.toList.all isBlank

theorem pieces_ne_nil (p : Char → Bool) (cs : List Char) : pieces p cs ≠ [] := by
  cases cs with
  | nil => simp [pieces]
  | cons c rest =>
    simp only [pieces]
    split
    · simp
    · split <;> simp

theorem pieces_of_none {p : Char → Bool} {w : List Char} (clear : ∀ c ∈ w, p c = false) :
    pieces p w = [w] := by
  induction w with
  | nil => rfl
  | cons c rest ih =>
    have here : p c = false := clear c (by simp)
    simp [pieces, here, ih fun d hd => clear d (by simp [hd])]

theorem pieces_append {p : Char → Bool} {c : Char} (h : p c = true) (a b : List Char) :
    pieces p (a ++ c :: b) = pieces p a ++ pieces p b := by
  induction a with
  | nil => simp [pieces, h]
  | cons x a ih =>
    simp only [List.cons_append, pieces, ih]
    split
    · rfl
    · obtain ⟨w, ws, hw⟩ := List.exists_cons_of_ne_nil (pieces_ne_nil p a)
      rw [hw]
      rfl

theorem stripRight_append_blank (cs : List Char) (c : Char) (h : isBlank c = true) :
    stripRight (cs ++ [c]) = stripRight cs := by
  simp [stripRight, h]

theorem stripRight_append_mark (cs : List Char) (c : Char) (h : isBlank c = false) :
    stripRight (cs ++ [c]) = cs ++ [c] := by
  simp [stripRight, h]

end Dialogue.Text
