import Dialogue.Text.Blank
import Dialogue.Text.Search

/-!
Code fences around a reply. An opening fence is three backticks at the start of the trimmed text,
an optional language word and the blanks after them; a closing fence is three backticks at its end
with at most one line feed before them.
-/

namespace Dialogue.Text

def fence : List Char := ['\x60', '\x60', '\x60']

def withoutLanguage (cs : List Char) : List Char :=
  (afterLead? ['j', 's', 'o', 'n'] cs).getD cs

def withoutOpening (cs : List Char) : List Char :=
  match afterLead? fence cs with
  | some rest => stripLeft (withoutLanguage rest)
  | none => cs

def withoutClosing (cs : List Char) : List Char :=
  match afterLead? fence cs.reverse with
  | some ('\n' :: rest) => rest.reverse
  | some rest => rest.reverse
  | none => cs

def stripFences (cs : List Char) : List Char :=
  strip (withoutClosing (withoutOpening (strip cs)))

end Dialogue.Text
