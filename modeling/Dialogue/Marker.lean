import Dialogue.Text.Blank
import Dialogue.Text.Search

/-!
Step markers: the agent speaks `[[NODE:id]]` before each step. A marked id runs up to the next
closing bracket; agents sometimes drop the brackets, and then the id has letters, digits, `_` and
`-` only.
-/

namespace Dialogue.Marker

open Text

def word : List Char := ['N', 'O', 'D', 'E', ':']

def opening : List Char := '[' :: '[' :: word

def format (id : List Char) : List Char := opening ++ id ++ [']', ']']

def bracketed? (cs : List Char) : Option (List Char × List Char) := do
  let rest ← afterLead? opening cs
  let id := rest.takeWhile (· != ']')
  if id.isEmpty then none
  else match rest.dropWhile (· != ']') with
    | ']' :: ']' :: after => some (id, after)
    | _ => none

def isBareChar (c : Char) : Bool :=
  ('A' ≤ c && c ≤ 'Z') || ('a' ≤ c && c ≤ 'z') || ('0' ≤ c && c ≤ '9') || c = '_' || c = '-'

def bare? (cs : List Char) : Option (List Char × List Char) := do
  let rest ← afterLead? word cs
  if (rest.takeWhile isBareChar).isEmpty then none
  else some (rest.takeWhile isBareChar, rest.dropWhile isBareChar)

def first? (at? : List Char → Option (List Char × List Char)) : List Char → Option (List Char)
  | [] => none
  | c :: rest => match at? (c :: rest) with
    | some (id, _) => some id
    | none => first? at? rest

def parse (cs : List Char) : Option (List Char) :=
  match first? bracketed? cs with
  | some id => some (strip id)
  | none => first? bare? cs

def eraseFrom (at? : List Char → Option (List Char × List Char)) : Nat → List Char → List Char
  | _, [] => []
  | skip + 1, _ :: rest => eraseFrom at? skip rest
  | 0, c :: rest =>
    match at? (c :: rest) with
    | some (_, after) => eraseFrom at? (rest.length - (stripLeft after).length) rest
    | none => c :: eraseFrom at? 0 rest

def erase (cs : List Char) : List Char :=
  strip (eraseFrom bare? 0 (eraseFrom bracketed? 0 cs))

def formatText (id : String) : String := within format id

def parseText (s : String) : Option String := (parse s.toList).map String.ofList

def eraseText (s : String) : String := within erase s

end Dialogue.Marker
