import Dialogue.Text.Digit
import Dialogue.Text.Search

/-!
The arguments of a command line: options, which start with a dash, and words. A long option may be
shortened as long as only one fits; its value follows an equals sign or is the next word. After the
mark `--` everything is a word.
-/

namespace Dialogue.Command

structure Opt where
  name : String
  spellings : List String
  takesValue : Bool
  choices : List String := []

inductive Stop where
  | help
  | usage
deriving DecidableEq

inductive Reading where
  | word (s : String)
  | mark
  | known (raw : String) (o : Opt) (isTail : Bool) (attached : Option String)
  | unknown (raw : String)

namespace Reading

def raw : Reading → String
  | word s => s
  | mark => "--"
  | known raw _ _ _ => raw
  | unknown raw => raw

end Reading

def spelled? (opts : List Opt) (cs : List Char) : Option Opt :=
  opts.find? (·.spellings.contains (String.ofList cs))

def splitValue (cs : List Char) : List Char × Option String :=
  match cs.dropWhile (· ≠ '=') with
  | _ :: value => (cs.takeWhile (· ≠ '='), some (String.ofList value))
  | [] => (cs, none)

def meanings (opts : List Opt) (raw : String) : List Reading :=
  match raw.toList with
  | '-' :: '-' :: rest =>
    let (stem, value) := splitValue ('-' :: '-' :: rest)
    opts.flatMap fun o =>
      (o.spellings.filter (stem.isPrefixOf ·.toList)).map fun _ => .known raw o false value
  | '-' :: c :: rest =>
    ((spelled? opts ['-', c]).map fun o => .known raw o true (some (String.ofList rest))).toList
  | _ => []

def isDigit (c : Char) : Bool := (Text.decimalValue c).isSome

def isNegative (cs : List Char) : Bool :=
  match cs with
  | '-' :: body =>
    match body.dropWhile isDigit with
    | [] => !body.isEmpty
    | '.' :: places => !places.isEmpty && places.all isDigit
    | _ => false
  | _ => false

def reading (opts : List Opt) (raw : String) : Except Stop Reading :=
  let cs := raw.toList
  if cs.head? ≠ some '-' then .ok (.word raw)
  else match spelled? opts cs, spelled? opts (splitValue cs).1 with
    | some o, _ => .ok (.known raw o false none)
    | none, some o => .ok (.known raw o false (splitValue cs).2)
    | none, none =>
      if cs.length = 1 then .ok (.word raw)
      else match meanings opts raw with
        | [r] => .ok r
        | _ :: _ :: _ => .error .usage
        | [] => .ok (if isNegative cs || cs.contains ' ' then .word raw else .unknown raw)

def readings (opts : List Opt) : List String → Except Stop (List Reading)
  | [] => .ok []
  | "--" :: rest => .ok (.mark :: rest.map .word)
  | raw :: rest => do return (← reading opts raw) :: (← readings opts rest)

structure Taken where
  options : List (String × String) := []
  operands : List String := []
  isOverfull : Bool := false
  rest : List String := []

namespace Taken

def has (t : Taken) (name : String) : Bool := (t.options.lookup name).isSome

def option? (t : Taken) (name : String) : Option String := t.options.lookup name

def withOption (t : Taken) (o : Opt) (value : String) : Except Stop Taken :=
  if o.choices.isEmpty || o.choices.contains value then
    .ok { t with options := (o.name, value) :: t.options }
  else .error .usage

def withOperand (t : Taken) (s : String) : Taken := { t with operands := t.operands ++ [s] }

def overfull (t : Taken) : Taken := { t with isOverfull := true }

end Taken

structure Grammar where
  options : List Opt
  operands : Nat
  leavesRest : Bool := false

def startsWithWord : List Reading → Bool
  | .word _ :: _ => true
  | _ => false

def isGroup (opts : List Opt) (following : List Reading) : List Char → Bool
  | [] => true
  | c :: more =>
    c ≠ '-' && c ≠ '=' &&
      match spelled? opts ['-', c] with
      | some o =>
        if o.takesValue then !more.isEmpty || startsWithWord following
        else isGroup opts following more
      | none => true

def take (g : Grammar) : List Reading → Taken → Except Stop Taken
  | [], t => .ok t
  | .known _ o isTail attached :: following, t =>
    match o.takesValue, attached with
    | true, some value => do take g following (← t.withOption o value)
    | true, none =>
      match following with
      | .word value :: rest => do take g rest (← t.withOption o value)
      | _ => .error .usage
    | false, none =>
      if o.name = "help" then .error .help else do take g following (← t.withOption o "")
    | false, some letters =>
      .error (if isTail && isGroup g.options following letters.toList then .help else .usage)
  | .unknown _ :: rest, t => take g rest t.overfull
  | .mark :: rest, t =>
    if g.leavesRest then .error .usage
    else if t.operands.length < g.operands && startsWithWord rest then take g rest t
    else take g rest t.overfull
  | .word s :: .mark :: rest, t =>
    if g.leavesRest then .ok { t with rest := s :: "--" :: rest.map Reading.raw }
    else if t.operands.length < g.operands then take g rest (t.withOperand s)
    else take g (.mark :: rest) t.overfull
  | .word s :: rest, t =>
    if g.leavesRest then .ok { t with rest := s :: rest.map Reading.raw }
    else if t.operands.length < g.operands then take g rest (t.withOperand s)
    else take g rest t.overfull

def Grammar.read (g : Grammar) (args : List String) : Except Stop Taken := do
  take g (← readings g.options args) {}

end Dialogue.Command
