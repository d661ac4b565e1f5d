import Dialogue.Decimal.Read
import Dialogue.Limits

/-!
Reading JSON text. Each step returns the value and the characters that follow it; an error names
the number of characters that were left where it arose. A text consists of Unicode characters, none
of which is a surrogate: an escape for half of a pair is read as the replacement character, whichever
half it names, so texts that differ in such escapes alone are not told apart.
-/

namespace Dialogue.Json.Reader

open Dialogue.Text

inductive Fault where
  | malformed (left : Nat)
  | tooManyDigits (count : Nat)
  | tooDeep (isObject : Bool)

abbrev Result := Except Fault

def malformedAt {α : Type} (cs : List Char) : Result α := .error (.malformed cs.length)

def isSpace (c : Char) : Bool := c = ' ' || c = '\t' || c = '\n' || c = '\r'

def skip (cs : List Char) : List Char := cs.dropWhile isSpace

def unit? (a b c d : Char) : Option Nat := do
  return 4096 * (← hexValue a) + 256 * (← hexValue b) + 16 * (← hexValue c) + (← hexValue d)

def isHighUnit (n : Nat) : Bool := 0xD800 ≤ n && n < 0xDC00

def isLowUnit (n : Nat) : Bool := 0xDC00 ≤ n && n < 0xE000

def ofUnit (n : Nat) : Char := if isHighUnit n || isLowUnit n then '\uFFFD' else Char.ofNat n

def ofPair (high low : Nat) : Char := Char.ofNat (0x10000 + (high - 0xD800) * 1024 + (low - 0xDC00))

def simpleEscape (c : Char) : Option Char :=
  match c with
  | '"' => some '"'
  | '\\' => some '\\'
  | '/' => some '/'
  | 'b' => some '\x08'
  | 'f' => some '\x0c'
  | 'n' => some '\n'
  | 'r' => some '\r'
  | 't' => some '\t'
  | _ => none

def stringBody (start done : List Char) : List Char → Result (List Char × List Char)
  | [] => malformedAt start
  | '"' :: rest => .ok (done.reverse, rest)
  | ['\\'] => malformedAt start
  | '\\' :: 'u' :: a :: b :: c :: d :: '\\' :: 'u' :: a' :: b' :: c' :: d' :: e :: rest =>
    match unit? a b c d with
    | none => malformedAt ('u' :: a :: b :: c :: d :: '\\' :: 'u' :: a' :: b' :: c' :: d' :: e :: rest)
    | some n =>
      if isHighUnit n then
        match unit? a' b' c' d' with
        | none => malformedAt ('u' :: a' :: b' :: c' :: d' :: e :: rest)
        | some m =>
          if isLowUnit m then stringBody start (ofPair n m :: done) (e :: rest)
          else
            stringBody start (ofUnit n :: done) ('\\' :: 'u' :: a' :: b' :: c' :: d' :: e :: rest)
      else stringBody start (ofUnit n :: done) ('\\' :: 'u' :: a' :: b' :: c' :: d' :: e :: rest)
  | '\\' :: 'u' :: a :: b :: c :: d :: e :: rest =>
    match unit? a b c d with
    | none => malformedAt ('u' :: a :: b :: c :: d :: e :: rest)
    | some n => stringBody start (ofUnit n :: done) (e :: rest)
  | '\\' :: 'u' :: rest => malformedAt ('u' :: rest)
  | '\\' :: c :: rest =>
    match simpleEscape c with
    | some e => stringBody start (e :: done) rest
    | none => malformedAt ('\\' :: c :: rest)
  | c :: rest =>
    if c.toNat < 32 then malformedAt (c :: rest) else stringBody start (c :: done) rest

def wholePart : List Char → Option (List Char × List Char)
  | '0' :: rest => some (['0'], rest)
  | cs =>
    if (cs.takeWhile Decimal.isAsciiDigit).isEmpty then none
    else some (cs.takeWhile Decimal.isAsciiDigit, cs.dropWhile Decimal.isAsciiDigit)

def places : List Char → List Char × List Char
  | '.' :: c :: rest =>
    if Decimal.isAsciiDigit c then
      ((c :: rest).takeWhile Decimal.isAsciiDigit, (c :: rest).dropWhile Decimal.isAsciiDigit)
    else ([], '.' :: c :: rest)
  | cs => ([], cs)

def exponent (cs : List Char) : Option Int × List Char :=
  match cs with
  | c :: rest =>
    if c = 'e' || c = 'E' then
      let (negative, tail) := Decimal.takeSign rest
      let digits := tail.takeWhile Decimal.isAsciiDigit
      if digits.isEmpty then (none, cs)
      else
        let n := Int.ofNat (digitsValue digits)
        (some (if negative then -n else n), tail.dropWhile Decimal.isAsciiDigit)
    else (none, cs)
  | [] => (none, [])

def number (cs : List Char) : Result (Json × List Char) :=
  let (negative, body) := match cs with
    | '-' :: rest => (true, rest)
    | _ => (false, cs)
  match wholePart body with
  | none => malformedAt cs
  | some (digits, rest) =>
    match places rest, exponent (places rest).2 with
    | ([], _), (none, rest) =>
      if digitLimit < digits.length then .error (.tooManyDigits digits.length)
      else
        let n := Int.ofNat (digitsValue digits)
        .ok (.whole (if negative then -n else n), rest)
    | (places, _), (e, rest) =>
      let x := Decimal.nearest (digitsValue (digits ++ places)) (e.getD 0 - places.length)
      .ok (.real (Decimal.signed negative x), rest)

def infinity : Float := 1.0 / 0.0

def scalar : List Char → Result (Json × List Char)
  | 'n' :: 'u' :: 'l' :: 'l' :: rest => .ok (.null, rest)
  | 't' :: 'r' :: 'u' :: 'e' :: rest => .ok (.bool true, rest)
  | 'f' :: 'a' :: 'l' :: 's' :: 'e' :: rest => .ok (.bool false, rest)
  | 'N' :: 'a' :: 'N' :: rest => .ok (.real (0.0 / 0.0), rest)
  | 'I' :: 'n' :: 'f' :: 'i' :: 'n' :: 'i' :: 't' :: 'y' :: rest => .ok (.real infinity, rest)
  | '-' :: 'I' :: 'n' :: 'f' :: 'i' :: 'n' :: 'i' :: 't' :: 'y' :: rest =>
    .ok (.real (-infinity), rest)
  | cs => number cs

mutual

def value (depth : Nat) : Nat → List Char → Result (Json × List Char)
  | 0, cs => malformedAt cs
  | fuel + 1, cs =>
    match cs with
    | '"' :: rest => do
      let (s, rest) ← stringBody cs [] rest
      return (.text (String.ofList s), rest)
    | '[' :: rest =>
      if depth = 0 then .error (.tooDeep false)
      else match skip rest with
        | ']' :: rest => .ok (.list [], rest)
        | cs => do
          let (vs, rest) ← items (depth - 1) fuel cs
          return (.list vs, rest)
    | '\x7b' :: rest =>
      if depth = 0 then .error (.tooDeep true)
      else match skip rest with
        | '\x7d' :: rest => .ok (.object [], rest)
        | cs => do
          let (fs, rest) ← members (depth - 1) fuel [] cs
          return (.object fs, rest)
    | cs => scalar cs

def items (depth : Nat) : Nat → List Char → Result (List Json × List Char)
  | 0, cs => malformedAt cs
  | fuel + 1, cs => do
    let (v, rest) ← value depth fuel cs
    match skip rest with
    | ']' :: rest => return ([v], rest)
    | ',' :: rest =>
      let (vs, rest) ← items depth fuel (skip rest)
      return (v :: vs, rest)
    | cs => malformedAt cs

def members (depth : Nat) : Nat → Fields → List Char → Result (Fields × List Char)
  | 0, _, cs => malformedAt cs
  | fuel + 1, fs, cs =>
    match cs with
    | '"' :: rest => do
      let (key, rest) ← stringBody cs [] rest
      match skip rest with
      | ':' :: rest =>
        let (v, rest) ← value depth fuel (skip rest)
        let fs := Fields.set (String.ofList key) v fs
        match skip rest with
        | '\x7d' :: rest => return (fs, rest)
        | ',' :: rest => members depth fuel fs (skip rest)
        | cs => malformedAt cs
      | cs => malformedAt cs
    | cs => malformedAt cs

end

def document [Limits] (cs : List Char) : Result Json := do
  let (v, rest) ← value Limits.read (2 * cs.length + 2) (skip cs)
  match skip rest with
  | [] => return v
  | rest => malformedAt rest

end Dialogue.Json.Reader

namespace Dialogue.Json

inductive ReadError where
  | malformed (position : Nat)
  | tooManyDigits (count : Nat)
  | tooDeep (pass : Pass)

def ReadError.message : ReadError → String
  | malformed _ => "malformed JSON"
  | tooManyDigits count => Text.tooManyDigits count
  | tooDeep pass => pass.tooDeep

def read [Limits] (s : String) : Except ReadError Json :=
  match Reader.document s.toList with
  | .ok v => .ok v
  | .error (.malformed left) => .error (.malformed (s.length - left))
  | .error (.tooManyDigits count) => .error (.tooManyDigits count)
  | .error (.tooDeep isObject) => .error (.tooDeep (.reading isObject))

end Dialogue.Json
