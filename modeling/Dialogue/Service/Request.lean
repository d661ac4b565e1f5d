import Dialogue.Json.Reader
import Dialogue.Schema.Record
import Dialogue.Text.Search

/-!
Requests to the service and its responses. A body is JSON unless its type says otherwise; what it
lacks and what is wrong with it is reported from `body` on, and the same for the query.
-/

namespace Dialogue.Service

open Schema

structure Request where
  method : String
  path : String
  query : List (String × String)
  headers : List (String × String)
  body : String

inductive Content where
  | json (v : Json)
  | text (s : String)

structure Response where
  status : Nat
  content : Content

namespace Response

def ok (v : Json) : Response := ⟨200, .json v.finite⟩

def problem (status : Nat) (detail : Json) : Response := ⟨status, .json (.object [("detail", detail)])⟩

end Response

namespace Request

def lowered (s : String) : String := String.ofList (s.toList.map Decimal.asciiLower)

def header? (r : Request) (name : String) : Option String :=
  (r.headers.find? fun (key, _) => lowered key = name).map (·.2)

def id? (r : Request) : Option String := r.header? "x-request-id"

def isJsonType (s : String) : Bool :=
  let type := Text.strip (s.toList.takeWhile (· ≠ ';'))
  match Text.pieces (· = '/') (type.map Decimal.asciiLower) with
  | [main, sub] =>
    main = "application".toList && (sub = "json".toList || "+json".toList.isSuffixOf sub)
  | _ => false

def bodyText (r : Request) : String := match r.body.toList with
  | '\uFEFF' :: rest => String.ofList rest
  | _ => r.body

def value? [Limits] (r : Request) : Except Json.ReadError (Option Json) :=
  if r.body.isEmpty then .ok none
  else if !(r.header? "content-type").all isJsonType then .ok (some (.text r.body))
  else match Json.read r.bodyText with
    | .ok .null => .ok none
    | .ok v => .ok (some v)
    | .error e => .error e

def queryFields (r : Request) : Fields := r.query.reverse.map fun (k, s) => (k, .text s)

def param {α : Type} (r : Request) (key : String) (default : α) (d : Decoder α) : Checked α :=
  (optional (.plain key) default d r.queryFields).under (.name "query")

def decoded {α : Type} (d : Decoder α) (v : Option Json) : Checked α :=
  let checked := match v with
    | some v => d v
    | none => .fail .missing
  (checked.seenAs fun
    | .notRecord _ => .noAttributes
    | c => c).under (.name "body")

end Request

end Dialogue.Service
