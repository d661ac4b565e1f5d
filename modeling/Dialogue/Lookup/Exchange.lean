import Dialogue.Lookup.Context
import Dialogue.Text.Percent
import Dialogue.Text.Search

/-!
Lookups over HTTP, directly or through a relay. A relay is told the target and answers with the
status, the data and the error of the request it made. Every problem of the transport ends up in the
result, unless it is too deep to be told. Numbers of callers are texts of Unicode characters, so that
each has a UTF-8 form to be encoded; a number with half of a surrogate pair, which has none, is not
among them. Values are such as were read: no whole number in them has more digits than are converted.
-/

namespace Dialogue.Lookup

variable [Limits]

structure Request where
  method : String
  url : String
  headers : Option Fields
  body : Option Json
  timeout : Json

structure Response where
  status : Int
  reason : String
  value : Except String Json

inductive Delivery where
  | answered (r : Response)
  | broken (message : String)

abbrev Transport := Request → Delivery

structure Result where
  success : Bool
  context : String
  error : Option String
  data : Json

def Result.failed (error : String) : Result := ⟨false, "", some error, .null⟩

def Result.hasContext (r : Result) : Bool := r.success && !r.context.isEmpty

structure Route where
  relay : Option String
  token : Option String
  timeout : Json

def slot : List Char := ['\x7b', 'p', 'h', 'o', 'n', 'e', '\x7d']

def targetUrl (endpoint : String) (phone : Option String) : String :=
  match phone with
  | none => endpoint
  | some p =>
    if p.isEmpty then endpoint
    else Text.within (Text.replace slot (Text.Percent.encode p.toList)) endpoint

def headerFields (l : Lookup) : Fields :=
  l.headers.foldl (fun fs h =>
    if h.key.isEmpty || h.value.isEmpty then fs else Fields.set h.key (.text h.value) fs) []

def nonEmpty? (s : Option String) : Option String := s.filter (! ·.isEmpty)

def request (route : Route) (l : Lookup) (phone : Option String) : Request :=
  let url := targetUrl l.endpoint phone
  match nonEmpty? route.relay with
  | none => ⟨"GET", url, some (headerFields l), none, route.timeout⟩
  | some relay =>
    let authorization : Fields := match nonEmpty? route.token with
      | some t => [("Authorization", .text ("Bearer " ++ t))]
      | none => []
    ⟨"POST", relay, some (("Content-Type", .text "application/json") :: authorization),
      some (.object [("url", .text url), ("method", .text "GET"),
        ("headers", .object (headerFields l))]), route.timeout⟩

def isRefused (status : Int) : Bool := 400 ≤ status && status < 600

def statusError (r : Response) (url : String) : Option String :=
  let text (word : String) := toString r.status ++ word ++ r.reason ++ " for url: " ++ url
  if 400 ≤ r.status && r.status < 500 then some (text " Client Error: ")
  else if 500 ≤ r.status && r.status < 600 then some (text " Server Error: ")
  else none

abbrev Reason := Json

def directData (url : String) (r : Response) : Except Reason Json :=
  match statusError r url, r.value with
  | some e, _ => .error (.text e)
  | none, .error e => .error (.text e)
  | none, .ok v => .ok v

/-- A relayed status that counts as a failure, with no upper bound; truth values count as zero and
one. -/
def relayRefused : Json → Bool
  | .whole n => 400 ≤ n
  | _ => false

def statusReason (fs : Fields) (status : Json) : String :=
  let wording := (fs.get? "statusText").getD (.text "")
  if status.height ≤ Limits.tell && wording.height ≤ Limits.tell then
    Text.within Text.strip ("HTTP " ++ status.plain ++ ": " ++ wording.plain)
  else Json.Pass.telling.tooDeep

def relayReason (fs : Fields) (status : Json) : Reason :=
  ((fs.get? "error").filter Json.counts).getD (.text (statusReason fs status))

def relayData (r : Response) : Except Reason Json :=
  match r.value with
  | .error e => .error (.text e)
  | .ok (.object fs) =>
    let status := (Fields.get? fs "status").getD (.whole r.status)
    if isRefused r.status || relayRefused status then .error (relayReason fs status)
    else .ok ((Fields.get? fs "data").getD .null)
  | .ok _ => .error (.text ("Proxy error: HTTP " ++ toString r.status))

def delivered (route : Route) (url : String) : Delivery → Except Reason Json
  | .broken message => .error (.text message)
  | .answered r => if (nonEmpty? route.relay).isSome then relayData r else directData url r

def failure (e : Reason) : Except PathError Result :=
  if e.height ≤ Limits.tell then
    .ok (.failed (if e.plain.isEmpty then "API request failed" else e.plain))
  else .error (.tooDeep .telling)

def execute (route : Route) (transport : Transport) (l : Lookup) (phone : Option String) :
    List Request × Except PathError Result :=
  if l.endpoint.isEmpty then ([], .ok (.failed "No API endpoint configured"))
  else
    let req := request route l phone
    ([req], match delivered route req.url (transport req) with
      | .error e => failure e
      | .ok data => (context l data).map fun c => ⟨true, c, none, data⟩)

def settled : Except PathError Result → Result
  | .ok r => r
  | .error e => .failed e.message

def injection (timeout : Json) (handle context : String) : Request :=
  ⟨"POST", handle, none, some (.object [("type", .text "add-message"),
    ("message", .object [("role", .text "system"), ("content", .text context)])]), timeout⟩

def injected : Delivery → Bool
  | .broken _ => false
  | .answered r => !isRefused r.status

end Dialogue.Lookup
