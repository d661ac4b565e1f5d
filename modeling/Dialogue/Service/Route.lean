import Dialogue.Service.Request

/-! Where requests go: the path names a resource, and the method what to do with it. -/

namespace Dialogue.Service

inductive Endpoint where
  | health
  | template
  | validate
  | compile
  | layout
  | generate
  | openCall (id : String)
  | getCall (id : String)
  | closeCall (id : String)
  | postEvent (id : String)
deriving DecidableEq

def endpointsAt : List String → List (String × Endpoint)
  | ["", "health"] => [("GET", .health)]
  | ["", "api", "flows", "template"] => [("GET", .template)]
  | ["", "api", "flows", "validate"] => [("POST", .validate)]
  | ["", "api", "flows", "compile"] => [("POST", .compile)]
  | ["", "api", "flows", "layout"] => [("POST", .layout)]
  | ["", "api", "flows", "generate"] => [("POST", .generate)]
  | ["", "api", "calls", id] =>
    if id.isEmpty then [] else [("POST", .openCall id), ("GET", .getCall id), ("DELETE", .closeCall id)]
  | ["", "api", "calls", id, "events"] => if id.isEmpty then [] else [("POST", .postEvent id)]
  | _ => []

def segments (path : List Char) : List String := (Text.pieces (· = '/') path).map String.ofList

inductive Target where
  | found (e : Endpoint)
  | notAllowed
  | elsewhere
  | unknown
deriving DecidableEq

def withoutSlashes (path : List Char) : List Char := (path.reverse.dropWhile (· = '/')).reverse

def target (method path : String) : Target :=
  match endpointsAt (segments path.toList) with
  | [] =>
    if path.toList.getLast? = some '/' && !(endpointsAt (segments (withoutSlashes path.toList))).isEmpty
    then .elsewhere
    else .unknown
  | known =>
    match known.lookup (String.ofList (method.toList.map Char.toUpper)) with
    | some e => .found e
    | none => .notAllowed

end Dialogue.Service
