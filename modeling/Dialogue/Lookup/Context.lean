import Dialogue.Flow.Basic
import Dialogue.Json.Plain
import Dialogue.Json.Writer
import Dialogue.Limits
import Dialogue.Lookup.Path

/-!
The context block that tells the agent what a lookup found: one line for each enabled mapping. A list
or an object is shown as JSON, which may be too deep for it.
-/

namespace Dialogue.Lookup

variable [Limits]

def display : Json → String
  | .null => "N/A"
  | .bool b => if b then "true" else "false"
  | .list items => (Json.list items).write Json.compact
  | .object fs => (Json.object fs).write Json.compact
  | v => v.plain

def shown (v : Json) : Except PathError String :=
  if v.nesting ≤ Limits.write then .ok (display v) else .error (.tooDeep .writing)

def contextLine (data : Json) (m : Mapping) : Except PathError String := do
  return "- " ++ m.label ++ ": " ++ (← shown (← valueAt data m.path))

def context (l : Lookup) (data : Json) : Except PathError String :=
  match l.mappings.filter (·.enabled) with
  | [] => .ok ""
  | ms => do
    let lines ← ms.mapM (contextLine data)
    return "[CONTEXT UPDATE] Customer information retrieved:\n" ++ "\n".intercalate lines

end Dialogue.Lookup
