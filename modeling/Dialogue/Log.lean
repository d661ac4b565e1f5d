import Dialogue.Text.Blank
import Dialogue.Text.Case

/-!
The log: one line for each record that is severe enough, with the request and the call it belongs to.
-/

namespace Dialogue.Log

inductive Level where
  | notSet
  | debug
  | info
  | warning
  | error
  | critical
deriving DecidableEq

namespace Level

def severity : Level → Nat
  | notSet => 0
  | debug => 10
  | info => 20
  | warning => 30
  | error => 40
  | critical => 50

def name : Level → String
  | notSet => "NOTSET"
  | debug => "DEBUG"
  | info => "INFO"
  | warning => "WARNING"
  | error => "ERROR"
  | critical => "CRITICAL"

def ofName? (s : String) : Option Level :=
  [("FATAL", critical), ("WARN", warning)].lookup s |>.or
    ([notSet, debug, info, warning, error, critical].find? (·.name = s))

def unknown : String := "Unable to configure handler 'default'"

def chosen (asked environment : Option String) : Option Level :=
  let name := (asked.filter (! ·.isEmpty)).getD (environment.getD "INFO")
  ofName? (Text.within Text.upper name)

end Level

structure Record where
  logger : String
  level : Level
  message : String

structure Context where
  request : Option String
  call : Option String

def orDash (s : Option String) : String := (s.filter (! ·.isEmpty)).getD "-"

def loggerName (s : String) : String := if s.isEmpty then "root" else s

def line (c : Context) (r : Record) : String :=
  "level=" ++ r.level.name ++ " logger=" ++ loggerName r.logger ++ " request_id=" ++
    orDash c.request ++ " call_id=" ++ orDash c.call ++ " message=" ++ r.message ++ "\n"

def Record.passes (threshold : Level) (r : Record) : Bool :=
  r.level ≠ .notSet && threshold.severity ≤ r.level.severity

def output (threshold : Level) (c : Context) (records : List Record) : String :=
  String.join ((records.filter (·.passes threshold)).map (line c))

end Dialogue.Log
