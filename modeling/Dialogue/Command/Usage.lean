import Dialogue.Command.Argument
import Dialogue.Layout.Placement

/-! The commands of the program and how each is written. -/

namespace Dialogue

inductive LayoutMode where
  | byLevel
  | byLayer (direction : Layout.Direction)
deriving DecidableEq

inductive Command where
  | validate (flow : String)
  | compile (flow : String) (unchecked : Bool) (output : Option String)
  | layout (flow : String) (mode : LayoutMode) (animate : Bool) (output : Option String)
  | replay (flow events : String) (realtime : Bool)
  | generate (description : String) (output : Option String)
  | template (fresh : Bool) (output : Option String)

structure Invocation where
  logLevel : Option String
  command : Command

namespace Command

def help : Opt := ⟨"help", ["-h", "--help"], false, []⟩

def output : Opt := ⟨"output", ["-o", "--output"], true, []⟩

def flag (name : String) : Opt := ⟨name, ["--" ++ name], false, []⟩

def valued (name : String) (choices : List String) : Opt := ⟨name, ["--" ++ name], true, choices⟩

def opening : Grammar := ⟨[help, valued "log-level" []], 0, true⟩

def grammars : List (String × Grammar) := [
  ("validate", ⟨[help], 1, false⟩),
  ("compile", ⟨[help, flag "unchecked", output], 1, false⟩),
  ("layout", ⟨[help, valued "mode" ["initial", "rearrange"], valued "direction" ["TB", "LR"],
    flag "animate", output], 1, false⟩),
  ("replay", ⟨[help, flag "realtime"], 2, false⟩),
  ("generate", ⟨[help, output], 1, false⟩),
  ("template", ⟨[help, flag "fresh", output], 0, false⟩)]

def modeOf (t : Taken) : LayoutMode :=
  if t.option? "mode" = some "initial" then .byLevel
  else .byLayer (((t.option? "direction").bind Layout.Direction.ofName?).getD .topToBottom)

def ofTaken? (name : String) (t : Taken) : Option Command :=
  match name, t.operands with
  | "validate", [flow] => some (.validate flow)
  | "compile", [flow] => some (.compile flow (t.has "unchecked") (t.option? "output"))
  | "layout", [flow] => some (.layout flow (modeOf t) (t.has "animate") (t.option? "output"))
  | "replay", [flow, events] => some (.replay flow events (t.has "realtime"))
  | "generate", [description] => some (.generate description (t.option? "output"))
  | "template", [] => some (.template (t.has "fresh") (t.option? "output"))
  | _, _ => none

end Command

def Invocation.read (args : List String) : Except Command.Stop Invocation := do
  let before ← Command.opening.read args
  match before.rest with
  | [] => .error .usage
  | name :: rest =>
    match Command.grammars.lookup name with
    | none => .error .usage
    | some g =>
      let t ← g.read rest
      if before.isOverfull || t.isOverfull then .error .usage
      else match Command.ofTaken? name t with
        | some c => return ⟨before.option? "log-level", c⟩
        | none => .error .usage

def Command.Stop.exitCode : Command.Stop → Nat
  | help => 0
  | usage => 2

end Dialogue
