import Dialogue.Command.Run

/-!
The program on the command line. It reads what the command needs, carries the command out, and then
prints and writes what its report holds. Lookups and drafts find no network here.
-/

namespace Dialogue.Main

open Command

def environment : IO (List (String × String)) := do
  let found ← Settings.names.mapM fun name => do
    let key := (Settings.field name).key
    return (← IO.getEnv key).map (key, ·)
  return found.filterMap id

def files (paths : List String) : IO (List (String × String)) := do
  let found ← paths.mapM fun (path : String) => do
    try
      let s ← IO.FS.readFile path
      return some (path, s)
    catch _ => return none
  return found.filterMap id

def lines : Item → List String
  | .line _ text => [text]
  | .table title columns rows => title :: (columns :: rows).map ("  ".intercalate ·)
  | .panel title text => [title, text]

def complaint : Failure → String
  | .noFile => "No such file"
  | .unreadable e => e.message
  | .faulty fs => "\n".intercalate (fs.map Draft.faultText)
  | .noEvent e => e.message
  | .unknownLevel => Log.Level.unknown

def tools (settings : Settings) (texts : List (String × String)) : Tools where
  file? path := texts.lookup path
  canWrite _ := true
  settings := settings
  reach := ⟨"", none, fun _ => .broken "no network"⟩
  drafter := none

def finish (o : Outcome) : IO UInt32 := do
  for (path, text) in o.report.written do
    IO.FS.writeFile path text
  for item in o.report.shown do
    for line in lines item do
      IO.println line
  IO.print o.report.printed
  match o.exit with
  | .ok code => return UInt32.ofNat code
  | .error f =>
    IO.eprintln (complaint f)
    return 1

def carryOut (i : Invocation) : IO UInt32 := do
  match Settings.read (← environment) [] with
  | .ok settings => finish (i.run (tools settings (← files i.command.inputs)))
  | .bad fs => finish (failed {} (.faulty fs))

end Dialogue.Main

def main (args : List String) : IO UInt32 :=
  match Dialogue.Invocation.read args with
  | .ok i => Dialogue.Main.carryOut i
  | .error stop => return UInt32.ofNat stop.exitCode
