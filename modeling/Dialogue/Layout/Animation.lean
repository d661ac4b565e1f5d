import Dialogue.Layout.Placement

/-!
The way of the steps from their old positions to their new ones: fast at first, then slower. What has
no old position is at its new one at once.
-/

namespace Dialogue.Layout

def easeOut (t : Float) : Float := 1.0 - Float.pow (1.0 - Share.clamp t) 3.0

structure Animation where
  start : Positions
  target : Positions
  duration : Float := 0.5
  interval : Float := 1.0 / 60.0

namespace Animation

def between (eased : Float) (a b : Position) : Position :=
  ⟨a.x + (b.x - a.x) * eased, a.y + (b.y - a.y) * eased⟩

def frame (a : Animation) (progress : Float) : Positions :=
  a.target.map fun (id, p) => (id, between (easeOut progress) ((a.start.lookup id).getD p) p)

def framesFrom (a : Animation) (drawing : Option Float) : Nat → Micros → List Positions
  | 0, _ => []
  | count + 1, now =>
    let progress := now.seconds / a.duration
    if progress >= 1.0 then []
    else
      let drawn := match drawing with
        | some d => now.after d
        | none => now
      a.frame progress :: framesFrom a drawing count (drawn.after a.interval)

def frames (a : Animation) (drawing : Option Float) : List Positions :=
  (if a.duration > 0.0 then framesFrom a drawing (Micros.after 0 a.duration + 1) 0 else []) ++
    [a.target]

end Animation

end Dialogue.Layout
