import Dialogue.Flow.Basic

/-! Flows to begin with: a bare canvas, and a call that greets, listens and routes. -/

namespace Dialogue.Flow

def step (id : String) (x y : Float) (label : String) (content : Content) : Node :=
  ⟨id, ⟨x, y⟩, ⟨label, content, []⟩, []⟩

def arrow (id source target : String) (label : Option String) : Edge :=
  ⟨id, source, target, label, []⟩

def minimal : Flow where
  nodes := [
    step "start-1" 300.0 50.0 "Call Starts" .start,
    step "end-1" 300.0 300.0 "End Call" (.ending none none)]
  edges := []

def initial : Flow where
  nodes := [
    step "start-1" 400.0 50.0 "Call Starts" .start,
    step "message-1" 400.0 180.0 "Greeting"
      (.message (some "Hello! Thank you for calling. How can I help you today?")),
    step "listen-1" 400.0 310.0 "Listen for Intent"
      (.listen ["Appointment", "Information", "Support"]),
    step "branch-1" 400.0 440.0 "Route by Intent" .branch,
    step "action-1" 150.0 580.0 "Book Appointment"
      (.action (some "Schedule appointment") (some "appointment") none),
    step "message-2" 400.0 580.0 "Provide Info"
      (.message (some "Let me provide you with that information...")),
    step "transfer-1" 650.0 580.0 "Transfer to Support" (.transfer (some "+1234567890")),
    step "end-1" 400.0 720.0 "End Call"
      (.ending (some "Thank you for calling. Have a great day!") none)]
  edges := [
    arrow "e1-2" "start-1" "message-1" none,
    arrow "e2-3" "message-1" "listen-1" none,
    arrow "e3-4" "listen-1" "branch-1" none,
    arrow "e4-5" "branch-1" "action-1" (some "Appointment"),
    arrow "e4-6" "branch-1" "message-2" (some "Info"),
    arrow "e4-7" "branch-1" "transfer-1" (some "Support"),
    arrow "e5-8" "action-1" "end-1" none,
    arrow "e6-8" "message-2" "end-1" none,
    arrow "e7-8" "transfer-1" "end-1" none]

end Dialogue.Flow
