import Dialogue.Flow.Validation
import Dialogue.Marker

/-!
Scripts: the instructions that lead an agent through a flow. Each step that the walk from the start
reaches has one numbered line, in depth-first order; a branch leads on along all its edges, any other
step along its first, and an ending along none.
-/

namespace Dialogue.Script

def follow (g : Flow) (n : Node) : List String :=
  match n.kind with
  | .ending => []
  | .branch => g.successors n.id
  | _ => (g.next? n.id).toList

def unseen (g : Flow) (seen : List String) : List Node := g.nodes.filter (·.id ∉ seen)

theorem length_unseen_le (g : Flow) (seen : List String) (id : String) :
    (unseen g (id :: seen)).length ≤ (unseen g seen).length := by
  have h : unseen g (id :: seen) = (unseen g seen).filter (·.id ≠ id) := by
    simp [unseen, List.filter_filter, not_or]
  rw [h]
  exact List.length_filter_le ..

theorem length_unseen_lt {g : Flow} {seen : List String} {id : String} {n : Node}
    (hn : g.node? id = some n) (h : id ∉ seen) :
    (unseen g (id :: seen)).length < (unseen g seen).length := by
  have e : unseen g (id :: seen) = (unseen g seen).filter (·.id ≠ id) := by
    simp [unseen, List.filter_filter, not_or]
  rw [e]
  refine List.length_filter_lt_length_iff_exists.2 ⟨n, ?_, ?_⟩
  · simp [unseen, Flow.node?_mem hn, Flow.node?_id hn, h]
  · simp [Flow.node?_id hn]

def walk (g : Flow) (seen : List String) : List String → List Node
  | [] => []
  | id :: stack =>
    if id ∈ seen then walk g seen stack
    else match _h : g.node? id with
      | none => walk g (id :: seen) stack
      | some n => n :: walk g (id :: seen) (follow g n ++ stack)
termination_by stack => ((unseen g seen).length, stack.length)
decreasing_by
  · exact Prod.Lex.right _ (by simp)
  · rcases Nat.lt_or_eq_of_le (length_unseen_le g seen id) with hl | he
    · exact Prod.Lex.left _ _ hl
    · rw [he]; exact Prod.Lex.right _ (by simp)
  · exact Prod.Lex.left _ _ (length_unseen_lt (by assumption) (by assumption))

theorem walk_seen {g : Flow} {seen stack : List String} {id : String} (h : id ∈ seen) :
    walk g seen (id :: stack) = walk g seen stack := by
  rw [walk, if_pos h]

theorem walk_missing {g : Flow} {seen stack : List String} {id : String} (h : id ∉ seen)
    (hn : g.node? id = none) : walk g seen (id :: stack) = walk g (id :: seen) stack := by
  rw [walk, if_neg h]
  split
  · rfl
  · next hs => rw [hn] at hs; cases hs

theorem walk_found {g : Flow} {seen stack : List String} {id : String} {n : Node} (h : id ∉ seen)
    (hn : g.node? id = some n) :
    walk g seen (id :: stack) = n :: walk g (id :: seen) (follow g n ++ stack) := by
  rw [walk, if_neg h]
  split
  · next hs => rw [hn] at hs; cases hs
  · next m hs =>
    rw [hn] at hs
    cases hs
    rfl

def steps (g : Flow) : List Node :=
  match g.start? with
  | some start => walk g [] [start.id]
  | none => []

def orElse (s : Option String) (default : String) : String :=
  match s with
  | some s => if s.isEmpty then default else s
  | none => default

def instruction (n : Node) : String :=
  match n.content with
  | .start => "[CALL STARTS] Begin the conversation."
  | .message spoken =>
    "[SAY] " ++ orElse (spoken.bind fun s => if s.isEmpty then none else some ("\"" ++ s ++ "\""))
      n.label
  | .listen _ => "[WAIT FOR USER RESPONSE]"
  | .branch => "[BRANCH] Based on the detected choice, continue with the matching step:"
  | .action spoken actionType _ =>
    "[ACTION: " ++ Text.within Text.upper (orElse actionType "custom") ++ "] " ++
      orElse spoken n.label
  | .transfer number => "[TRANSFER] Transfer call to " ++ orElse number "configured number"
  | .ending _ _ =>
    match n.closingLine with
    | some line =>
      if line.isEmpty then "[END CALL] End the conversation politely."
      else "[END CALL] Say: \"" ++ line ++ "\" and end the call."
    | none => "[END CALL] End the conversation politely."

def waiting : List String := [
  "   CRITICAL: You MUST stop speaking completely and wait for the user to respond.",
  "   - Do NOT continue speaking until the user has answered.",
  "   - Do NOT assume what the user wants.",
  "   - Do NOT offer multiple options in rapid succession.",
  "   - Ask your question, then STOP and LISTEN."]

def choiceName (e : Edge) (target : Node) : String :=
  match e.label with
  | some label => if Text.isBlankText label then target.label else Text.within Text.strip label
  | none => target.label

def choiceLine (e : Edge) (target : Node) : String :=
  "   - If the detected choice is \"" ++ choiceName e target ++ "\": proceed to \"" ++
    target.label ++ "\" " ++ Marker.formatText target.id

def details (g : Flow) (n : Node) : List String :=
  match n.content with
  | .listen [] => waiting
  | .listen intents =>
    waiting ++ ["   - Expected user choices: " ++ ", ".intercalate intents,
      "   - After user responds, acknowledge their choice before proceeding."]
  | .branch => (g.outgoing n.id).filterMap fun e => (g.node? e.target).map (choiceLine e)
  | _ => []

def stepLine (number : Nat) (n : Node) : String :=
  toString number ++ ". " ++ Marker.formatText n.id ++ " " ++ instruction n

def lines (g : Flow) : List String :=
  (steps g).zipIdx.flatMap fun (n, i) => stepLine (i + 1) n :: details g n

def preamble : List String :=
  ["[CONVERSATION FLOW]", "Follow this conversation flow step by step:", ""]

def closingRules : List String := [
  "[CRITICAL RULES]",
  "1. WAITING IS MANDATORY: When the flow says \"WAIT FOR USER RESPONSE\", you MUST:",
  "   - Complete your current sentence/question",
  "   - STOP talking completely",
  "   - Wait silently for the user to speak",
  "   - Do NOT fill silence with additional options or suggestions",
  "   - Do NOT continue the conversation until user responds",
  "",
  "2. ACKNOWLEDGMENT: After the user responds:",
  "   - First acknowledge their choice (\"Great choice!\" or \"I understand you want...\")",
  "   - Then proceed to the appropriate next step",
  "",
  "3. GENERAL RULES:",
  "   - Follow the flow steps in order",
  "   - Be natural and conversational",
  "   - If the user asks something unexpected, acknowledge it and guide them back to the flow",
  "   - Always be helpful and professional",
  "",
  "4. FLOW TRACKING:",
  "   - Begin every response with the marker of the step you are executing, written exactly as " ++
    Marker.formatText "<id>",
  "   - Use the id shown on that step above; never invent ids",
  "   - The marker is read by software and is not spoken aloud"]

def noFlow : String := "No conversation flow defined."

def compile (g : Flow) : String :=
  match g.start? with
  | none => noFlow
  | some _ => "\n".intercalate (preamble ++ lines g ++ [""] ++ closingRules)

def publish (g : Flow) : Except (List String) String :=
  if g.isSound then .ok (compile g) else .error g.errors

end Dialogue.Script
