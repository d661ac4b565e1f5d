/-! What a language model is told when it is asked to draft a flow. -/

namespace Dialogue.Draft

def systemPrompt : String :=
  "\n".intercalate [
    "You design conversational flows for phone voice agents.",
    "Turn the user's description into a flow graph.",
    "",
    "NODE TYPES (each node has id, type, position \x7bx, y\x7d and data \x7blabel, ...\x7d):",
    "- start: entry point, data \x7b\"label\": \"Call Starts\"\x7d. Exactly one per flow.",
    "- message: the agent speaks, data \x7b\"label\": \"Short title\", \"content\": " ++
      "\"What the agent says\"\x7d.",
    "- listen: wait for the caller, data \x7b\"label\": \"Wait for response\"\x7d. " ++
      "Place after a question.",
    "- branch: route on the caller's answer, data \x7b\"label\": \"Route by " ++
      "intent\"\x7d. Place after a listen.",
    "- action: API call or data lookup, data \x7b\"label\": \"Action name\", " ++
      "\"actionType\": \"data_lookup\"\x7d.",
    "- transfer: hand the call to a person, data \x7b\"label\": \"Transfer to " ++
      "Human\", \"transferNumber\": \"+1234567890\"\x7d.",
    "- end: hang up, data \x7b\"label\": \"End Call\", \"endMessage\": \"Thank you, " ++
      "goodbye!\"\x7d.",
    "",
    "RULES:",
    "1. Begin with the start node.",
    "2. Follow every question with a listen node.",
    "3. Follow a listen with a branch when the answer selects between paths.",
    "4. Every edge leaving a branch has a label naming the option; match the target's label.",
    "5. Every path ends at an end or transfer node.",
    "6. Use short, descriptive labels.",
    "",
    "EDGES: \x7b\"id\": \"e-source-target\", \"source\": \"source-id\", \"target\": " ++
      "\"target-id\", \"label\": \"Option\"\x7d",
    "Only branch edges carry a label.",
    "",
    "RESPOND WITH JSON ONLY, no markdown:",
    "\x7b\"nodes\": [...], \"edges\": [...], \"summary\": \"One sentence describing " ++
      "the flow\"\x7d"
  ]

def request (description : String) : String := "Create a voice agent flow for: " ++ description

end Dialogue.Draft
