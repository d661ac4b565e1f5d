import Dialogue.Flow.Basic
import Dialogue.Json.Plain
import Dialogue.Schema.Record

/-!
Reading a flow from its stored form. Every fault is reported, in the order of the fields; fields
that are not declared stay as extras on nodes, node data and edges, and are dropped elsewhere.
-/

namespace Dialogue

open Schema

namespace Position

def ofJson : Decoder Position :=
  record "Position" fun fs =>
    Position.mk <$> optional (.plain "x") 0.0 number fs <*> optional (.plain "y") 0.0 number fs

end Position

namespace Lookup

def header : Decoder Header :=
  record "ApiHeader" fun fs =>
    Header.mk <$> optional (.plain "key") "" text fs <*> optional (.plain "value") "" text fs

def mapping : Decoder Mapping :=
  record "ResponseMapping" fun fs =>
    Mapping.mk <$> required (.plain "path") text fs <*> required (.plain "label") text fs <*>
      optional (.plain "enabled") true boolean fs

def response : Decoder (Option Json)
  | .null => .ok none
  | v => .ok (some v)

def ofJson : Decoder Lookup :=
  record "ApiConfig" fun fs =>
    (fun endpoint _ => Lookup.mk endpoint) <$> optional (.plain "endpoint") "" text fs <*>
      optional (.plain "method") "GET" (among ["GET"]) fs <*>
      optional (.plain "headers") [] (items header) fs <*>
      optional ⟨"responseMapping", "response_mapping"⟩ [] (items mapping) fs <*>
      optional ⟨"testPhone", "test_phone"⟩ none (nullable text) fs <*>
      optional ⟨"lastTestResponse", "last_test_response"⟩ none response fs

end Lookup

def Kind.dataName : Kind → String
  | .start => "StartData"
  | .message => "MessageData"
  | .listen => "ListenData"
  | .branch => "BranchData"
  | .action => "ActionData"
  | .transfer => "TransferData"
  | .ending => "EndData"

def Kind.declared : Kind → List Field
  | .start => []
  | .message => [.plain "content"]
  | .listen => [.plain "intents"]
  | .branch => []
  | .action => [.plain "content", ⟨"actionType", "action_type"⟩, ⟨"apiConfig", "api_config"⟩]
  | .transfer => [⟨"transferNumber", "transfer_number"⟩]
  | .ending => [⟨"endMessage", "end_message"⟩, .plain "content"]

namespace Content

def spoken (fs : Fields) : Checked (Option String) :=
  optional (.plain "content") none (nullable text) fs

def ofFields : Kind → Fields → Checked Content
  | .start, _ => .ok start
  | .message, fs => message <$> spoken fs
  | .listen, fs => listen <$> optional (.plain "intents") [] (items text) fs
  | .branch, _ => .ok branch
  | .action, fs =>
    action <$> spoken fs <*> optional ⟨"actionType", "action_type"⟩ none (nullable text) fs <*>
      optional ⟨"apiConfig", "api_config"⟩ none (nullable Lookup.ofJson) fs
  | .transfer, fs =>
    transfer <$> optional ⟨"transferNumber", "transfer_number"⟩ none (nullable text) fs
  | .ending, fs =>
    ending <$> optional ⟨"endMessage", "end_message"⟩ none (nullable text) fs <*> spoken fs

def bare : Kind → Content
  | .start => start
  | .message => message none
  | .listen => listen []
  | .branch => branch
  | .action => action none none none
  | .transfer => transfer none
  | .ending => ending none none

end Content

namespace NodeData

def declared (k : Kind) : List Field := .plain "label" :: k.declared

def ofJson (k : Kind) : Decoder NodeData :=
  record k.dataName fun fs =>
    NodeData.mk <$> optional (.plain "label") "" text fs <*> Content.ofFields k fs <*>
      .ok (Schema.extras (declared k) fs)

def bare (k : Kind) : NodeData := ⟨"", .bare k, []⟩

end NodeData

namespace Node

def declared : List Field := [.plain "id", .plain "type", .plain "position", .plain "data"]

def ofFields (k : Kind) (fs : Fields) : Checked Node :=
  Node.mk <$> required (.plain "id") text fs <*>
    optional (.plain "position") .origin Position.ofJson fs <*>
    optional (.plain "data") (.bare k) (NodeData.ofJson k) fs <*>
    .ok (Schema.extras declared fs)

def ofJson : Decoder Node
  | .object fs => tagged (Kind.all.map fun k => (k.name, ofFields k)) Json.plain fs
  | _ => .fail .noAttributes

end Node

namespace Edge

def declared : List Field := [.plain "id", .plain "source", .plain "target", .plain "label"]

def ofJson : Decoder Edge :=
  record "FlowEdge" fun fs =>
    Edge.mk <$> required (.plain "id") text fs <*> required (.plain "source") text fs <*>
      required (.plain "target") text fs <*>
      optional (.plain "label") none (nullable text) fs <*> .ok (Schema.extras declared fs)

end Edge

namespace Flow

def ofFields (fs : Fields) : Checked Flow :=
  Flow.mk <$> optional (.plain "nodes") [] (items Node.ofJson) fs <*>
    optional (.plain "edges") [] (items Edge.ofJson) fs

def ofJson : Decoder Flow := record "FlowGraph" ofFields

end Flow

end Dialogue
