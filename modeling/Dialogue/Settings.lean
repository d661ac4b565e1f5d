import Dialogue.Schema.Record
import Dialogue.Text.Blank
import Dialogue.Text.Case

/-!
Settings of the program. Each has a key, by which the environment gives it in any case, and a plain
name; values given directly, under either, win over the environment.
-/

namespace Dialogue

structure Settings where
  apiKey : Option String
  classifierModel : String
  provider : String
  classifierTokens : Int
  drafterModel : String
  drafterTemperature : Float
  drafterTokens : Int
  startDelayMs : Int
  endDelayMs : Int
  relay : Option String
  relayToken : Option String
  lookupTimeout : Float
  injectionTimeout : Float
  sessionLifetime : Float
  logLevel : String

namespace Settings

open Schema

def field (name : String) : Field := ⟨Text.within Text.upper name, name⟩

def names : List String := [
  "openai_api_key", "classifier_model", "classifier_provider", "classifier_max_tokens",
  "generator_model", "generator_temperature", "generator_max_tokens",
  "start_completion_delay_ms", "end_completion_delay_ms", "action_proxy_url",
  "action_proxy_token", "action_timeout_seconds", "context_injection_timeout_seconds",
  "finished_session_ttl_seconds", "log_level"]

def inEnvironment (env : List (String × String)) (name : String) : Option String :=
  (env.reverse.find? fun (key, _) => Text.within Text.lower key = name).map (·.2)

def fromEnvironment (env : List (String × String)) (given : Fields) : Fields :=
  names.filterMap fun name =>
    if given.has (field name).key || given.has name then none
    else (inEnvironment env name).map fun s => ((field name).key, .text s)

def ofFields (fs : Fields) : Checked Settings :=
  Settings.mk <$> optional (field "openai_api_key") none (nullable text) fs <*>
    optional (field "classifier_model") "gpt-4o-mini" text fs <*>
    optional (field "classifier_provider") "openai" text fs <*>
    optional (field "classifier_max_tokens") 100 integer fs <*>
    optional (field "generator_model") "gpt-4o" text fs <*>
    optional (field "generator_temperature") 0.7 number fs <*>
    optional (field "generator_max_tokens") 4000 integer fs <*>
    optional (field "start_completion_delay_ms") 300 integer fs <*>
    optional (field "end_completion_delay_ms") 1000 integer fs <*>
    optional (field "action_proxy_url") none (nullable text) fs <*>
    optional (field "action_proxy_token") none (nullable text) fs <*>
    optional (field "action_timeout_seconds") 10.0 number fs <*>
    optional (field "context_injection_timeout_seconds") 10.0 number fs <*>
    optional (field "finished_session_ttl_seconds") 300.0 number fs <*>
    optional (field "log_level") "INFO" text fs

def read (env : List (String × String)) (given : Fields) : Checked Settings :=
  ofFields (given ++ fromEnvironment env given)

def secondsOf (ms : Int) : Float := Decimal.nearest ms.toNat (-3)

def startDelay (s : Settings) : Float := secondsOf s.startDelayMs

def endDelay (s : Settings) : Float := secondsOf s.endDelayMs

def hasModel (s : Settings) : Bool := s.apiKey.any (! Text.isBlankText ·)

def lifetime (s : Settings) : Float := if 0.0 > s.sessionLifetime then 0.0 else s.sessionLifetime

def withoutDelays (s : Settings) : Settings := { s with startDelayMs := 0, endDelayMs := 0 }

def toFields (s : Settings) : Fields := [
  ("openai_api_key", .ofText? s.apiKey), ("classifier_model", .text s.classifierModel),
  ("classifier_provider", .text s.provider), ("classifier_max_tokens", .whole s.classifierTokens),
  ("generator_model", .text s.drafterModel),
  ("generator_temperature", .real s.drafterTemperature),
  ("generator_max_tokens", .whole s.drafterTokens),
  ("start_completion_delay_ms", .whole s.startDelayMs),
  ("end_completion_delay_ms", .whole s.endDelayMs), ("action_proxy_url", .ofText? s.relay),
  ("action_proxy_token", .ofText? s.relayToken),
  ("action_timeout_seconds", .real s.lookupTimeout),
  ("context_injection_timeout_seconds", .real s.injectionTimeout),
  ("finished_session_ttl_seconds", .real s.sessionLifetime), ("log_level", .text s.logLevel)]

end Settings

structure ChatSetup where
  model : String
  provider : String
  temperature : Float
  maxTokens : Int
  operation : String

namespace Settings

def classifier? (s : Settings) : Option ChatSetup :=
  if s.hasModel then
    some ⟨s.classifierModel, s.provider, 0.0, s.classifierTokens, "intent_classification"⟩
  else none

def drafter? (s : Settings) : Option ChatSetup :=
  if s.hasModel then
    some ⟨s.drafterModel, s.provider, s.drafterTemperature, s.drafterTokens, "flow_generation"⟩
  else none

end Settings

end Dialogue
