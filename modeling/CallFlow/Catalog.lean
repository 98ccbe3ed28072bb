import CallFlow.Kind.Registry

/-!
# The catalog

Every kind that a call flow can be built of. A required field is never empty in a fresh node, so
that a fresh node is complete.
-/

namespace CallFlow.Catalog

/-! ## Templates of the runtime -/

namespace Template

def fromPolicy : Int := 2
def inboundNumber : Int := 3
def action : Int := 4
def switchboard : Int := 9
def finish : Int := 23
def extensionNumber : Int := 31
def toPolicy : Int := 66
def inboundMessage : Int := 93
def omniChannelFlow : Int := 117
def aiRouter : Int := 145
def aiAgent : Int := 146

end Template

/-- The voice that speaks unless another one is chosen. -/
def voice : String := "en-US-Neural2-C"

/-- The fields of every kind. -/
def common (title : String) : List FieldSpec :=
  [{ name := "name", type := .string, required := true, initial := .str title,
     description := "Display name of the step" },
   { name := "enabled", type := .boolean, initial := .bool true,
     description := "Whether the runtime executes this step" }]

/-! ## Entry -/

def start : Kind where
  tag := Kind.initTag
  category := .entry
  title := "Start"
  description := "Where call handling starts"
  fields := common "Start"
  isEntry := true
  templateId := some Template.fromPolicy

/-! ## Sources -/

def input : Kind where
  tag := Kind.inputTag
  category := .source
  title := "Inbound Numbers"
  description := "Public phone numbers that route into this policy"
  fields := common "Inbound Numbers" ++ [
    { name := "phoneNumbers", type := .array, initial := .arr [],
      description := "Numbers assigned to the policy" }]
  templateId := some Template.inboundNumber

def extensionNumber : Kind where
  tag := "extensionNumber"
  category := .source
  title := "Extension Number"
  description := "Internal extension that routes into this policy"
  fields := common "Extension Number" ++ [
    { name := "extension", type := .string, initial := .str "",
      description := "Extension digits" }]
  templateId := some Template.extensionNumber

def inboundMessage : Kind where
  tag := "inboundMessage"
  category := .source
  title := "Inbound Message"
  description := "Digital channel messages that route into this policy"
  fields := common "Inbound Message" ++ [
    { name := "channels", type := .array, initial := .arr [],
      description := "Messaging channels handled" }]
  templateId := some Template.inboundMessage

/-! ## Actions -/

def speak : Kind where
  tag := "speak"
  category := .action
  title := "Speak"
  description := "Play a text-to-speech phrase to the caller"
  fields := common "Speak" ++ [
    { name := "voice", type := .string, required := true, initial := .str voice,
      description := "Text-to-speech voice" },
    { name := "sayPhrase", type := .string, initial := .str "",
      description := "Phrase to speak" }]
  templateId := some Template.action

def getInfo : Kind where
  tag := "getInfo"
  category := .action
  title := "Get Info"
  description := "Collect digits from the caller"
  fields := common "Get Info" ++ [
    { name := "itemPhrase", type := .string, initial := .str "",
      description := "Prompt played before collecting digits" },
    { name := "pattern", type := .string, initial := .str "",
      description := "Digit pattern to match" },
    { name := "patternAssignTo", type := .select, required := true, initial := .str "NONE",
      description := "Where matched digits are stored",
      options := some ["NONE", "VARIABLE", "MACRO"] }]
  templateId := some Template.action

def callQueue : Kind where
  tag := "callQueue"
  category := .action
  title := "Call Queue"
  description := "Queue the call for the next available agent"
  fields := common "Call Queue" ++ [
    { name := "queueAlgorithm", type := .select, required := true, initial := .str "ROUND_ROBIN",
      description := "Agent selection algorithm",
      options := some ["ROUND_ROBIN", "LONGEST_IDLE", "LEAST_CALLS", "RANDOM", "RING_ALL"] },
    { name := "holdMusicType", type := .select, initial := .str "AUTO",
      description := "Hold music source", options := some ["AUTO", "PRESET", "CUSTOM"] },
    { name := "exitKey", type := .string, initial := .str "",
      description := "Key that lets the caller leave the queue" },
    { name := "ringTargets", type := .array, initial := .arr [],
      description := "Users and groups to ring" },
    { name := "callback", type := .object,
      initial := .obj
        [("enabled", .bool false), ("activationKey", .str "#"), ("maxAttempts", .int 3)],
      description := "Queue callback settings" }]
  templateId := some Template.action

def huntGroup : Kind where
  tag := "huntGroup"
  category := .action
  title := "Hunt Group"
  description := "Ring a group of targets in turn or together"
  fields := common "Hunt Group" ++ [
    { name := "strategy", type := .select, required := true, initial := .str "SEQUENTIAL",
      description := "Hunt strategy", options := some ["SEQUENTIAL", "SIMULTANEOUS", "RANDOM"] },
    { name := "ringDuration", type := .number, initial := .int 20,
      description := "Seconds to ring each target" },
    { name := "connectTargets", type := .array, initial := .arr [],
      description := "Targets to hunt through" }]
  templateId := some Template.action

def connectCall : Kind where
  tag := "connectCall"
  category := .action
  title := "Connect Call"
  description := "Bridge the call to a user, number or group"
  fields := common "Connect Call" ++ [
    { name := "connectType", type := .select, required := true, initial := .str "DDI_USER",
      description := "Kind of connect target", options := some ["DDI_USER", "NUMBER", "GROUP"] },
    { name := "connectValue", type := .string, initial := .str "",
      description := "Connect target" },
    { name := "ringDuration", type := .number, initial := .int 30,
      description := "Seconds to ring before giving up" }]
  templateId := some Template.action

def recordCall : Kind where
  tag := "recordCall"
  category := .action
  title := "Record Call"
  description := "Start recording the call"
  fields := common "Record Call" ++ [
    { name := "channel", type := .select, required := true, initial := .str "BOTH",
      description := "Audio channel to record", options := some ["BOTH", "CALLER", "CALLEE"] },
    { name := "retain", type := .boolean, initial := .bool false,
      description := "Retain the recording after the call" }]
  templateId := some Template.action

def notify : Kind where
  tag := "notify"
  category := .action
  title := "Notify"
  description := "Send a notification about the call"
  fields := common "Notify" ++ [
    { name := "type", type := .select, required := true, initial := .str "EMAIL",
      description := "Notification channel", options := some ["EMAIL", "SMS", "CHATTER"] },
    { name := "to", type := .string, initial := .str "" },
    { name := "subject", type := .string, initial := .str "" },
    { name := "body", type := .string, initial := .str "" }]
  templateId := some Template.action

def requestSkill : Kind where
  tag := "requestSkill"
  category := .action
  title := "Request Skill"
  description := "Tag the call with skills for skill-based routing"
  fields := common "Request Skill" ++ [
    { name := "skills", type := .array, initial := .arr [] },
    { name := "deleteSkills", type := .boolean, initial := .bool false }]
  templateId := some Template.action

/-! ## Routing -/

def rule : Kind where
  tag := "rule"
  category := .routing
  title := "Rule"
  description := "Branch on time of day, caller number and other conditions"
  fields := common "Rule" ++ [
    { name := "rules", type := .object,
      initial := .obj
        [("timeOfDay", .arr []), ("countryCode", .arr []), ("callerIdWithheld", .arr []),
          ("numberMatch", .arr []), ("evaluate", .arr [])],
      description := "Conditions evaluated per branch" }]
  maxOutgoing := none
  templateId := some Template.action

def switchboard : Kind where
  tag := "switchboard"
  category := .routing
  title := "Switchboard"
  description := "Keypad menu that branches on the digit pressed"
  fields := common "Switchboard" ++ [
    { name := "menuPhrase", type := .string, initial := .str "", description := "Menu prompt" },
    { name := "timeout", type := .number, initial := .int 10,
      description := "Seconds to wait for a key press" }]
  maxOutgoing := none
  templateId := some Template.switchboard

def router : Kind where
  tag := "router"
  category := .routing
  title := "AI Router"
  description := "Route the call by detected caller intent"
  fields := common "AI Router" ++ [
    { name := "routes", type := .array, initial := .arr [],
      description := "Intent descriptions, one per branch" },
    { name := "fallbackLabel", type := .string, initial := .str "default",
      description := "Branch used when no intent matches" }]
  maxOutgoing := none
  templateId := some Template.aiRouter

/-! ## Artificial intelligence -/

def aiAgent : Kind where
  tag := "aiAgent"
  category := .ai
  title := "AI Agent"
  description := "Hand the conversation to a voice AI agent"
  fields := common "AI Agent" ++ [
    { name := "agentId", type := .string, initial := .str "", description := "Agent to run" },
    { name := "voice", type := .string, required := true, initial := .str voice,
      description := "Agent voice" }]
  templateId := some Template.aiAgent

def omniChannelFlow : Kind where
  tag := "omniChannelFlow"
  category := .ai
  title := "Omni-Channel Flow"
  description := "Hand the interaction to an omni-channel flow"
  fields := common "Omni-Channel Flow" ++ [
    { name := "flowId", type := .string, initial := .str "" }]
  templateId := some Template.omniChannelFlow

/-! ## Integrations -/

def manageProperties : Kind where
  tag := "manageProperties"
  category := .integration
  title := "Manage Properties"
  description := "Set or clear call properties"
  fields := common "Manage Properties" ++ [
    { name := "properties", type := .array, initial := .arr [] }]
  templateId := some Template.action

def queryObject : Kind where
  tag := "queryObject"
  category := .integration
  title := "Query Object"
  description := "Look up CRM records for the caller"
  fields := common "Query Object" ++ [
    { name := "sObject", type := .string, initial := .str "" },
    { name := "filterFields", type := .array, initial := .arr [] },
    { name := "resultSize", type := .number, initial := .int 1 },
    { name := "trigger", type := .select, required := true, initial := .str "ALWAYS",
      options := some ["ALWAYS", "NEVER", "CONDITIONAL"] }]
  templateId := some Template.action

def createRecord : Kind where
  tag := "createRecord"
  category := .integration
  title := "Create Record"
  description := "Create a CRM record for the call"
  fields := common "Create Record" ++ [
    { name := "sObject", type := .string, initial := .str "" },
    { name := "fields", type := .array, initial := .arr [] },
    { name := "trigger", type := .select, required := true, initial := .str "ALWAYS",
      options := some ["ALWAYS", "NEVER", "CONDITIONAL"] }]
  templateId := some Template.action

/-! ## Utilities -/

def debug : Kind where
  tag := "debug"
  category := .utility
  title := "Debug"
  description := "Log call state for troubleshooting"
  fields := common "Debug" ++ [
    { name := "level", type := .select, initial := .str "INFO",
      options := some ["DEBUG", "INFO", "WARN"] }]
  templateId := some Template.action

/-! ## Ends -/

def voicemail : Kind where
  tag := "voicemail"
  category := .terminal
  title := "Voicemail"
  description := "Send the caller to voicemail"
  fields := common "Voicemail" ++ [
    { name := "targetType", type := .select, required := true, initial := .str "USER",
      options := some ["USER", "GROUP"] },
    { name := "targetId", type := .string, initial := .str "" },
    { name := "maxDuration", type := .number, initial := .int 120 }]
  maxOutgoing := some 0
  templateId := some Template.action

def toPolicy : Kind where
  tag := "toPolicy"
  category := .terminal
  title := "To Policy"
  description := "Continue in another routing policy"
  fields := common "To Policy" ++ [
    { name := "targetPolicyId", type := .string, initial := .str "" }]
  maxOutgoing := some 0
  templateId := some Template.toPolicy

def output : Kind where
  tag := "output"
  category := .terminal
  title := "Finish"
  description := "Hang up and end the flow"
  fields := common "Finish"
  maxOutgoing := some 0
  templateId := some Template.finish

/-! ## All kinds -/

/-- All kinds in palette order. -/
def kinds : List Kind :=
  [start, input, extensionNumber, inboundMessage, speak, getInfo, callQueue, huntGroup,
   connectCall, recordCall, notify, requestSkill, rule, switchboard, router, aiAgent,
   omniChannelFlow, manageProperties, queryObject, createRecord, debug, voicemail, toPolicy,
   output]

/-- The kinds of the given tags, in the order of the tags. -/
def select (tags : List String) : List Kind :=
  tags.filterMap fun tag ↦ kinds.find? (·.tag == tag)

/-- The registry of all kinds. -/
def registry : Registry :=
  match Registry.ofList kinds with
  | .ok r => r
  | .error _ => Registry.empty

end CallFlow.Catalog
