import CallFlow.Text.Word

/-!
# Routing policies

The record of a policy beside its graph: what it is called, which traffic it handles, whether it
is in force, and the two documents that are stored for it.
-/

namespace CallFlow

/-! ## Words of a record -/

/-- What a policy routes. -/
inductive PolicyType where
  | call
  | digital
  | outbound
  | ivr
  | queue
  | hunt
deriving DecidableEq, Repr

namespace PolicyType

def all : List PolicyType := [.call, .digital, .outbound, .ivr, .queue, .hunt]

def name : PolicyType → String
  | .call => "Call"
  | .digital => "Digital"
  | .outbound => "Outbound"
  | .ivr => "IVR"
  | .queue => "Queue"
  | .hunt => "Hunt"

def ofName? (s : String) : Option PolicyType := all.find? (·.name == s)

def ofJson : Json → Except Text.UnknownWord PolicyType := Text.readWord "PolicyType" ofName?

/-- The name in capitals, as scripts give it. -/
def scriptName (t : PolicyType) : String := t.name.toUpper

end PolicyType

/-- The direction of the traffic that a policy handles. -/
inductive PolicySource where
  | inbound
  | outbound
deriving DecidableEq, Repr

namespace PolicySource

def all : List PolicySource := [.inbound, .outbound]

def name : PolicySource → String
  | .inbound => "Inbound"
  | .outbound => "Outbound"

def ofName? (s : String) : Option PolicySource := all.find? (·.name == s)

def ofJson : Json → Except Text.UnknownWord PolicySource := Text.readWord "PolicySource" ofName?

end PolicySource

/-- Whether a policy is in force. -/
inductive PolicyStatus where
  | draft
  | disabled
  | enabled
deriving DecidableEq, Repr

namespace PolicyStatus

def all : List PolicyStatus := [.draft, .disabled, .enabled]

def name : PolicyStatus → String
  | .draft => "Draft"
  | .disabled => "Disabled"
  | .enabled => "Enabled"

def ofName? (s : String) : Option PolicyStatus := all.find? (·.name == s)

def ofJson : Json → Except Text.UnknownWord PolicyStatus := Text.readWord "PolicyStatus" ofName?

end PolicyStatus

/-! ## Records -/

/-- The record of a policy. -/
structure Policy where
  id : String
  name : String
  description : String := ""
  source : PolicySource := .inbound
  type : PolicyType := .call
  status : PolicyStatus := .draft
  createdBy : String := ""
  updatedBy : String := ""
  phoneNumbers : List String := []
  /-- The text of the body document, from which the graph is loaded again. -/
  body : Option String := none
  /-- The text of the script document, which the runtime executes. -/
  script : Option String := none
deriving DecidableEq, Repr

/-- What is shown of a record. -/
def Policy.toJson (p : Policy) : Json :=
  .obj [("id", .str p.id), ("name", .str p.name), ("description", .str p.description),
    ("source", .str p.source.name), ("type", .str p.type.name), ("status", .str p.status.name),
    ("created_by", .str p.createdBy), ("updated_by", .str p.updatedBy),
    ("phone_numbers", Json.ofStrings p.phoneNumbers), ("has_body", .bool p.body.isSome),
    ("has_policy", .bool p.script.isSome)]

end CallFlow
