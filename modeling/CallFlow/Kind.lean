import CallFlow.Table
import CallFlow.Text.Blank
import CallFlow.Text.Word

/-!
# Kinds of nodes

What a call flow can do at one step: the fields that a node of the kind carries, how many edges
may leave it, and the template by which the telephony runtime knows it.
-/

namespace CallFlow

/-! ## Categories -/

/-- The groups in which the palette shows the kinds. -/
inductive Category where
  | entry
  | source
  | action
  | routing
  | ai
  | integration
  | utility
  | terminal
deriving DecidableEq, Repr

namespace Category

/-- All categories in palette order. -/
def all : List Category :=
  [.entry, .source, .action, .routing, .ai, .integration, .utility, .terminal]

def name : Category → String
  | .entry => "entry"
  | .source => "source"
  | .action => "action"
  | .routing => "routing"
  | .ai => "ai"
  | .integration => "integration"
  | .utility => "utility"
  | .terminal => "terminal"

def ofName? (s : String) : Option Category := all.find? (·.name == s)

def ofJson : Json → Except Text.UnknownWord Category := Text.readWord "NodeCategory" ofName?

theorem mem_all (c : Category) : c ∈ all := by cases c <;> decide

end Category

/-! ## Fields -/

/-- The declared type of a field. -/
inductive DataType where
  | string
  | number
  | boolean
  | object
  | array
  | select
  | any
deriving DecidableEq, Repr

namespace DataType

/-- All data types in the order of the documentation. -/
def all : List DataType := [.string, .number, .boolean, .object, .array, .select, .any]

def name : DataType → String
  | .string => "string"
  | .number => "number"
  | .boolean => "boolean"
  | .object => "object"
  | .array => "array"
  | .select => "select"
  | .any => "any"

/-- Whether a value is of the type; null is of every type. -/
def admits : DataType → Json → Bool
  | _, .null | .any, _ => true
  | .string, .str _ | .select, .str _ => true
  | .boolean, .bool _ => true
  | .number, .int _ | .number, .float _ => true
  | .object, .obj _ => true
  | .array, .arr _ => true
  | _, _ => false

end DataType

/-- A field counts as not filled in when it is absent, null or a blank text. -/
def isUnset : Option Json → Bool
  | none | some .null => true
  | some (.str s) => Text.isBlankText s
  | some _ => false

/-- A field that nodes of a kind carry in their data. -/
structure FieldSpec where
  name : String
  type : DataType
  required : Bool := false
  /-- The value in a fresh node. -/
  initial : Json := .null
  description : String := ""
  /-- The values offered for a selection. -/
  options : Option (List String) := none

def FieldSpec.toJson (f : FieldSpec) : Json :=
  .obj [("name", .str f.name), ("data_type", .str f.type.name), ("required", .bool f.required),
    ("default_value", f.initial), ("description", .str f.description),
    ("options", match f.options with
      | some os => Json.ofStrings os
      | none => .null)]

/-! ## Kinds -/

/-- The definition of a kind of nodes. -/
structure Kind where
  /-- The tag by which nodes name their kind. -/
  tag : String
  category : Category
  title : String
  description : String
  fields : List FieldSpec
  /-- How many edges may leave a node; none if there is no limit, in which case the node
  branches. -/
  maxOutgoing : Option Nat := some 1
  /-- Whether a flow starts at nodes of the kind. -/
  isEntry : Bool := false
  /-- The template of the runtime. Kinds may share one. -/
  templateId : Option Int := none

namespace Kind

def isBranching (k : Kind) : Bool := k.maxOutgoing.isNone

def isTerminal (k : Kind) : Bool := k.maxOutgoing == some 0

/-- The names of the fields that must be filled in. -/
def requiredFields (k : Kind) : List String :=
  k.fields.filter (·.required) |>.map (·.name)

/-- The fields that nodes of the kind are declared to have, with their types. A field that is
declared again keeps its place and has the last type. -/
def declared (k : Kind) : List (String × DataType) :=
  (k.fields.foldl (fun t f ↦ t.put (f.name, f.type)) (.empty : Table _ Prod.fst)).rows

/-- The data of a fresh node. -/
def initialData (k : Kind) : Members := Members.ofPairs (k.fields.map fun f ↦ (f.name, f.initial))

def toJson (k : Kind) : Json :=
  .obj [("kind", .str k.tag), ("category", .str k.category.name), ("name", .str k.title),
    ("description", .str k.description),
    ("max_outgoing_edges", match k.maxOutgoing with
      | some n => Json.ofNat n
      | none => .null),
    ("requires_entry", .bool k.isEntry),
    ("template_id", match k.templateId with
      | some t => .int t
      | none => .null),
    ("properties", .arr (k.fields.map FieldSpec.toJson))]

/-- The tag of the kind at which a flow starts. -/
def initTag : String := "init"

/-- The tag of the kind that holds phone numbers. -/
def inputTag : String := "input"

end Kind

end CallFlow
