import CallFlow.Json.Writer
import CallFlow.Script

/-!
# Compiled policies

The two documents that are stored of a graph, as canonical texts: its body, from which the editor
loads it again, and its script, which the runtime executes. With them go the phone numbers that
route into the policy.
-/

namespace CallFlow

/-- Why a graph does not compile. -/
inductive CompileError where
  | script (e : ScriptError)
  /-- A value stands for the phone numbers that holds nothing. -/
  | phoneNumbers (found : Json)
  /-- A value stands for the type of the policy that is none. -/
  | policyType (e : Text.UnknownWord)

namespace CompileError

def message : CompileError → String
  | script e => e.message
  | phoneNumbers found => s!"'{found.kindName}' object is not iterable"
  | policyType e => e.message

def details : CompileError → Members
  | script e => e.details
  | _ => []

end CompileError

/-! ## Phone numbers -/

/-- What a value holds, one by one: the items of a list, the characters of a text, the names of an
object. Whatever is empty holds nothing, and other values cannot be looked into. -/
def Json.contents (v : Json) : Except CompileError (List Json) :=
  if v.isFalsy then .ok []
  else match v with
    | .arr items => .ok items
    | .str s => .ok (s.toList.map fun c ↦ .str (String.singleton c))
    | .obj members => .ok (members.map fun m ↦ .str m.1)
    | v => .error (.phoneNumbers v)

/-- Adds the texts among some values that are not there yet. -/
def addNumbers (numbers : List String) (values : List Json) : List String :=
  values.foldl (fun numbers v ↦ match v with
    | .str s => if numbers.contains s then numbers else numbers ++ [s]
    | _ => numbers) numbers

/-- The phone numbers that the nodes list, each of them once. -/
def Graph.phoneNumbers (g : Graph) : Except CompileError (List String) :=
  g.nodes.rows.foldlM (fun numbers n ↦
    if n.type == Kind.inputTag then do
      return addNumbers numbers (← ((Members.get? n.data "phoneNumbers").getD .null).contents)
    else return numbers) []

/-! ## Compilation -/

/-- The documents of a graph. -/
structure Compiled where
  body : String
  script : String
  phoneNumbers : List String
deriving DecidableEq, Repr

namespace Compiled

def toJson (c : Compiled) : Json :=
  .obj [("body", .str c.body), ("policy", .str c.script),
    ("phone_numbers", Json.ofStrings c.phoneNumbers)]

/-- The documents of a graph for a policy of a name and type. -/
def ofGraph (r : Registry) (g : Graph) (name : String) (type : PolicyType) :
    Except CompileError Compiled := do
  let script ← (Script.ofGraph r g name type).mapError .script
  return ⟨Json.canonical g.toJson, Json.canonical script.toJson, ← g.phoneNumbers⟩

end Compiled

/-- The policy type that a value names. The entry of the graph is looked for first. -/
def Script.typeOf (r : Registry) (g : Graph) (v : Json) : Except CompileError PolicyType := do
  let _ ← (soleEntry r g).mapError CompileError.script
  (PolicyType.ofJson v).mapError .policyType

end CallFlow
