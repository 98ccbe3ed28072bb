import CallFlow.Json

/-!
# Checked records

Documents and requests are read against declared fields. A check never stops at the first fault:
the faults of all fields are reported, in the order in which the fields are declared and each with
its path from the root.
-/

namespace CallFlow.Schema

/-! ## Faults -/

/-- One step of a path: into a member or into an item. -/
inductive Step where
  | key (name : String)
  | index (i : Nat)
deriving DecidableEq, Repr

/-- The rule that a value breaks. -/
inductive Rule where
  | missing
  | textType
  | textTooShort
  | textTooLong
  | boolType
  | boolText
  | wholeType
  | wholeText
  | wholeSize
  | wholeFraction
  | wholeInfinite
  | doubleType
  | doubleText
  | listType
  | listTooShort
  | objectType
  | documentRecord
  | requestRecord
  | choice
  | jsonText
deriving DecidableEq, Repr

/-- The code under which a broken rule is reported. -/
def Rule.code : Rule → String
  | .missing => "missing"
  | .textType => "string_type"
  | .textTooShort => "string_too_short"
  | .textTooLong => "string_too_long"
  | .boolType => "bool_type"
  | .boolText => "bool_parsing"
  | .wholeType => "int_type"
  | .wholeText => "int_parsing"
  | .wholeSize => "int_parsing_size"
  | .wholeFraction => "int_from_float"
  | .wholeInfinite => "finite_number"
  | .doubleType => "float_type"
  | .doubleText => "float_parsing"
  | .listType => "list_type"
  | .listTooShort => "too_short"
  | .objectType => "dict_type"
  | .documentRecord => "model_type"
  | .requestRecord => "model_attributes_type"
  | .choice => "enum"
  | .jsonText => "json_invalid"

/-- A broken rule and the path of the value that breaks it. -/
structure Fault where
  rule : Rule
  path : List Step
deriving DecidableEq, Repr

def Step.toJson : Step → Json
  | .key name => .str name
  | .index i => .ofNat i

def Fault.toJson (f : Fault) : Json :=
  .obj [("type", .str f.rule.code), ("loc", .arr (f.path.map Step.toJson))]

/-! ## Results -/

/-- The result of a check: a sound value or the list of faults. -/
inductive Checked (α : Type) where
  | sound (value : α)
  | faulty (faults : List Fault)
deriving Repr

namespace Checked

variable {α β : Type}

/-- A single fault at the value itself. -/
def fail (rule : Rule) : Checked α := .faulty [⟨rule, []⟩]

def map (f : α → β) : Checked α → Checked β
  | .sound a => .sound (f a)
  | .faulty es => .faulty es

/-- Applies a checked function to a checked argument; the faults of both are kept. -/
def ap : Checked (α → β) → Checked α → Checked β
  | .sound f, .sound a => .sound (f a)
  | .sound _, .faulty es => .faulty es
  | .faulty es, .sound _ => .faulty es
  | .faulty es, .faulty es' => .faulty (es ++ es')

/-- Puts a step before the path of every fault. -/
def under (step : Step) : Checked α → Checked α
  | .sound a => .sound a
  | .faulty es => .faulty (es.map fun e ↦ { e with path := step :: e.path })

/-- A further check of a sound value. -/
def andThen (x : Checked α) (f : α → Checked β) : Checked β :=
  match x with
  | .sound a => f a
  | .faulty es => .faulty es

instance : Functor Checked := ⟨map, fun a ↦ map fun _ ↦ a⟩
instance : Pure Checked := ⟨.sound⟩
instance : Seq Checked := ⟨fun f x ↦ ap f (x ())⟩

end Checked

/-! ## Fields -/

section Fields

variable {α : Type}

/-- A required field. -/
def required (ms : Members) (name : String) (check : Json → Checked α) : Checked α :=
  (match Members.get? ms name with
   | some v => check v
   | none => .fail .missing).under (.key name)

/-- A field with a default. -/
def optional (ms : Members) (name : String) (default : α) (check : Json → Checked α) :
    Checked α :=
  match Members.get? ms name with
  | some v => (check v).under (.key name)
  | none => .sound default

/-- The name under which a field with two names is looked up: the first one if the object has
it. -/
def nameOf (ms : Members) (first second : String) : String :=
  if Members.has ms first then first else second

/-- A value that may be null. -/
def nullable (check : Json → Checked α) : Json → Checked (Option α)
  | .null => .sound none
  | v => (check v).map some

/-- The items from a position on, each checked. -/
def checkItems (check : Json → Checked α) : Nat → List Json → Checked (List α)
  | _, [] => .sound []
  | i, v :: vs => .ap ((check v).under (.index i) |>.map List.cons) (checkItems check (i + 1) vs)

/-- A list, each item checked. -/
def list (check : Json → Checked α) : Json → Checked (List α)
  | .arr items => checkItems check 0 items
  | _ => .fail .listType

/-- A list of at least one item. -/
def nonemptyList (check : Json → Checked α) (v : Json) : Checked (List α) :=
  match v with
  | .arr [] => .fail .listTooShort
  | v => list check v

/-- An object with any members. -/
def object : Json → Checked Members
  | .obj members => .sound members
  | _ => .fail .objectType

/-- Where a record comes from; documents and requests name the same mistake differently. -/
inductive Origin where
  | document
  | request
deriving DecidableEq, Repr

/-- The rule that a value breaks which is no object where a record is declared. -/
def Origin.recordRule : Origin → Rule
  | .document => .documentRecord
  | .request => .requestRecord

/-- A record, checked field by field. -/
def record (origin : Origin) (fields : Members → Checked α) : Json → Checked α
  | .obj members => fields members
  | _ => .fail origin.recordRule

end Fields

end CallFlow.Schema
