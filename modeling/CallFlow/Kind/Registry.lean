import CallFlow.Kind
import CallFlow.Buckets
import CallFlow.Text.Search

/-!
# The registry of kinds

The kinds that an editor knows, in order, with an index by category and one by template. A tag
that the registry does not know belongs to an opaque node: no fields, no limit, no entry.
-/

namespace CallFlow

/-- The known kinds and their indexes. -/
structure Registry where
  kinds : List Kind
  byCategory : Buckets Category Kind
  byTemplate : Buckets Int Kind

namespace Registry

/-- Two kinds of a list have the same tag. -/
structure DuplicateKind where
  tag : String
deriving DecidableEq, Repr

def DuplicateKind.message (e : DuplicateKind) : String := s!"Duplicate node kind: {e.tag}"

def empty : Registry := ⟨[], [], []⟩

/-- The kind of a tag. -/
def get? (r : Registry) (tag : String) : Option Kind := r.kinds.find? (·.tag == tag)

def isKnown (r : Registry) (tag : String) : Bool := (r.get? tag).isSome

/-- Adds a kind at the end, unless its tag is taken. -/
def register (r : Registry) (k : Kind) : Except DuplicateKind Registry :=
  if r.isKnown k.tag then .error ⟨k.tag⟩
  else .ok {
    kinds := r.kinds ++ [k]
    byCategory := r.byCategory.add k.category k
    byTemplate := match k.templateId with
      | some t => r.byTemplate.add t k
      | none => r.byTemplate }

/-- Registers more kinds in order. -/
def registerAll (r : Registry) : List Kind → Except DuplicateKind Registry
  | [] => .ok r
  | k :: ks => match r.register k with
    | .ok r => r.registerAll ks
    | .error e => .error e

/-- The registry of a list of kinds. -/
def ofList (kinds : List Kind) : Except DuplicateKind Registry := empty.registerAll kinds

/-! ## Roles of a tag -/

/-- The kind that a runtime template stands for, if exactly one kind has it. -/
def ofTemplate? (r : Registry) (template : Int) : Option Kind :=
  match r.byTemplate.get template with
  | [k] => some k
  | _ => none

def isEntry (r : Registry) (tag : String) : Bool := (r.get? tag).any (·.isEntry)

/-- How many edges may leave a node of the tag, none if there is no limit. -/
def maxOutgoing (r : Registry) (tag : String) : Option Nat := (r.get? tag).bind (·.maxOutgoing)

def isBranching (r : Registry) (tag : String) : Bool := (r.get? tag).any (·.isBranching)

/-! ## Lists -/

def list (r : Registry) : List Kind := r.kinds

/-- The kinds of a category, in order. -/
def inCategory (r : Registry) (c : Category) : List Kind := r.byCategory.get c

/-- The categories that have a kind, in palette order. -/
def categories (r : Registry) : List Category :=
  Category.all.filter fun c ↦ !(r.inCategory c).isEmpty

/-- The kinds whose tag, title or description contains the query, letters of either case. -/
def search (r : Registry) (query : String) : List Kind :=
  let query := Text.lower query
  r.kinds.filter fun k ↦
    [k.tag, k.title, k.description].any fun s ↦ Text.occursIn query (Text.lower s)

/-- The kinds of every category that has one. -/
def catalog (r : Registry) : Json :=
  .obj (r.categories.map fun c ↦ (c.name, .arr ((r.inCategory c).map Kind.toJson)))

end Registry

end CallFlow
