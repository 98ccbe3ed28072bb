import CallFlow.Binary64

/-!
# JSON values

The values that documents, node data and payloads hold. Whole numbers are of any size and stay
apart from doubles; the members of an object keep their order, and a name that is set again keeps
its place.
-/

namespace CallFlow

/-- A JSON value. -/
inductive Json where
  | null
  | bool (value : Bool)
  | int (value : Int)
  | float (value : Binary64)
  | str (value : String)
  | arr (items : List Json)
  | obj (members : List (String × Json))
deriving Inhabited, BEq, Repr

/-- The members of an object, in order. -/
abbrev Members := List (String × Json)

namespace Members

/-- The value under a name. -/
def get? (ms : Members) (name : String) : Option Json := ms.lookup name

def has (ms : Members) (name : String) : Bool := (ms.get? name).isSome

def names (ms : Members) : List String := ms.map (·.1)

/-- Puts a value under a name: in the place of the old one, or at the end. -/
def set : Members → String → Json → Members
  | [], name, v => [(name, v)]
  | (n, w) :: rest, name, v =>
    if n = name then (n, v) :: rest else (n, w) :: set rest name v

/-- Puts all members of `changes` in order. -/
def update (ms changes : Members) : Members :=
  changes.foldl (fun acc m ↦ acc.set m.1 m.2) ms

/-- The members of a list of pairs: of a repeated name the first place and the last value. -/
def ofPairs (pairs : List (String × Json)) : Members := update [] pairs

/-- The members under other names. -/
def without (ms : Members) (names : List String) : Members :=
  ms.filter fun m ↦ !names.contains m.1

end Members

namespace Json

/-- The text of a natural number. -/
def ofNat (n : Nat) : Json := .int n

/-- A text or null. -/
def ofOption : Option String → Json
  | some s => .str s
  | none => .null

/-- A list of texts. -/
def ofStrings (ss : List String) : Json := .arr (ss.map .str)

/-- The value under a name of an object. -/
def member? (v : Json) (name : String) : Option Json :=
  match v with
  | .obj members => Members.get? members name
  | _ => none

/-- Null, false, zero and everything empty. -/
def isFalsy : Json → Bool
  | .null => true
  | .bool b => !b
  | .int i => i == 0
  | .float x => x.isZero
  | .str s => s == ""
  | .arr items => items.isEmpty
  | .obj members => members.isEmpty

/-- The word by which messages name the kind of a value. -/
def kindName : Json → String
  | .null => "NoneType"
  | .bool _ => "bool"
  | .int _ => "int"
  | .float _ => "float"
  | .str _ => "str"
  | .arr _ => "list"
  | .obj _ => "dict"

/-! ## Names in order -/

/-- Puts a member before the first one with a greater name. Names are compared by code points. -/
def insertMember (m : String × Json) : Members → Members
  | [] => [m]
  | n :: rest => if m.1 < n.1 then m :: n :: rest else n :: insertMember m rest

/-- The members by increasing names. -/
def sortMembers (ms : Members) : Members := ms.foldr insertMember []

mutual

/-- The value with the names of every object in increasing order. -/
def sorted : Json → Json
  | .arr items => .arr (sortedItems items)
  | .obj members => .obj (sortMembers (sortedMembers members))
  | v => v

/-- The items, each with its names in order. -/
def sortedItems : List Json → List Json
  | [] => []
  | v :: rest => sorted v :: sortedItems rest

/-- The members, each value with its names in order. -/
def sortedMembers : List (String × Json) → List (String × Json)
  | [] => []
  | (name, v) :: rest => (name, sorted v) :: sortedMembers rest

end

end Json

end CallFlow
