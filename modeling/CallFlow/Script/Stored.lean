import CallFlow.Body

/-!
# Stored scripts

A script as it is found in storage, where it may be older than the editor: only the members that
say what the flow does are looked at, and almost all of them may be absent.
-/

namespace CallFlow

/-- A way on of a stored item. -/
structure StoredBranch where
  label : Option String
  target : Option String
  handle : Option String
deriving DecidableEq, Repr

/-- An item of a stored script. -/
structure StoredItem where
  id : Option String
  name : Option String
  type : Option String
  templateId : Option Int
  enabled : Bool
  isEntry : Bool
  values : Members
  next : Option String
  /-- Older scripts name the next item here. -/
  connectedTo : Option String
  branches : List StoredBranch

/-- A stored script. -/
structure StoredScript where
  items : List StoredItem

namespace StoredScript

open Schema

/-! ## The check -/

def checkBranch (ms : Members) : Checked StoredBranch :=
  .mk <$> optional ms "label" none (nullable text) <*>
    optional ms "target" none (nullable label) <*> optional ms "handle" none (nullable text)

/-- The name under which an item has its template. -/
def templateName (ms : Members) : String := nameOf ms "templateId" "template_id"

/-- The name under which an item has the older form of its way on. -/
def connectedName (ms : Members) : String := nameOf ms "connectedTo" "connected_to"

def checkItem (ms : Members) : Checked StoredItem :=
  (fun id name type template enabled entry _inert values next connected branches ↦
    ⟨id, name, type, template, enabled, entry, values, next, connected, branches⟩) <$>
    optional ms "id" none (nullable label) <*> optional ms "name" none (nullable text) <*>
    optional ms "type" none (nullable text) <*>
    optional ms (templateName ms) none (nullable whole) <*> optional ms "enabled" true bool <*>
    optional ms "entry" false bool <*> optional ms "inert" false bool <*>
    optional ms "variables" [] object <*> optional ms "next" none (nullable label) <*>
    optional ms (connectedName ms) none (nullable label) <*>
    optional ms "branches" [] (list (record .document checkBranch))

/-- Checks a script document. What it says of the policy itself is checked, but not kept. -/
def check : Json → Checked StoredScript :=
  record .document fun ms ↦
    (fun _name _enabled _type items ↦ ⟨items⟩) <$> optional ms "name" "" text <*>
      optional ms "enabled" true bool <*> optional ms "type" none (nullable text) <*>
      optional ms "items" [] (list (record .document checkItem))

/-- The script of a document. -/
def ofJson (v : Json) : Except DocumentError StoredScript :=
  match check v with
  | .sound script => .ok script
  | .faulty faults => .error (.malformedScript faults)

/-- The script of the text of a document. -/
def ofText (text : String) : Except DocumentError StoredScript :=
  match Json.readDocument? text with
  | some v => ofJson v
  | none => .error (.malformedScript [⟨.jsonText, []⟩])

end StoredScript

end CallFlow
