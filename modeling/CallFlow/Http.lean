import CallFlow.Catalog
import CallFlow.Http.Target
import CallFlow.Service

/-!
# The HTTP interface

Which request asks for what, and how the answer is put into a response. The catalog of kinds is
the full one, and graphs may also be validated, compiled and rebuilt without a stored policy.
-/

namespace CallFlow.Http

open Schema

/-! ## Messages -/

structure Request where
  method : String
  target : String
  /-- Parameters that are given apart; they take the place of the target's own ones. -/
  params : Option (List (String × String)) := none
  body : Option Json := none

structure Response where
  status : Nat := 200
  body : Json

mutual

/-- A value as a response can carry it: there is null where a double has no numeral. -/
def carried : Json → Json
  | .float (.finite negative rank) => .float (.finite negative rank)
  | .float _ => .null
  | .arr items => .arr (carriedItems items)
  | .obj members => .obj (carriedMembers members)
  | v => v

def carriedItems : List Json → List Json
  | [] => []
  | v :: rest => carried v :: carriedItems rest

def carriedMembers : List (String × Json) → List (String × Json)
  | [] => []
  | (name, v) :: rest => (name, carried v) :: carriedMembers rest

end

/-- The response status for an error. -/
def statusOf : Error → Nat
  | .edit (.noSuchNode _) | .edit (.noSuchEdge _) | .noSuchPolicy _ | .noSession _ => 404
  | .payload _ | .document _ | .compile _ | .invalidGraph .. => 422
  | .timeOut _ => 503
  | .edit _ | .status _ => 409

def refusal (e : Error) : Response := ⟨statusOf e, .obj [("error", e.toJson)]⟩

/-- A response without an answer of its own. -/
def detail (status : Nat) (text : String) : Response := ⟨status, .obj [("detail", .str text)]⟩

/-- The response to a body that does not pass its check. -/
def badBody (faults : List Fault) : Response :=
  ⟨422, .obj [("detail", .arr (faults.map Fault.toJson))]⟩

/-! ## Bodies of requests -/

structure CompileRequest where
  body : Body
  name : String
  type : PolicyType

def CompileRequest.check : Json → Checked CompileRequest :=
  record .request fun ms ↦
    mk <$> required ms "body" (Body.check .request) <*> optional ms "name" "" text <*>
      optional ms "type" .call (choice PolicyType.ofName?)

/-- A script document, or the text of one. -/
inductive ScriptSource where
  | text (content : String)
  | document (members : Members)

namespace ScriptSource

def check : Json → Checked ScriptSource
  | .str content => .sound (.text content)
  | .obj members => .sound (.document members)
  | _ => neither "str" .textType "dict[str,any]" .objectType

def checkRequest : Json → Checked ScriptSource :=
  record .request fun ms ↦ required ms "legacy" check

def read : ScriptSource → Except DocumentError StoredScript
  | text content => StoredScript.ofText content
  | document members => StoredScript.ofJson (.obj members)

end ScriptSource

structure CreateRequest where
  name : String
  description : String
  type : PolicyType
  source : PolicySource
  createdBy : String

def CreateRequest.check : Json → Checked CreateRequest :=
  record .request fun ms ↦
    mk <$> required ms "name" (boundedText 1 (some 255)) <*>
      optional ms "description" "" text <*>
      optional ms "type" .call (choice PolicyType.ofName?) <*>
      optional ms "source" .inbound (choice PolicySource.ofName?) <*>
      optional ms "created_by" "" text

/-- Checks a request to save, which only says who asks. -/
def checkSave : Json → Checked String :=
  record .request fun ms ↦ optional ms "user_id" "" text

structure StatusRequest where
  status : PolicyStatus
  user : String

def StatusRequest.check : Json → Checked StatusRequest :=
  record .request fun ms ↦
    mk <$> required ms "status" (choice PolicyStatus.ofName?) <*> optional ms "user_id" "" text

/-! ## Routes -/

/-- What can be asked for. -/
inductive Route where
  | health
  | info
  | kinds
  | catalog
  | kind (tag : String)
  | validate
  | compile
  | rebuild
  | createPolicy
  | policies
  | policy (id : String)
  | openPolicy (id : String)
  | session (id : String)
  | actions (id : String)
  | save (id : String)
  | close (id : String)
  | status (id : String)

/-- The last segment of a path where it is a fixed word: a line break after the word does not
count. -/
def word (segment : String) : String :=
  if segment.back? = some '\n' then (segment.dropEnd 1).toString else segment

/-- What can be done to a policy. -/
def verbs (id verb : String) : List (String × Route) :=
  match word verb with
  | "open" => [("POST", .openPolicy id)]
  | "session" => [("GET", .session id)]
  | "actions" => [("POST", .actions id)]
  | "save" => [("POST", .save id)]
  | "close" => [("POST", .close id)]
  | "status" => [("PUT", .status id)]
  | _ => []

/-- The routes of a path, each with its method. -/
def routes (path : String) : List (String × Route) :=
  match path.splitOn "/" with
  | ["", top] => match word top with
    | "health" => [("GET", .health)]
    | "info" => [("GET", .info)]
    | "nodes" => [("GET", .kinds)]
    | "policies" => [("POST", .createPolicy), ("GET", .policies)]
    | _ => []
  | ["", "nodes", tag] =>
    if word tag == "catalog" then [("GET", .catalog)]
    else if tag == "" then []
    else [("GET", .kind tag)]
  | ["", "graphs", verb] => match word verb with
    | "validate" => [("POST", .validate)]
    | "compile" => [("POST", .compile)]
    | _ => []
  | ["", "legacy", verb] => if word verb == "reconstruct" then [("POST", .rebuild)] else []
  | ["", "policies", id] => if id == "" then [] else [("GET", .policy id)]
  | ["", "policies", id, verb] => if id == "" then [] else verbs id verb
  | _ => []

/-- A path without the slashes at its end. -/
def withoutSlashes (path : String) : String :=
  String.ofList (path.toList.reverse.dropWhile (· == '/')).reverse

/-! ## Responses -/

variable (r : Registry) (s : Settings)

/-- Runs an operation and shows its result. -/
def run {α : Type} (status : Nat) (op : Operation α) (view : α → Json) :
    StateM Service Response := do
  match ← op.run with
  | .ok a => return ⟨status, view a⟩
  | .error e => return refusal e

/-- Goes on with the checked body of a request. -/
def withBody {α : Type} (body : Option Json) (check : Json → Checked α)
    (respond : α → StateM Service Response) : StateM Service Response :=
  match ((body.elim (.fail .missing) check).under (.key "body") : Checked α) with
  | .sound a => respond a
  | .faulty faults => return badBody faults

def serviceName : Json := .str "policy-editor"

def version : Json := .str "1.0.0"

def categoryNames : Json := Json.ofStrings (r.categories.map Category.name)

/-- The value of a parameter, the last one if it is given again, and empty if it is not given. -/
def param (params : List (String × String)) (name : String) : String :=
  (params.reverse.lookup name).getD ""

/-- The kinds of a category, or those that a search finds, or all. Empty parameters do not
count. -/
def selectKinds (params : List (String × String)) : List Kind :=
  match param params "category", param params "search" with
  | "", "" => r.list
  | "", query => r.search query
  | category, _ => (Category.ofName? category).elim [] r.inCategory

/-- A graph with its validation. -/
def validation (g : Graph) : Json := .obj (Finding.report (g.validate r))

/-- Validates and compiles a graph that belongs to no policy. -/
def compileGraph (request : CompileRequest) : Operation Compiled := do
  let g ← Operation.ofResult .document (Graph.ofBody request.body)
  let findings := g.validate r
  if !Finding.areHarmless findings then
    throw (.invalidGraph none (Finding.fatalOnes findings))
  Operation.ofResult .compile (Compiled.ofGraph r g request.name request.type)

/-- Rebuilds a graph that belongs to no policy. -/
def rebuildGraph (source : ScriptSource) : Operation Graph := do
  let script ← Operation.ofResult .document source.read
  Service.withIds fun ids ↦
    let (graph, ids) := script.rebuild r s ids
    (graph.mapError .edit, ids)

/-- The response to a request for a route. -/
def respond (params : List (String × String)) (body : Option Json) :
    Route → StateM Service Response
  | .health => return {
      body := .obj [("status", .str "healthy"), ("service", serviceName), ("version", version)] }
  | .info => return {
      body := .obj [("service", serviceName), ("version", version),
        ("node_kinds", Json.ofNat r.list.length), ("categories", categoryNames r)] }
  | .kinds => return {
      body := .obj [("nodes", .arr ((selectKinds r params).map Kind.toJson)),
        ("categories", categoryNames r)] }
  | .catalog => return { body := r.catalog }
  | .kind tag => return match r.get? tag with
      | some k => { body := k.toJson }
      | none => detail 404 "Node kind not found"
  | .validate => withBody body (Body.check .request) fun body ↦
      run 200 (Operation.ofResult .document (Graph.ofBody body)) (validation r)
  | .compile => withBody body CompileRequest.check fun request ↦
      run 200 (compileGraph r request) Compiled.toJson
  | .rebuild => withBody body ScriptSource.checkRequest fun source ↦
      run 200 (rebuildGraph r s source) fun g ↦
        .obj [("graph", g.toJson), ("warnings", Json.ofStrings g.warnings),
          ("validation", validation r g)]
  | .createPolicy => withBody body CreateRequest.check fun q ↦
      run 201 (Service.createPolicy r s q.name q.description q.type q.source q.createdBy)
        Policy.toJson
  | .policies =>
      run 200 Service.listPolicies fun ps ↦ .obj [("policies", .arr (ps.map Policy.toJson))]
  | .policy id => run 200 (Service.getPolicy id) Policy.toJson
  | .openPolicy id => run 200 (Service.openPolicy r s id) (Service.view r)
  | .session id => run 200 (Service.session id) (Service.view r)
  | .actions id => withBody body (Action.checkBatch .request) fun actions ↦
      run 200 (do return (← Service.applyActions r s id actions, ← Service.session id))
        fun (results, session) ↦
          .obj [("results", .arr (results.map Performed.toJson)),
            ("session", Service.view r session)]
  | .save id =>
      match body with
      | none => run 200 (Service.savePolicy r id "") Compiled.toJson
      | body => withBody body checkSave fun user ↦
          run 200 (Service.savePolicy r id user) Compiled.toJson
  | .close id => run 200 (Service.closePolicy id) fun _ ↦
      .obj [("closed", .bool true), ("policy_id", .str id)]
  | .status id => withBody body StatusRequest.check fun q ↦
      run 200 (Service.changeStatus r s id q.status q.user) Policy.toJson

/-- The response to a request. A path that leads somewhere only without the slashes at its end is
sent there. -/
def handle (request : Request) : StateM Service Response := do
  let target := Target.ofText request.target
  match routes target.path with
  | [] =>
    return if (routes (withoutSlashes target.path)).isEmpty then detail 404 "Not Found"
      else ⟨307, .null⟩
  | found => match found.lookup request.method with
    | some route =>
      let response ← respond r s (request.params.getD target.params) request.body route
      return { response with body := carried response.body }
    | none => return detail 405 "Method Not Allowed"

end CallFlow.Http
