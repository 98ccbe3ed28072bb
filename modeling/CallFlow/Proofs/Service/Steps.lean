import CallFlow.Proofs.Graph.Issued
import CallFlow.Proofs.Result
import CallFlow.Proofs.Script.Rebuild
import CallFlow.Proofs.Service.Operation

/-!
# What operations do

One lemma for each operation of the service: it is refused, and then at most records got lost and
ids were drawn (`Fades`), or it is answered, and then the state after it is given by the state
before it.
-/

namespace CallFlow

/-! ## Statuses -/

/-- A status that is new was asked for, and a gated one only goes with harmless findings. -/
theorem PolicyStatus.change_eq_ok {current target status : PolicyStatus}
    {findings : Option (List Finding)} (h : current.change target findings = .ok status) :
    status = current ∨ status = target ∧
      (target.isGated = true → ∃ fs, findings = some fs ∧ Finding.areHarmless fs = true) := by
  rw [change] at h
  split at h
  · cases h
    exact .inl rfl
  · obtain ⟨-, h⟩ := Result.refuseIf_eq_ok_iff.1 h
    split at h
    · rename_i gated
      cases findings with
      | none => cases h
      | some fs =>
        obtain ⟨harmless, h⟩ := Result.refuseIf_eq_ok_iff.1 h
        cases h
        exact .inr ⟨rfl, fun _ ↦ ⟨fs, rfl, by simpa using harmless⟩⟩
    · rename_i free
      cases h
      exact .inr ⟨rfl, fun gated ↦ absurd gated free⟩

/-! ## Records -/

/-- The records stay as they are, unless all of them get lost as the storage was to lose them. -/
def Storage.KeepsRecords (before after : Storage) : Prop :=
  after.records = before.records ∨ before.losses ≠ [] ∧ after.records = .empty

/-! ## Graphs of records -/

/-- The graph of a record, with the ids before and after it: that of the body, of the script, or a
fresh one. -/
inductive Policy.HasGraph (r : Registry) (s : Settings) (p : Policy) (ids : IdStream) :
    Graph → IdStream → Prop
  | body {g : Graph} (some : p.body.getD "" ≠ "")
    (loaded : Graph.ofBodyText (p.body.getD "") = .ok g) : HasGraph r s p ids g ids
  | script {script : StoredScript} {g : Graph} {ids' : IdStream} (none : p.body.getD "" = "")
    (some : p.script.getD "" ≠ "") (read : StoredScript.ofText (p.script.getD "") = .ok script)
    (rebuilt : script.rebuild r s ids = (.ok g, ids')) : HasGraph r s p ids g ids'
  | fresh {c : Canvas} (none : p.body.getD "" = "") (none' : p.script.getD "" = "")
    (made : Canvas.fresh r s ids = .ok c) : HasGraph r s p ids c.graph c.ids

/-- Why a record has no graph: its body, or its script if there is no body, cannot be read, or no
graph can be made of the script, or no fresh one if there is no script either. -/
inductive Policy.LacksGraph (r : Registry) (s : Settings) (p : Policy) (ids : IdStream) :
    Error → Prop
  | body {e : DocumentError} (some : p.body.getD "" ≠ "")
    (unread : Graph.ofBodyText (p.body.getD "") = .error e) : LacksGraph r s p ids (.document e)
  | script {e : DocumentError} (none : p.body.getD "" = "") (some : p.script.getD "" ≠ "")
    (unread : StoredScript.ofText (p.script.getD "") = .error e) :
    LacksGraph r s p ids (.document e)
  | rebuilt {script : StoredScript} {e : EditError} (none : p.body.getD "" = "")
    (some : p.script.getD "" ≠ "") (read : StoredScript.ofText (p.script.getD "") = .ok script)
    (refused : (script.rebuild r s ids).1 = .error e) : LacksGraph r s p ids (.edit e)
  | fresh {e : EditError} (none : p.body.getD "" = "") (none' : p.script.getD "" = "")
    (refused : Canvas.fresh r s ids = .error e) : LacksGraph r s p ids (.edit e)

theorem Policy.HasGraph.source {r : Registry} {s : Settings} {p : Policy} {ids ids' : IdStream}
    {g : Graph} (h : p.HasGraph r s ids g ids') : ids'.source = ids.source := by
  cases h with
  | body => rfl
  | script _ _ _ rebuilt => exact (StoredScript.rebuild_spec rebuilt).2
  | fresh _ _ made => exact Canvas.source_fresh made

namespace Service

open Operation

variable {r : Registry} {s : Settings} {service after : Service}

theorem exec_freshGraph : exec (freshGraph r s) service = match Canvas.fresh r s service.ids with
    | .ok c => (.ok c.graph, { service with ids := c.ids })
    | .error e => (.error (.edit e), service) := by
  rw [freshGraph, exec_withIds]
  cases Canvas.fresh r s service.ids <;> rfl

theorem exec_freshGraph_eq_ok_iff {g : Graph} :
    exec (freshGraph r s) service = (.ok g, after) ↔
      ∃ c, Canvas.fresh r s service.ids = .ok c ∧ g = c.graph ∧
        after = { service with ids := c.ids } := by
  rw [exec_freshGraph]
  cases Canvas.fresh r s service.ids with
  | error e => exact ⟨fun h ↦ (nomatch h), fun ⟨_, h, _⟩ ↦ (nomatch h)⟩
  | ok c =>
    constructor
    · intro h
      cases h
      exact ⟨c, rfl, rfl, rfl⟩
    · rintro ⟨_, ⟨⟩, rfl, rfl⟩
      rfl

theorem exec_freshGraph_fst_eq_error_iff {e : Error} :
    (exec (freshGraph r s) service).1 = .error e ↔
      ∃ e', Canvas.fresh r s service.ids = .error e' ∧ .edit e' = e := by
  rw [exec_freshGraph]
  cases Canvas.fresh r s service.ids <;> simp

theorem exec_rebuiltGraph (text : String) : exec (rebuiltGraph r s text) service =
    match StoredScript.ofText text with
    | .ok script => ((script.rebuild r s service.ids).1.mapError .edit,
      { service with ids := (script.rebuild r s service.ids).2 })
    | .error e => (.error (.document e), service) := by
  rw [rebuiltGraph, exec_bind, exec_ofResult]
  cases StoredScript.ofText text with
  | error e => rfl
  | ok script => exact exec_withIds _ _

theorem exec_rebuiltGraph_eq_ok_iff {text : String} {g : Graph} :
    exec (rebuiltGraph r s text) service = (.ok g, after) ↔
      ∃ script ids, StoredScript.ofText text = .ok script ∧
        script.rebuild r s service.ids = (.ok g, ids) ∧ after = { service with ids } := by
  rw [exec_rebuiltGraph]
  cases StoredScript.ofText text with
  | error e => exact ⟨fun h ↦ (nomatch h), fun ⟨_, _, h, _⟩ ↦ (nomatch h)⟩
  | ok script =>
    constructor
    · intro h
      obtain ⟨rebuilt, rfl⟩ := Prod.mk.inj h
      exact ⟨script, _, rfl, Prod.ext (Result.mapError_eq_ok_iff.1 rebuilt) rfl, rfl⟩
    · rintro ⟨_, ids, ⟨⟩, rebuilt, rfl⟩
      dsimp only
      rw [rebuilt]
      rfl

theorem exec_rebuiltGraph_fst_eq_error_iff {text : String} {e : Error} :
    (exec (rebuiltGraph r s text) service).1 = .error e ↔
      (∃ e', StoredScript.ofText text = .error e' ∧ .document e' = e) ∨
        ∃ script e', StoredScript.ofText text = .ok script ∧
          (script.rebuild r s service.ids).1 = .error e' ∧ .edit e' = e := by
  rw [exec_rebuiltGraph]
  cases StoredScript.ofText text <;> simp [Result.mapError_eq_error_iff]

/-- The graph of a record is found as its documents say, and nothing but ids changes. -/
theorem exec_graphOf_eq_ok_iff {p : Policy} {g : Graph} :
    exec (graphOf r s p) service = (.ok g, after) ↔
      ∃ ids, p.HasGraph r s service.ids g ids ∧ after = { service with ids } := by
  rw [graphOf]
  split
  · rename_i none none'
    rw [exec_freshGraph_eq_ok_iff]
    constructor
    · rintro ⟨c, made, rfl, rfl⟩
      exact ⟨_, .fresh none none' made, rfl⟩
    · rintro ⟨ids, found, rfl⟩
      cases found with
      | body some => exact absurd none some
      | script _ some => exact absurd none' some
      | fresh _ _ made => exact ⟨_, made, rfl, rfl⟩
  · rename_i none some
    rw [exec_rebuiltGraph_eq_ok_iff]
    constructor
    · rintro ⟨script, ids, read, rebuilt, rfl⟩
      exact ⟨ids, .script none some read rebuilt, rfl⟩
    · rintro ⟨ids, found, rfl⟩
      cases found with
      | body some => exact absurd none some
      | script _ _ read rebuilt => exact ⟨_, _, read, rebuilt, rfl⟩
      | fresh _ none' => exact absurd none' some
  · rename_i some _
    rw [exec_ofResult, Prod.mk.injEq, Result.mapError_eq_ok_iff]
    constructor
    · rintro ⟨loaded, rfl⟩
      exact ⟨_, .body some loaded, rfl⟩
    · rintro ⟨ids, found, rfl⟩
      cases found with
      | body _ loaded => exact ⟨loaded, rfl⟩
      | script none => exact absurd none some
      | fresh none => exact absurd none some

theorem exec_graphOf_fst_eq_ok_iff {p : Policy} :
    (∃ g, (exec (graphOf r s p) service).1 = .ok g) ↔
      ∃ g ids, p.HasGraph r s service.ids g ids := by
  refine exists_congr fun g ↦ ⟨fun found ↦ ?_, fun ⟨ids, graph⟩ ↦ ?_⟩
  · obtain ⟨ids, graph, -⟩ := exec_graphOf_eq_ok_iff.1 (Prod.ext found rfl)
    exact ⟨ids, graph⟩
  · exact congrArg Prod.fst (exec_graphOf_eq_ok_iff.2 ⟨ids, graph, rfl⟩)

/-- The graph of a record is refused as its documents say. -/
theorem exec_graphOf_fst_eq_error_iff {p : Policy} {e : Error} :
    (exec (graphOf r s p) service).1 = .error e ↔ p.LacksGraph r s service.ids e := by
  rw [graphOf]
  split
  · rename_i none none'
    rw [exec_freshGraph_fst_eq_error_iff]
    constructor
    · rintro ⟨e', refused, rfl⟩
      exact .fresh none none' refused
    · intro lacks
      cases lacks with
      | body some => exact absurd none some
      | script _ some | rebuilt _ some => exact absurd none' some
      | fresh _ _ refused => exact ⟨_, refused, rfl⟩
  · rename_i none some
    rw [exec_rebuiltGraph_fst_eq_error_iff]
    constructor
    · rintro (⟨e', unread, rfl⟩ | ⟨script, e', read, refused, rfl⟩)
      · exact .script none some unread
      · exact .rebuilt none some read refused
    · intro lacks
      cases lacks with
      | body some => exact absurd none some
      | script _ _ unread => exact .inl ⟨_, unread, rfl⟩
      | rebuilt _ _ read refused => exact .inr ⟨_, _, read, refused, rfl⟩
      | fresh _ none' => exact absurd none' some
  · rename_i some _
    rw [exec_ofResult, Result.mapError_eq_error_iff]
    constructor
    · rintro ⟨e', unread, rfl⟩
      exact .body some unread
    · intro lacks
      cases lacks with
      | body _ unread => exact ⟨_, unread, rfl⟩
      | script none | rebuilt none | fresh none => exact absurd none some

/-! ## Refused operations -/

/-- What happens to the state beside what an operation is for: ids are drawn, and the storage may
have lost its records. -/
structure Fades (before after : Service) : Prop where
  sessions : after.sessions = before.sessions
  records : before.storage.KeepsRecords after.storage
  losses : after.storage.losses = before.storage.losses
  source : after.ids.source = before.ids.source

namespace Fades

theorem refl (service : Service) : Fades service service := ⟨rfl, .inl rfl, rfl, rfl⟩

theorem trans {a b c : Service} (h : Fades a b) (h' : Fades b c) : Fades a c where
  sessions := h'.sessions.trans h.sessions
  records := by
    rcases h'.records with same | ⟨lossy, lost⟩
    · exact h.records.imp same.trans fun ⟨lossy, lost⟩ ↦ ⟨lossy, same.trans lost⟩
    · exact .inr ⟨h.losses ▸ lossy, lost⟩
  losses := h'.losses.trans h.losses
  source := h'.source.trans h.source

theorem reach (service : Service) (c : StorageCall) :
    Fades service { service with storage := (service.storage.reach c).2 } := by
  rw [Storage.reach]
  split
  · exact ⟨rfl, .inl rfl, rfl, rfl⟩
  · split
    · rename_i lossy
      refine ⟨rfl, .inr ⟨fun none ↦ ?_, rfl⟩, rfl, rfl⟩
      rw [none] at lossy
      cases lossy
    · exact .refl service

theorem draw (service : Service) {ids : IdStream} (h : ids.source = service.ids.source) :
    Fades service { service with ids } := ⟨rfl, .inl rfl, rfl, h⟩

theorem rows_subset {before after : Service} (h : Fades before after) :
    after.storage.records.rows ⊆ before.storage.records.rows := by
  rcases h.records with same | ⟨-, lost⟩
  · exact same ▸ List.Subset.refl _
  · exact lost ▸ List.nil_subset _

end Fades

theorem exec_freshGraph_frame {result : Except Error Graph}
    (h : exec (freshGraph r s) service = (result, after)) :
    ∃ ids, ids.source = service.ids.source ∧ after = { service with ids } := by
  rw [exec_freshGraph] at h
  cases made : Canvas.fresh r s service.ids with
  | error e =>
    rw [made] at h
    cases h
    exact ⟨_, rfl, rfl⟩
  | ok c =>
    rw [made] at h
    cases h
    exact ⟨_, Canvas.source_fresh made, rfl⟩

/-- Nothing but ids changes while the graph of a record is looked for. -/
theorem exec_graphOf_frame {p : Policy} {result : Except Error Graph}
    (h : exec (graphOf r s p) service = (result, after)) :
    ∃ ids, ids.source = service.ids.source ∧ after = { service with ids } := by
  obtain rfl : (exec (graphOf r s p) service).2 = after := congrArg Prod.snd h
  rw [graphOf]
  split
  · exact exec_freshGraph_frame (Prod.ext rfl rfl)
  · rw [exec_rebuiltGraph]
    cases StoredScript.ofText (p.script.getD "") with
    | error e => exact ⟨_, rfl, rfl⟩
    | ok script => exact ⟨_, script.source_rebuild, rfl⟩
  · rw [exec_ofResult]
    exact ⟨_, rfl, rfl⟩

/-- Where a record is found after a call, the call lost nothing. -/
theorem reach_eq_self {storage : Storage} {c : StorageCall} (reached : (storage.reach c).1 = true)
    {id : String} {p : Policy} (hp : (storage.reach c).2.record? id = some p) :
    (storage.reach c).2 = storage := by
  rw [Storage.reach] at reached hp ⊢
  split at reached
  · cases reached
  · rename_i answered
    rw [if_neg answered] at hp ⊢
    split at hp
    · simp [Storage.record?, Table.get?, Table.rows_empty] at hp
    · rename_i kept
      rw [if_neg kept]

/-! ## Reading -/

theorem call_fades {c : StorageCall} {result : Except Error Unit}
    (h : exec (call c) service = (result, after)) : Fades service after := by
  rw [exec_call] at h
  obtain ⟨-, rfl⟩ := Prod.mk.inj h
  exact .reach service c

/-- A call to the storage, and the record of a policy after it. -/
def fetch (c : StorageCall) (id : String) : Operation Policy := do
  call c
  record id

theorem getPolicy_eq (id : String) : getPolicy id = fetch .get id := rfl

theorem load_eq (id : String) : load id = fetch .load id := rfl

theorem call_bind_record {α : Type} (c : StorageCall) (id : String) (f : Policy → Operation α) :
    (call c >>= fun _ ↦ record id >>= f) = fetch c id >>= f := (bind_assoc _ _ _).symm

theorem fetch_eq_ok {c : StorageCall} {id : String} {p : Policy}
    (h : exec (fetch c id) service = (.ok p, after)) :
    service.storage.record? id = some p ∧ service = after := by
  simp only [fetch, exec_bind, exec_call, exec_record] at h
  cases reached : (service.storage.reach c).1 with
  | false => simp [reached] at h
  | true =>
    cases hp : (service.storage.reach c).2.record? id with
    | none => simp [reached, hp] at h
    | some p' =>
      have kept := reach_eq_self reached hp
      simp only [reached, if_true, hp] at h
      rw [kept] at hp h
      cases h
      exact ⟨hp, rfl⟩

/-- A record that is not fetched is no matter of the compiler. -/
theorem fetch_eq_error {c : StorageCall} {id : String} {e : Error}
    (h : exec (fetch c id) service = (.error e, after)) :
    Fades service after ∧ ∀ refusal, e ≠ .compile refusal := by
  rw [fetch] at h
  rcases bind_cases h with ⟨e', failed, ⟨⟩⟩ | ⟨_, between, called, h⟩
  · refine ⟨call_fades failed, ?_⟩
    rw [exec_call] at failed
    split at failed
    · cases failed
    · cases failed
      rintro _ ⟨⟩
  · rw [exec_record] at h
    cases hp : between.storage.record? id with
    | none =>
      rw [hp] at h
      cases h
      exact ⟨call_fades called, by rintro _ ⟨⟩⟩
    | some p =>
      rw [hp] at h
      cases h

/-- Nothing happens to the state when records are looked up. -/
theorem getPolicy_fades {id : String} {result : Except Error Policy}
    (h : (getPolicy id).exec service = (result, after)) : Fades service after := by
  rw [getPolicy_eq] at h
  cases result with
  | error e => exact (fetch_eq_error h).1
  | ok p =>
    obtain ⟨-, rfl⟩ := fetch_eq_ok h
    exact .refl service

theorem listPolicies_fades {result : Except Error (List Policy)}
    (h : listPolicies.exec service = (result, after)) : Fades service after := by
  rw [listPolicies] at h
  rcases bind_cases h with ⟨e, failed, rfl⟩ | ⟨_, _, called, h⟩
  · exact call_fades failed
  · cases h
    exact call_fades called

/-! ## Saving -/

/-- A save compiles the graph of a session, if it is valid, and stores the documents. -/
theorem savePolicy_cases {id user : String} {result : Except Error Compiled}
    (h : (savePolicy r id user).exec service = (result, after)) :
    (∃ e, result = .error e ∧ Fades service after ∧ ∀ refusal, e = .compile refusal →
      ∃ session : Session, Finding.areHarmless (session.graph.validate r) = true ∧
        Compiled.ofGraph r session.graph session.policy.name session.policy.type =
          .error refusal) ∨
    ∃ (session : Session) (stored : Policy) (c : Compiled), result = .ok c ∧
      service.sessions.get? id = some session ∧
      Finding.areHarmless (session.graph.validate r) = true ∧
      Compiled.ofGraph r session.graph session.policy.name session.policy.type = .ok c ∧
      service.storage.record? id = some stored ∧
      after = { service with
        storage := service.storage.put
          { stored with body := c.body, script := c.script, updatedBy := user }
        sessions := service.sessions.put { session with
          policy := { session.policy with body := c.body, script := c.script }
          dirty := false } } := by
  rw [savePolicy] at h
  rcases bind_cases h with ⟨e, failed, rfl⟩ | ⟨session, _, opened, h⟩
  · obtain ⟨rfl, rfl⟩ := session_eq_error failed
    exact .inl ⟨_, rfl, .refl service, by rintro _ ⟨⟩⟩
  obtain ⟨hs, rfl⟩ := session_eq_ok opened
  dsimp only at h
  rw [exec_refuseIf] at h
  split at h
  · cases h
    exact .inl ⟨_, rfl, .refl service, by rintro _ ⟨⟩⟩
  rename_i harmless
  have harmless : Finding.areHarmless (session.graph.validate r) = true := by simpa using harmless
  rcases bind_cases h with ⟨e, failed, rfl⟩ | ⟨c, _, compiled, h⟩
  · obtain ⟨⟨refusal, hc, rfl⟩, rfl⟩ := ofResult_eq_error failed
    refine .inl ⟨_, rfl, .refl service, fun _ same ↦ ⟨session, harmless, ?_⟩⟩
    cases same
    exact hc
  obtain ⟨hc, rfl⟩ := ofResult_eq_ok compiled
  rw [call_bind_record] at h
  rcases bind_cases h with ⟨e, failed, rfl⟩ | ⟨stored, _, found, h⟩
  · obtain ⟨fades, other⟩ := fetch_eq_error failed
    exact .inl ⟨e, rfl, fades, fun refusal same ↦ absurd same (other refusal)⟩
  obtain ⟨hp, rfl⟩ := fetch_eq_ok found
  cases h
  exact .inr ⟨session, stored, c, rfl, hs, harmless, hc, hp, rfl⟩

/-! ## Opening and closing -/

/-- An opened policy is the record as it is stored, with its graph. -/
theorem openPolicy_cases {id : String} {result : Except Error Session}
    (h : (openPolicy r s id).exec service = (result, after)) :
    (∃ e, result = .error e ∧ Fades service after) ∨
    ∃ p g ids, result = .ok { policy := p, graph := g } ∧ service.storage.record? id = some p ∧
      p.HasGraph r s service.ids g ids ∧
      after = { service with
        ids
        sessions := service.sessions.put { policy := p, graph := g } } := by
  rw [openPolicy, load_eq] at h
  rcases bind_cases h with ⟨e, failed, rfl⟩ | ⟨p, _, loaded, h⟩
  · exact .inl ⟨e, rfl, (fetch_eq_error failed).1⟩
  obtain ⟨hp, rfl⟩ := fetch_eq_ok loaded
  rcases bind_cases h with ⟨e, failed, rfl⟩ | ⟨g, _, found, h⟩
  · obtain ⟨ids, source, rfl⟩ := exec_graphOf_frame failed
    exact .inl ⟨e, rfl, .draw service source⟩
  obtain ⟨ids, graph, rfl⟩ := exec_graphOf_eq_ok_iff.1 found
  cases h
  exact .inr ⟨p, g, ids, rfl, hp, graph, rfl⟩

theorem closePolicy_cases {id : String} {result : Except Error Unit}
    (h : (closePolicy id).exec service = (result, after)) :
    (∃ e, result = .error e ∧ after = service) ∨
    ∃ session, result = .ok ⟨⟩ ∧ service.sessions.get? id = some session ∧
      after = { service with sessions := service.sessions.erase id } := by
  rw [closePolicy] at h
  rcases bind_cases h with ⟨e, failed, rfl⟩ | ⟨session, _, opened, h⟩
  · exact .inl ⟨e, rfl, (session_eq_error failed).2.symm⟩
  obtain ⟨hs, rfl⟩ := session_eq_ok opened
  cases h
  exact .inr ⟨session, rfl, hs, rfl⟩

/-! ## Editing -/

/-- A batch of actions is performed on the graph of a session. -/
theorem applyActions_cases {id : String} {actions : List Action}
    {result : Except Error (List Performed)}
    (h : (applyActions r s id actions).exec service = (result, after)) :
    (∃ e, result = .error e ∧ after = service) ∨
    ∃ session c, service.sessions.get? id = some session ∧
      Canvas.performAll r s actions ⟨session.graph, service.ids⟩ = (result, c) ∧
      after = { service with
        ids := c.ids
        sessions := service.sessions.put
          { session with graph := c.graph, dirty := session.dirty || result.toBool } } := by
  rw [applyActions] at h
  rcases bind_cases h with ⟨e, failed, rfl⟩ | ⟨session, _, opened, h⟩
  · exact .inl ⟨e, rfl, (session_eq_error failed).2.symm⟩
  obtain ⟨hs, rfl⟩ := session_eq_ok opened
  simp only [exec_bind, exec_get, exec_set, exec_ofResult] at h
  rcases performed : Canvas.performAll r s actions ⟨session.graph, service.ids⟩ with ⟨result', c⟩
  simp only [performed] at h
  obtain ⟨rfl, rfl⟩ := Prod.mk.inj h
  have same : result'.mapError (fun e ↦ e) = result' := by cases result' <;> rfl
  exact .inr ⟨session, c, hs, by rw [performed, same], by rw [same]⟩

/-! ## Creating -/

/-- A policy is created with the documents of a fresh graph. -/
theorem createPolicy_cases {name description : String} {type : PolicyType} {source : PolicySource}
    {createdBy : String} {result : Except Error Policy}
    (h : (createPolicy r s name description type source createdBy).exec service = (result, after)) :
    (∃ e, result = .error e ∧ Fades service after) ∨
    ∃ (canvas : Canvas) (compiled : Compiled) (policy : Policy) (storage : Storage),
      result = .ok policy ∧
      Canvas.fresh r s service.ids.draw.2 = .ok canvas ∧
      Compiled.ofGraph r canvas.graph name type = .ok compiled ∧
      policy = {
        id := service.ids.draw.1, name, description, source, type, createdBy
        updatedBy := createdBy
        body := compiled.body
        script := compiled.script } ∧
      Fades service { service with ids := canvas.ids, storage } ∧
      after = { service with ids := canvas.ids, storage := storage.put policy } := by
  rw [createPolicy, exec_bind, exec_withIds] at h
  rcases bind_cases h with ⟨e, failed, rfl⟩ | ⟨graph, _, found, h⟩
  · obtain ⟨ids, source, rfl⟩ := exec_freshGraph_frame failed
    exact .inl ⟨e, rfl, .draw service (source.trans service.ids.source_draw)⟩
  obtain ⟨canvas, fresh, rfl, rfl⟩ := exec_freshGraph_eq_ok_iff.1 found
  have drawn : Fades service { service with ids := canvas.ids } :=
    .draw service ((Canvas.source_fresh fresh).trans service.ids.source_draw)
  rcases bind_cases h with ⟨e, failed, rfl⟩ | ⟨compiled, _, answered, h⟩
  · obtain ⟨-, rfl⟩ := ofResult_eq_error failed
    exact .inl ⟨e, rfl, drawn⟩
  obtain ⟨hc, rfl⟩ := ofResult_eq_ok answered
  rcases bind_cases h with ⟨e, failed, rfl⟩ | ⟨_, _, called, h⟩
  · exact .inl ⟨e, rfl, drawn.trans (call_fades failed)⟩
  have reach := drawn.trans (call_fades called)
  rw [exec_call] at called
  obtain ⟨-, rfl⟩ := Prod.mk.inj called
  cases h
  exact .inr ⟨canvas, compiled, _, _, rfl, fresh, hc, rfl, reach, rfl⟩

/-! ## Changing the status -/

/-- What is found wrong with the graph of a record, if the target asks for it. -/
def findingsFor (r : Registry) (s : Settings) (target : PolicyStatus) (p : Policy) :
    Operation (Option (List Finding)) :=
  if target.isGated then (fun g : Graph ↦ some (g.validate r)) <$> graphOf r s p else pure none

/-- Gives a record, and the session that is open for it, a status. -/
def setStatus (id user : String) (p : Policy) (status : PolicyStatus) : Operation Policy := do
  call .setStatus
  let stored ← record id
  store { stored with status, updatedBy := user }
  if let some session := (← get).sessions.get? id then
    putSession { session with policy.status := status }
  return { p with status }

theorem changeStatus_eq (id : String) (target : PolicyStatus) (user : String) :
    changeStatus r s id target user = (do
      let p ← load id
      let findings ← findingsFor r s target p
      let status ← Operation.ofResult .status (p.status.change target findings)
      if status == p.status then pure p else setStatus id user p status) := by
  rw [changeStatus]
  refine congrArg _ (funext fun p ↦ ?_)
  rw [findingsFor]
  cases target.isGated <;> rfl

theorem findingsFor_cases {p : Policy} {target : PolicyStatus}
    {result : Except Error (Option (List Finding))}
    (h : exec (findingsFor r s target p) service = (result, after)) :
    (∃ ids, ids.source = service.ids.source ∧ after = { service with ids }) ∧
      ∀ fs, result = .ok (some fs) →
        ∃ g ids, p.HasGraph r s service.ids g ids ∧ fs = g.validate r := by
  rw [findingsFor] at h
  split at h
  · rw [exec_map] at h
    rcases found : exec (graphOf r s p) service with ⟨e | g, between⟩
    · rw [found] at h
      cases h
      exact ⟨exec_graphOf_frame found, fun _ h ↦ (nomatch h)⟩
    · rw [found] at h
      cases h
      obtain ⟨ids, graph, -⟩ := exec_graphOf_eq_ok_iff.1 found
      exact ⟨exec_graphOf_frame found, fun _ h ↦ ⟨g, ids, graph, by cases h; rfl⟩⟩
  · cases h
    exact ⟨⟨_, rfl, rfl⟩, fun _ h ↦ (nomatch h)⟩

theorem setStatus_cases {id user : String} {p : Policy} {status : PolicyStatus}
    {result : Except Error Policy}
    (h : exec (setStatus id user p status) service = (result, after)) :
    Fades service after ∨ ∃ stored answer, result = .ok answer ∧
      service.storage.record? id = some stored ∧
      after = { service with
        storage := service.storage.put { stored with status, updatedBy := user }
        sessions := (service.sessions.get? id).elim service.sessions fun session ↦
          service.sessions.put { session with policy.status := status } } := by
  rw [setStatus, call_bind_record] at h
  rcases bind_cases h with ⟨e, failed, rfl⟩ | ⟨stored, _, found, h⟩
  · exact .inl (fetch_eq_error failed).1
  obtain ⟨hp, rfl⟩ := fetch_eq_ok found
  simp only [exec_bind, exec_store, exec_get] at h
  cases hs : service.sessions.get? id with
  | none =>
    simp only [hs] at h
    cases h
    exact .inr ⟨stored, _, rfl, hp, rfl⟩
  | some session =>
    simp only [hs] at h
    cases h
    exact .inr ⟨stored, _, rfl, hp, rfl⟩

/-- The status of a record changes, if it is allowed to for the graph of its documents. -/
theorem changeStatus_cases {id : String} {target : PolicyStatus} {user : String}
    {result : Except Error Policy}
    (h : (changeStatus r s id target user).exec service = (result, after)) :
    Fades service after ∨
    ∃ p status ids answer, result = .ok answer ∧ service.storage.record? id = some p ∧
      ids.source = service.ids.source ∧
      (status = .enabled → ∃ g ids', p.HasGraph r s service.ids g ids' ∧
        Finding.areHarmless (g.validate r) = true) ∧
      after = { service with
        ids
        storage := service.storage.put { p with status, updatedBy := user }
        sessions := (service.sessions.get? id).elim service.sessions fun session ↦
          service.sessions.put { session with policy.status := status } } := by
  rw [changeStatus_eq, load_eq] at h
  rcases bind_cases h with ⟨e, failed, rfl⟩ | ⟨p, _, loaded, h⟩
  · exact .inl (fetch_eq_error failed).1
  obtain ⟨hp, rfl⟩ := fetch_eq_ok loaded
  rcases bind_cases h with ⟨e, failed, rfl⟩ | ⟨findings, _, found, h⟩
  · obtain ⟨ids, source, rfl⟩ := (findingsFor_cases failed).1
    exact .inl (.draw service source)
  obtain ⟨⟨ids, source, rfl⟩, graph⟩ := findingsFor_cases found
  have drawn : Fades service { service with ids } := .draw service source
  rcases bind_cases h with ⟨e, failed, rfl⟩ | ⟨status, _, answered, h⟩
  · obtain ⟨-, rfl⟩ := ofResult_eq_error failed
    exact .inl drawn
  obtain ⟨changed, rfl⟩ := ofResult_eq_ok answered
  split at h
  · cases h
    exact .inl drawn
  rename_i moved
  rcases setStatus_cases h with fades | ⟨stored, answer, rfl, hs, rfl⟩
  · exact .inl (drawn.trans fades)
  obtain rfl : p = stored := Option.some.inj (hp.symm.trans hs)
  refine .inr ⟨p, status, ids, answer, rfl, hp, source, ?_, rfl⟩
  rintro rfl
  rcases PolicyStatus.change_eq_ok changed with same | ⟨rfl, gated⟩
  · simp [same] at moved
  · obtain ⟨fs, rfl, harmless⟩ := gated rfl
    obtain ⟨g, ids', shown, rfl⟩ := graph fs rfl
    exact ⟨g, ids', shown, harmless⟩

end Service

end CallFlow
