import CallFlow.Proofs.Service.Enabled

/-!
# Changes of status

Whether a policy goes to another status is decided by its record alone: by its status and, where it
is to be enabled, by the graph of its stored documents. What is open for editing does not matter
(`status_gate`).

A change to the status that a policy has already is to do nothing, and nothing is changed by it. But
it is not always answered: an enabled policy that is to be enabled has its documents loaded, before
anybody looks whether there is anything to change (`change_to_own_status_answers_iff`).
-/

namespace CallFlow

/-! ## Moves -/

namespace PolicyStatus

/-- The ways from one status to another. -/
inductive Moves : PolicyStatus → PolicyStatus → Prop
  | disableDraft : Moves draft disabled
  | enableDraft : Moves draft enabled
  | enable : Moves disabled enabled
  | disable : Moves enabled disabled

theorem canBecome_iff {current target : PolicyStatus} (other : target ≠ current) :
    current.canBecome target = true ↔ current.Moves target := by
  rw [canBecome, Bool.or_eq_true, beq_iff_eq, or_iff_right other.symm, List.contains_iff_mem]
  constructor
  · intro listed
    cases current with
    | draft =>
      rcases List.mem_pair.1 listed with rfl | rfl
      · exact .disableDraft
      · exact .enableDraft
    | disabled =>
      obtain rfl := List.mem_singleton.1 listed
      exact .enable
    | enabled =>
      obtain rfl := List.mem_singleton.1 listed
      exact .disable
  · rintro ⟨⟩ <;> decide

theorem isGated_iff {target : PolicyStatus} : target.isGated = true ↔ target = enabled := by
  cases target <;> decide

theorem change_self (current : PolicyStatus) (findings : Option (List Finding)) :
    current.change current findings = .ok current := if_pos (beq_self_eq_true current)

/-- Another status is given where there is a way to it, to a gated one with harmless findings. -/
theorem change_eq_ok_iff {current target status : PolicyStatus} (other : target ≠ current)
    {findings : Option (List Finding)} :
    current.change target findings = .ok status ↔ status = target ∧ current.Moves target ∧
      (target = enabled → ∃ fs, findings = some fs ∧ Finding.areHarmless fs = true) := by
  rw [change, if_neg (by simpa using other.symm), Result.refuseIf_eq_ok_iff, ← canBecome_iff other,
    ← isGated_iff, Bool.not_eq_true', Bool.not_eq_false, and_left_comm]
  refine and_congr_right fun _ ↦ ?_
  dsimp only
  cases target.isGated with
  | false => exact Result.pure_eq_ok_iff.trans (and_iff_left (absurd · Bool.false_ne_true)).symm
  | true =>
    rw [if_pos rfl]
    cases findings with
    | none =>
      constructor
      · intro h
        cases h
      · rintro ⟨-, gate⟩
        obtain ⟨_, ⟨⟩, -⟩ := gate rfl
    | some fs =>
      dsimp only
      rw [Result.refuseIf_eq_ok_iff, Bool.not_eq_true', Bool.not_eq_false, Result.pure_eq_ok_iff,
        and_comm]
      simp

end PolicyStatus

/-! ## Rows changed in place -/

namespace Table

variable {α : Type} {key : α → String} {t : Table α key}

/-- A row that is put in changed, under its own key, is changed where it is. -/
theorem rows_put_changed {a : α} (inside : a ∈ t.rows) (f : α → α) (same : key (f a) = key a) :
    (t.put (f a)).rows = t.rows.map fun b ↦ if key b = key a then f b else b := by
  rw [rows_put_of_mem (List.mem_map.2 ⟨a, inside, same.symm⟩), same]
  refine List.map_congr_left fun b hb ↦ ite_congr rfl (fun here ↦ ?_) fun _ ↦ rfl
  rw [eq_of_key_eq hb inside here]

/-- So is the row of a key, if there is one. -/
theorem rows_elim_put (t : Table α key) (k : String) {f : α → α} (same : ∀ a, key (f a) = key a) :
    ((t.get? k).elim t fun a ↦ t.put (f a)).rows =
      t.rows.map fun b ↦ if key b = k then f b else b := by
  cases found : t.get? k with
  | some a =>
    obtain ⟨inside, rfl⟩ := get?_eq_some_iff.1 found
    exact rows_put_changed inside f (same a)
  | none =>
    have others : ∀ b ∈ t.rows, ¬key b = k := fun b hb here ↦
      nomatch found.symm.trans (get?_eq_some_iff.2 ⟨hb, here⟩)
    rw [List.map_congr_left fun b hb ↦ if_neg (others b hb), List.map_id']
    rfl

end Table

/-! ## Operations on ids -/

namespace Operation

variable {α β : Type}

/-- An operation that neither reads nor changes anything but the ids. -/
def IsOnIds (op : Operation α) : Prop :=
  ∃ f : IdStream → Except Error α × IdStream,
    ∀ service, op.exec service = ((f service.ids).1, { service with ids := (f service.ids).2 })

theorem isOnIds_ofResult {ε : Type} (refusal : ε → Error) (x : Except ε α) :
    (ofResult refusal x).IsOnIds :=
  ⟨fun ids ↦ (x.mapError refusal, ids), fun service ↦ exec_ofResult service refusal x⟩

theorem isOnIds_withIds (f : IdStream → Except Error α × IdStream) :
    (Service.withIds f).IsOnIds := ⟨f, fun service ↦ Service.exec_withIds service f⟩

theorem isOnIds_pure (a : α) : IsOnIds (pure a) := ⟨fun ids ↦ (.ok a, ids), fun _ ↦ rfl⟩

namespace IsOnIds

theorem bind {op : Operation α} {f : α → Operation β} (h : op.IsOnIds) (h' : ∀ a, (f a).IsOnIds) :
    (op >>= f).IsOnIds := by
  obtain ⟨first, h⟩ := h
  choose next h' using h'
  refine ⟨fun ids ↦ match first ids with
    | (.ok a, ids) => next a ids
    | (.error e, ids) => (.error e, ids), fun service ↦ ?_⟩
  rw [exec_bind, h]
  dsimp only
  rcases first service.ids with ⟨e | a, ids⟩
  · rfl
  · exact h' a _

theorem map {op : Operation α} (h : op.IsOnIds) (f : α → β) : IsOnIds (f <$> op) := by
  rw [← bind_pure_comp]
  exact h.bind fun a ↦ isOnIds_pure (f a)

end IsOnIds

end Operation

/-! ## Answers -/

/-- A call that is made without failure. -/
def Storage.Answers (storage : Storage) (c : StorageCall) : Prop :=
  storage.reach c = (true, storage)

namespace Service

open Json Operation

variable {r : Registry} {s : Settings} {service after : Service} {id user : String} {p : Policy}
  {target : PolicyStatus}

/-- The service after a record, and the session that is open for it, was given a status. -/
def withStatus (service : Service) (p : Policy) (user : String) (status : PolicyStatus) :
    Service :=
  { service with
    storage := service.storage.put { p with status, updatedBy := user }
    sessions := (service.sessions.get? p.id).elim service.sessions fun session ↦
      service.sessions.put { session with policy.status := status } }

theorem exec_load_of_answers (answers : service.storage.Answers .load)
    (hp : service.storage.record? id = some p) : exec (load id) service = (.ok p, service) := by
  rw [load, exec_bind, exec_call, answers]
  change exec (record id) service = _
  rw [exec_record, hp]

theorem exec_setStatus (answers : service.storage.Answers .setStatus)
    (hp : service.storage.record? id = some p) (status : PolicyStatus) :
    exec (setStatus id user p status) service =
      (.ok { p with status }, service.withStatus p user status) := by
  obtain rfl : p.id = id := Table.key_of_get? hp
  simp only [setStatus, exec_bind, exec_call, show service.storage.reach .setStatus =
    (true, service.storage) from answers, exec_record, hp, exec_store, exec_get, if_true]
  cases opened : service.sessions.get? p.id with
  | none => simp only [exec_pure, withStatus, opened, Option.elim]
  | some session =>
    simp only [exec_bind, exec_putSession, exec_pure, withStatus, opened, Option.elim]

theorem isOnIds_graphOf (r : Registry) (s : Settings) (p : Policy) : (graphOf r s p).IsOnIds := by
  rw [graphOf]
  split
  · exact isOnIds_withIds _
  · exact (isOnIds_ofResult _ _).bind fun _ ↦ isOnIds_withIds _
  · exact isOnIds_ofResult _ _

theorem isOnIds_findingsFor (r : Registry) (s : Settings) (target : PolicyStatus) (p : Policy) :
    (findingsFor r s target p).IsOnIds := by
  rw [findingsFor]
  split
  · exact (isOnIds_graphOf r s p).map _
  · exact isOnIds_pure _

/-- The documents are looked at first, then the statuses, and only then the storage. -/
theorem exec_changeStatus_of_answers (loads : service.storage.Answers .load)
    (hp : service.storage.record? id = some p) (target : PolicyStatus) (user : String) :
    exec (changeStatus r s id target user) service =
      match exec (findingsFor r s target p) service with
      | (.error e, between) => (.error e, between)
      | (.ok found, between) =>
        match p.status.change target found with
        | .error e => (.error (.status e), between)
        | .ok status =>
          if status = p.status then (.ok p, between)
          else exec (setStatus id user p status) between := by
  rw [changeStatus_eq, exec_bind, exec_load_of_answers loads hp]
  dsimp only
  rw [exec_bind]
  rcases exec (findingsFor r s target p) service with ⟨e | found, between⟩
  · rfl
  dsimp only
  rw [exec_bind, exec_ofResult]
  cases p.status.change target found with
  | error e => rfl
  | ok status =>
    by_cases same : status = p.status <;> simp [Result.mapError_ok, same]

/-! ## The gate -/

/-- A status that is new is given to the record and to its session, where nothing stands in the way:
neither the documents, nor the moves that there are, nor what was found. -/
theorem exec_changeStatus (loads : service.storage.Answers .load)
    (sets : service.storage.Answers .setStatus) (hp : service.storage.record? id = some p)
    (other : target ≠ p.status) (user : String) :
    exec (changeStatus r s id target user) service =
      match exec (findingsFor r s target p) service with
      | (.error e, between) => (.error e, between)
      | (.ok found, between) =>
        match p.status.change target found with
        | .error e => (.error (.status e), between)
        | .ok _ => (.ok { p with status := target }, between.withStatus p user target) := by
  rw [exec_changeStatus_of_answers loads hp]
  rcases looked : exec (findingsFor r s target p) service with ⟨e | found, between⟩
  · rfl
  obtain ⟨⟨ids, -, rfl⟩, -⟩ := findingsFor_cases looked
  dsimp only
  cases changed : p.status.change target found with
  | error e => rfl
  | ok status =>
    obtain ⟨rfl, -⟩ := (PolicyStatus.change_eq_ok_iff other).1 changed
    have sets' : ({ service with ids } : Service).storage.Answers .setStatus := sets
    exact (if_neg other).trans (exec_setStatus sets' hp status)

/-- The service finds the graph of a record that can be run, and nothing fatal in it. -/
theorem canRun_iff_exec : service.CanRun r s p ↔ ∃ g between,
    exec (graphOf r s p) service = (.ok g, between) ∧
      Finding.areHarmless (g.validate r) = true := by
  simp only [exec_graphOf_eq_ok_iff]
  constructor
  · rintro ⟨g, ids, graph, harmless⟩
    exact ⟨g, _, ⟨ids, graph, rfl⟩, harmless⟩
  · rintro ⟨g, _, ⟨ids, graph, -⟩, harmless⟩
    exact ⟨g, ids, graph, harmless⟩

theorem canRun_iff : service.CanRun r s p ↔ ((graphOf r s p).exec service).1.toOption.any
    (fun g ↦ Finding.areHarmless (g.validate r)) = true := by
  rw [canRun_iff_exec]
  rcases exec (graphOf r s p) service with ⟨e | g, between⟩
  · simp [Except.toOption]
  · simp [Except.toOption]

instance : Decidable (service.CanRun r s p) := decidable_of_iff' _ canRun_iff

/-- Whether a record can be run does not depend on how many ids were drawn. -/
theorem canRun_iff_isRunnable (apart : p.IsApart service.ids.source) :
    service.CanRun r s p ↔ p.IsRunnable r s service.ids.source := by
  constructor
  · rintro ⟨g, ids, graph, harmless⟩
    exact graph.isRunnable apart ((g.areHarmless_validate r).1 harmless)
  · intro runs
    obtain ⟨g, ids, graph, valid⟩ := runs service.ids rfl
    exact ⟨g, ids, graph, (g.areHarmless_validate r).2 valid⟩

/-- Findings are made for a gated status only, and are harmless where the record can be run. -/
theorem exists_findings_iff : (∃ found, (exec (findingsFor r s target p) service).1 = .ok found ∧
      (target = .enabled → ∃ fs, found = some fs ∧ Finding.areHarmless fs = true)) ↔
    (target = .enabled → service.CanRun r s p) := by
  rw [findingsFor]
  split
  · rename_i gated
    obtain rfl := PolicyStatus.isGated_iff.1 gated
    rw [exec_map, canRun_iff_exec]
    rcases exec (graphOf r s p) service with ⟨e | g, between⟩
    · simp [Except.map]
    · simp [Except.map]
  · rename_i free
    have other : target ≠ .enabled := mt PolicyStatus.isGated_iff.2 free
    exact iff_of_true ⟨none, rfl, fun enabled ↦ absurd enabled other⟩
      fun enabled ↦ absurd enabled other

theorem changeStatus_succeeds_iff (loads : service.storage.Answers .load)
    (sets : service.storage.Answers .setStatus) (hp : service.storage.record? id = some p)
    (other : target ≠ p.status) (user : String) :
    (∃ answer, (exec (changeStatus r s id target user) service).1 = .ok answer) ↔
      p.status.Moves target ∧ (target = .enabled → service.CanRun r s p) := by
  rw [exec_changeStatus loads sets hp other, ← exists_findings_iff]
  rcases exec (findingsFor r s target p) service with ⟨e | found, between⟩
  · simp
  dsimp only
  cases changed : p.status.change target found with
  | error e =>
    refine iff_of_false (by simp) fun ⟨moves, _, here, gate⟩ ↦ ?_
    obtain rfl := Except.ok.inj here
    exact nomatch changed.symm.trans ((PolicyStatus.change_eq_ok_iff other).2 ⟨rfl, moves, gate⟩)
  | ok status =>
    obtain ⟨-, moves, gate⟩ := (PolicyStatus.change_eq_ok_iff other).1 changed
    exact iff_of_true ⟨_, rfl⟩ ⟨moves, found, rfl, gate⟩

/-- What it is to change the status of a record: its status and who changed it last, the status in
the session that is open for it, and nothing else, but that ids may be drawn. -/
structure GivesStatus (before : Service) (p : Policy) (user : String) (status : PolicyStatus)
    (after : Service) : Prop where
  records : after.storage.records.rows = before.storage.records.rows.map fun q ↦
    if q.id = p.id then { q with status, updatedBy := user } else q
  sessions : after.sessions.rows = before.sessions.rows.map fun session ↦
    if session.policy.id = p.id then { session with policy.status := status } else session
  timeOuts : after.storage.timeOuts = before.storage.timeOuts
  losses : after.storage.losses = before.storage.losses
  source : after.ids.source = before.ids.source

theorem givesStatus_withStatus (inside : p ∈ service.storage.records.rows) (user : String)
    (status : PolicyStatus) {ids : IdStream} (source : ids.source = service.ids.source) :
    service.GivesStatus p user status (withStatus { service with ids } p user status) where
  records := Table.rows_put_changed inside (fun q ↦ { q with status, updatedBy := user }) rfl
  sessions := service.sessions.rows_elim_put p.id
    (f := fun session ↦ { session with policy.status := status }) fun _ ↦ rfl
  timeOuts := rfl
  losses := rfl
  source := source

/-- What comes of a change to another status: the status, or a refusal that changes nothing. -/
theorem changeStatus_effect (loads : service.storage.Answers .load)
    (sets : service.storage.Answers .setStatus) (hp : service.storage.record? id = some p)
    (other : target ≠ p.status) {result : Except Error Policy}
    (h : exec (changeStatus r s id target user) service = (result, after)) :
    (∀ answer, result = .ok answer → answer = { p with status := target } ∧
      service.GivesStatus p user target after) ∧
    ∀ e, result = .error e → after.storage = service.storage ∧
      after.sessions = service.sessions := by
  rw [exec_changeStatus loads sets hp other] at h
  rcases looked : exec (findingsFor r s target p) service with ⟨e | found, between⟩
  all_goals
    obtain ⟨⟨ids, source, rfl⟩, -⟩ := findingsFor_cases looked
    rw [looked] at h
  · cases h
    exact ⟨fun _ h ↦ (nomatch h), fun _ _ ↦ ⟨rfl, rfl⟩⟩
  · dsimp only at h
    cases changed : p.status.change target found with
    | error e =>
      rw [changed] at h
      cases h
      exact ⟨fun _ h ↦ (nomatch h), fun _ _ ↦ ⟨rfl, rfl⟩⟩
    | ok status =>
      rw [changed] at h
      cases h
      refine ⟨fun answer h ↦ ⟨(Except.ok.inj h).symm, ?_⟩, fun _ h ↦ nomatch h⟩
      exact givesStatus_withStatus (Table.mem_of_get? hp) user target source

/-- What is open for editing does not matter for a change of status: what is found depends on the
record and the ids alone, and sessions come in only after the decision. -/
theorem changeStatus_congr (loads : service.storage.Answers .load)
    (sets : service.storage.Answers .setStatus) (hp : service.storage.record? id = some p)
    (other : target ≠ p.status) (user : String) (sessions : Table Session Session.key) :
    let run (service : Service) := exec (changeStatus r s id target user) service
    (run { service with sessions }).1 = (run service).1 ∧
      (run { service with sessions }).2.storage = (run service).2.storage ∧
      (run { service with sessions }).2.ids = (run service).2.ids := by
  obtain ⟨f, looked⟩ := isOnIds_findingsFor r s target p
  intro run
  have loads' : ({ service with sessions } : Service).storage.Answers .load := loads
  have same := exec_changeStatus (r := r) (s := s) loads sets hp other user
  have same' := exec_changeStatus (r := r) (s := s) loads' sets hp other user
  rw [looked] at same same'
  rw [show run service = _ from same, show run { service with sessions } = _ from same']
  dsimp only
  rcases f service.ids with ⟨e | found, ids⟩
  · exact ⟨rfl, rfl, rfl⟩
  · dsimp only
    cases p.status.change target found with
    | error e => exact ⟨rfl, rfl, rfl⟩
    | ok status => exact ⟨rfl, rfl, rfl⟩

/-- Where no call to the storage fails, a policy goes to another status exactly if there is a way to
it and, for the status that is gated, the graph of its documents is there and valid. Then its status
and that of its session change, and nothing else. It does not matter which sessions are open, with
whatever edits, nor how many ids were drawn. -/
theorem status_gate (loads : service.storage.Answers .load)
    (sets : service.storage.Answers .setStatus) (hp : service.storage.record? id = some p)
    (other : target ≠ p.status) (apart : p.IsApart service.ids.source) (user : String) :
    let run (service : Service) := (changeStatus r s id target user).exec service
    let succeeds (service : Service) := ∃ answer, (run service).1 = .ok answer
    (succeeds service ↔ p.status.Moves target ∧ (target = .enabled → service.CanRun r s p)) ∧
    (∀ answer, (run service).1 = .ok answer → answer = { p with status := target } ∧
      service.GivesStatus p user target (run service).2) ∧
    (∀ e, (run service).1 = .error e → (run service).2.storage = service.storage ∧
      (run service).2.sessions = service.sessions) ∧
    ∀ sessions,
      (run { service with sessions }).1 = (run service).1 ∧
      (run { service with sessions }).2.storage = (run service).2.storage ∧
      ∀ ids : IdStream, ids.source = service.ids.source →
        (succeeds { service with sessions, ids } ↔ succeeds service) := by
  intro run succeeds
  have succeeds_iff : succeeds service ↔
      p.status.Moves target ∧ (target = .enabled → service.CanRun r s p) :=
    changeStatus_succeeds_iff loads sets hp other user
  obtain ⟨answered, refused⟩ := changeStatus_effect loads sets hp other
    (rfl : run service = _)
  refine ⟨succeeds_iff, answered, refused, fun sessions ↦ ?_⟩
  obtain ⟨same, storage, -⟩ := changeStatus_congr loads sets hp other user sessions
    (r := r) (s := s)
  refine ⟨same, storage, fun ids source ↦ ?_⟩
  have loads' : ({ service with sessions, ids } : Service).storage.Answers .load := loads
  have succeeds_iff' : succeeds { service with sessions, ids } ↔ p.status.Moves target ∧
      (target = .enabled → CanRun r s { service with sessions, ids } p) :=
    changeStatus_succeeds_iff loads' sets hp other user
  rw [succeeds_iff, succeeds_iff', canRun_iff_isRunnable apart,
    canRun_iff_isRunnable (by rw [source]; exact apart), source]

/-! ## A draft and a broken policy -/

/-- A draft with a script and without a body. -/
def scripted : Policy where
  id := "scripted"
  name := "Scripted"
  script := canonical (.obj [("items",
    .arr [.obj [("id", .str "a"), ("type", .str "init"), ("name", .str "Start")]])])

/-- An enabled policy with a body that cannot be read. -/
def broken : Policy where
  id := "broken"
  name := "Broken"
  status := .enabled
  body := "["

/-- A service where both are open, each with its graph edited until nothing is left of it. -/
def emptied : Service where
  storage := { records := (Table.empty.put scripted).put broken }
  sessions := (Table.empty.put ⟨scripted, {}, true⟩).put ⟨broken, {}, true⟩
  ids := ⟨.listed [], 0⟩

theorem isApart_scripted : scripted.IsApart emptied.ids.source := by
  intro _ script read k
  have none : (StoredScript.ofText (scripted.script.getD "")).toOption.map StoredScript.targets =
      some [] := by decide +kernel
  rw [read] at none
  rw [show script.targets = [] from Option.some.inj none]
  exact List.not_mem_nil

/-- The draft is enabled, whatever its session holds, and the broken policy is disabled, though it
has no graph. There is no way back to a draft. -/
theorem edits_do_not_count :
    let run (p : Policy) (target : PolicyStatus) :=
      (changeStatus Catalog.registry {} p.id target "ann").exec emptied
    (∀ session ∈ emptied.sessions.rows,
      Finding.areHarmless (session.graph.validate Catalog.registry) = false) ∧
    (∃ answer, (run scripted .enabled).1 = .ok answer) ∧
    ¬emptied.CanRun Catalog.registry {} broken ∧
    (∃ answer, (run broken .disabled).1 = .ok answer) ∧
    (¬∃ answer, (run broken .draft).1 = .ok answer) := by
  intro run
  have calls : emptied.storage.Answers .load ∧ emptied.storage.Answers .setStatus := ⟨rfl, rfl⟩
  have record : emptied.storage.record? broken.id = some broken := by decide +kernel
  have named : broken.IsApart emptied.ids.source := fun none ↦ absurd none (by decide)
  refine ⟨by decide +kernel, ?_, by decide +kernel, ?_, ?_⟩
  · exact (status_gate calls.1 calls.2 (by decide +kernel) (by decide) isApart_scripted "ann").1.2
      ⟨.enableDraft, fun _ ↦ by decide +kernel⟩
  · exact (status_gate calls.1 calls.2 record (by decide) named "ann").1.2
      ⟨.disable, fun enabled ↦ nomatch enabled⟩
  · intro back
    have moves := (status_gate calls.1 calls.2 record (by decide) named "ann").1.1 back
    exact nomatch moves.1

/-! ## The status that a policy has -/

theorem exec_changeStatus_self (loads : service.storage.Answers .load)
    (hp : service.storage.record? id = some p) (user : String) :
    exec (changeStatus r s id p.status user) service =
      ((exec (findingsFor r s p.status p) service).1.map fun _ ↦ p,
        (exec (findingsFor r s p.status p) service).2) := by
  rw [exec_changeStatus_of_answers loads hp]
  rcases exec (findingsFor r s p.status p) service with ⟨e | found, between⟩
  · rfl
  dsimp only
  rw [PolicyStatus.change_self]
  exact if_pos rfl

theorem exec_changeStatus_self_of_ne (loads : service.storage.Answers .load)
    (hp : service.storage.record? id = some p) (user : String) (inactive : p.status ≠ .enabled) :
    exec (changeStatus r s id p.status user) service = (.ok p, service) := by
  rw [exec_changeStatus_self loads hp, findingsFor, if_neg (mt PolicyStatus.isGated_iff.1 inactive)]
  rfl

/-- The graph of an enabled policy is looked for, though nothing is to be changed. -/
theorem exec_changeStatus_self_of_enabled (loads : service.storage.Answers .load)
    (hp : service.storage.record? id = some p) (user : String) (enabled : p.status = .enabled) :
    exec (changeStatus r s id p.status user) service =
      ((exec (graphOf r s p) service).1.map fun _ ↦ p, (exec (graphOf r s p) service).2) := by
  rw [exec_changeStatus_self loads hp, findingsFor, if_pos (PolicyStatus.isGated_iff.2 enabled),
    exec_map]
  rcases exec (graphOf r s p) service with ⟨e | g, between⟩
  · rfl
  · rfl

/-- A change to the status that a policy has changes nothing. It is answered, with the record,
exactly if the policy is not enabled or the graph of its documents is there, and refused otherwise
for the reason for which there is no graph. -/
theorem change_to_own_status_answers_iff (loads : service.storage.Answers .load)
    (hp : service.storage.record? id = some p) (user : String) :
    let done := (changeStatus r s id p.status user).exec service
    (done.2.storage = service.storage ∧ done.2.sessions = service.sessions) ∧
    (done.1 = .ok p ↔ (p.status = .enabled → ∃ g ids, p.HasGraph r s service.ids g ids)) ∧
    ∀ e, done.1 = .error e ↔ p.status = .enabled ∧ p.LacksGraph r s service.ids e := by
  intro done
  simp only [← exec_graphOf_fst_eq_error_iff, ← exec_graphOf_fst_eq_ok_iff]
  by_cases enabled : p.status = .enabled
  · have run : done = _ := exec_changeStatus_self_of_enabled loads hp user enabled
    rcases looked : exec (graphOf r s p) service with ⟨e | g, between⟩
    all_goals
      obtain ⟨ids, -, rfl⟩ := exec_graphOf_frame looked
      rw [run, looked]
    · exact ⟨⟨rfl, rfl⟩, by simp [enabled, Except.map], by simp [enabled, Except.map]⟩
    · exact ⟨⟨rfl, rfl⟩, by simp [enabled, Except.map], by simp [enabled, Except.map]⟩
  · have run : done = _ := exec_changeStatus_self_of_ne loads hp user enabled
    rw [run]
    exact ⟨⟨rfl, rfl⟩, iff_of_true rfl fun h ↦ absurd h enabled, by simp [enabled]⟩

/-- A policy with a script may be enabled, and then asked to be enabled again. -/
theorem scripted_policy_is_enabled_twice :
    let live : Policy := { scripted with status := .enabled }
    let service : Service := { emptied with storage := emptied.storage.put live }
    live.status = .enabled ∧
      ((changeStatus Catalog.registry {} live.id live.status "ann").exec service).1 = .ok live := by
  intro live service
  have loads : service.storage.Answers .load := rfl
  have runs : service.CanRun Catalog.registry {} live := by decide +kernel
  obtain ⟨g, ids, graph, -⟩ := runs
  exact ⟨rfl, (change_to_own_status_answers_iff loads (by decide +kernel) "ann").2.1.2 fun _ ↦
    ⟨g, ids, graph⟩⟩

/-- But one whose body cannot be read is not enabled again, though it is enabled. -/
theorem broken_policy_is_not_left_enabled :
    broken.status = .enabled ∧ emptied.storage.Answers .load ∧
    emptied.storage.record? broken.id = some broken ∧
    ∃ e, ((changeStatus Catalog.registry {} broken.id broken.status "ann").exec emptied).1 =
      .error e := by
  have record : emptied.storage.record? broken.id = some broken := by decide +kernel
  have loads : emptied.storage.Answers .load := rfl
  have unread : ((graphOf Catalog.registry {} broken).exec emptied).1.toBool = false := by
    decide +kernel
  refine ⟨rfl, loads, record, ?_⟩
  rw [exec_changeStatus_self_of_enabled loads record "ann" rfl]
  rcases looked : (graphOf Catalog.registry {} broken).exec emptied with ⟨e | g, after⟩
  · exact ⟨e, rfl⟩
  · rw [looked] at unread
    cases unread

end Service

end CallFlow
