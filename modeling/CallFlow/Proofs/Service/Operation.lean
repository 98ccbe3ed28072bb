import CallFlow.Proofs.Result
import CallFlow.Service

/-!
# Running operations

What an operation answers, and the state that it leaves behind. The answer is computed in order and
the first refusal is the answer of the whole; what was changed before it stays changed.
-/

namespace CallFlow

namespace Operation

variable {α β : Type}

/-- What an operation answers in a state, and the state after it. -/
def exec (op : Operation α) (service : Service) : Except Error α × Service :=
  (ExceptT.run op).run service

section Steps

variable (service : Service)

@[simp] theorem exec_pure (a : α) : exec (pure a) service = (.ok a, service) := rfl

@[simp] theorem exec_get : exec get service = (.ok service, service) := rfl

@[simp] theorem exec_set (after : Service) : exec (set after) service = (.ok ⟨⟩, after) := rfl

@[simp] theorem exec_modify (f : Service → Service) :
    exec (modify f) service = (.ok ⟨⟩, f service) := rfl

theorem exec_bind (op : Operation α) (f : α → Operation β) :
    exec (op >>= f) service = match op.exec service with
      | (.ok a, after) => (f a).exec after
      | (.error e, after) => (.error e, after) := by
  simp only [exec, ExceptT.run_bind, StateT.run_bind]
  change (match (ExceptT.run op).run service with | (x, after) => _) = _
  rcases (ExceptT.run op).run service with ⟨_ | _, _⟩ <;> rfl

theorem exec_map (f : α → β) (op : Operation α) :
    exec (f <$> op) service = ((op.exec service).1.map f, (op.exec service).2) := by
  rw [← bind_pure_comp, exec_bind]
  rcases op.exec service with ⟨_ | _, _⟩ <;> rfl

@[simp] theorem exec_ofResult {ε : Type} (refusal : ε → Error) (x : Except ε α) :
    exec (ofResult refusal x) service = (x.mapError refusal, service) := by
  cases x <;> rfl

end Steps

/-! ## Answers step by step -/

section Inversion

variable {service after : Service}

/-- An operation is refused by its first part, or goes on in the state where that part ends. -/
theorem bind_cases {op : Operation α} {f : α → Operation β} {result : Except Error β}
    (h : exec (op >>= f) service = (result, after)) :
    (∃ e, op.exec service = (.error e, after) ∧ result = .error e) ∨
      ∃ a between, op.exec service = (.ok a, between) ∧ (f a).exec between = (result, after) := by
  rw [exec_bind] at h
  rcases first : op.exec service with ⟨e | a, between⟩
  · rw [first] at h
    obtain ⟨rfl, rfl⟩ := Prod.mk.inj h
    exact .inl ⟨e, rfl, rfl⟩
  · rw [first] at h
    exact .inr ⟨a, between, rfl, h⟩

theorem ofResult_eq_ok {ε : Type} {refusal : ε → Error} {x : Except ε α} {a : α}
    (h : exec (ofResult refusal x) service = (.ok a, after)) : x = .ok a ∧ service = after := by
  rw [exec_ofResult] at h
  obtain ⟨hx, rfl⟩ := Prod.mk.inj h
  exact ⟨Result.mapError_eq_ok_iff.1 hx, rfl⟩

theorem ofResult_eq_error {ε : Type} {refusal : ε → Error} {x : Except ε α} {e : Error}
    (h : exec (ofResult refusal x) service = (.error e, after)) :
    (∃ e', x = .error e' ∧ e = refusal e') ∧ service = after := by
  rw [exec_ofResult] at h
  obtain ⟨hx, rfl⟩ := Prod.mk.inj h
  obtain ⟨e', failed, rfl⟩ := Result.mapError_eq_error_iff.1 hx
  exact ⟨⟨e', failed, rfl⟩, rfl⟩

end Inversion

/-- A condition under which an operation is refused before it goes on. -/
theorem exec_refuseIf {c : Bool} {e : Error} {op : Unit → Operation α} {service : Service} :
    exec (if c = true then throw e >>= op else op ()) service =
      if c = true then (.error e, service) else (op ()).exec service := by
  cases c <;> rfl

end Operation

namespace Service

open Operation

/-! ## Parts of operations -/

section Parts

variable (service : Service)

theorem exec_call (c : StorageCall) : exec (call c) service =
    (if (service.storage.reach c).1 then .ok ⟨⟩ else .error (.timeOut c),
      { service with storage := (service.storage.reach c).2 }) := by
  simp only [call, exec_bind, exec_get, exec_set]
  cases (service.storage.reach c).1 <;> rfl

theorem exec_record (id : String) : exec (record id) service =
    (match service.storage.record? id with
      | some p => .ok p
      | none => .error (.noSuchPolicy id), service) := by
  simp only [record, exec_bind, exec_get]
  cases service.storage.record? id <;> rfl

theorem exec_session (id : String) : exec (session id) service =
    (match service.sessions.get? id with
      | some s => .ok s
      | none => .error (.noSession id), service) := by
  simp only [session, exec_bind, exec_get]
  cases service.sessions.get? id <;> rfl

theorem exec_store (p : Policy) : exec (store p) service =
    (.ok ⟨⟩, { service with storage := service.storage.put p }) := rfl

theorem exec_putSession (s : Session) : exec (putSession s) service =
    (.ok ⟨⟩, { service with sessions := service.sessions.put s }) := rfl

theorem exec_withIds {α : Type} (f : IdStream → Except Error α × IdStream) :
    exec (withIds f) service = ((f service.ids).1, { service with ids := (f service.ids).2 }) := by
  simp only [withIds, exec_bind, exec_get, exec_set, exec_ofResult]
  cases (f service.ids).1 <;> rfl

end Parts

/-! ## Sessions that are looked for -/

section Sessions

variable {service after : Service} {id : String}

theorem session_eq_ok {x : Session} (h : exec (session id) service = (.ok x, after)) :
    service.sessions.get? id = some x ∧ service = after := by
  rw [exec_session] at h
  cases opened : service.sessions.get? id with
  | none =>
    rw [opened] at h
    cases h
  | some x =>
    rw [opened] at h
    cases h
    exact ⟨rfl, rfl⟩

theorem session_eq_error {e : Error} (h : exec (session id) service = (.error e, after)) :
    e = .noSession id ∧ service = after := by
  rw [exec_session] at h
  cases opened : service.sessions.get? id with
  | none =>
    rw [opened] at h
    cases h
    exact ⟨rfl, rfl⟩
  | some x =>
    rw [opened] at h
    cases h

end Sessions

end Service

end CallFlow
