import CallFlow.Policy
import CallFlow.Table

/-!
# Storage

Where the records of policies are kept between requests. A call to the storage can fail: it times
out, or the records are gone by the time it is made.
-/

namespace CallFlow

/-- The calls that are made to the storage. -/
inductive StorageCall where
  | create
  | get
  | list
  | load
  | save
  | setStatus
deriving DecidableEq, Repr

namespace StorageCall

def all : List StorageCall := [.create, .get, .list, .load, .save, .setStatus]

def name : StorageCall → String
  | create => "create"
  | get => "get"
  | list => "list"
  | load => "load"
  | save => "save"
  | setStatus => "set_status"

def ofName? (s : String) : Option StorageCall := all.find? (·.name == s)

end StorageCall

/-- The stored records, in the order in which they were created, and the failures to come. -/
structure Storage where
  records : Table Policy Policy.id := .empty
  /-- The calls of which the next one times out. -/
  timeOuts : List StorageCall := []
  /-- The calls before which all records get lost. -/
  losses : List StorageCall := []

namespace Storage

/-- The record of a policy. -/
def record? (storage : Storage) (id : String) : Option Policy := storage.records.get? id

/-- Puts a record in the place of the one with its id, or at the end. -/
def put (storage : Storage) (p : Policy) : Storage :=
  { storage with records := storage.records.put p }

/-- Deletes the record of a policy. -/
def erase (storage : Storage) (id : String) : Storage :=
  { storage with records := storage.records.erase id }

/-- Whether a call reaches the storage, and the storage that it finds there. -/
def reach (storage : Storage) (call : StorageCall) : Bool × Storage :=
  if storage.timeOuts.contains call then
    (false, { storage with timeOuts := storage.timeOuts.filter (· != call) })
  else if storage.losses.contains call then (true, { storage with records := .empty })
  else (true, storage)

end Storage

end CallFlow
