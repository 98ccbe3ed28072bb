/-!
# Tables of keyed rows

Rows in the order in which their keys came up, no two with the same key. A row that is put under
a key in use takes the place of the old one.
-/

namespace CallFlow

/-- The rows with the row put in: in the place of the one with its key, or at the end. -/
def Table.putRow {α : Type} (key : α → String) (a : α) : List α → List α
  | [] => [a]
  | b :: rest => if key b = key a then a :: rest else b :: putRow key a rest

/-- Rows with distinct keys, in order. -/
structure Table (α : Type) (key : α → String) where
  rows : List α
  distinct : (rows.map key).Nodup

namespace Table

variable {α : Type} {key : α → String}

@[ext] theorem ext {s t : Table α key} (h : s.rows = t.rows) : s = t := by
  cases s; cases t; simpa using h

/-! ## Rows put in -/

/-- The keys after a row is put in: one more at the end if its key is new. -/
theorem keys_putRow (a : α) (rows : List α) :
    (putRow key a rows).map key =
      if key a ∈ rows.map key then rows.map key else rows.map key ++ [key a] := by
  induction rows with
  | nil => simp [putRow]
  | cons b rest ih =>
    by_cases h : key b = key a
    · simp [putRow, h]
    · have h' : ¬key a = key b := fun e ↦ h e.symm
      simp only [putRow, h, if_false, List.map_cons, ih, List.mem_cons, h', false_or]
      split <;> simp

theorem nodup_keys_putRow (a : α) {rows : List α} (h : (rows.map key).Nodup) :
    ((putRow key a rows).map key).Nodup := by
  rw [keys_putRow]
  split
  · exact h
  · rename_i hn
    rw [List.nodup_append]
    refine ⟨h, by simp, ?_⟩
    intro x hx y hy e
    simp only [List.mem_singleton] at hy
    exact hn (hy ▸ e ▸ hx)

/-! ## Operations -/

/-- The table without rows. -/
def empty : Table α key := ⟨[], by simp⟩

/-- The row of a key. -/
def get? (t : Table α key) (k : String) : Option α := t.rows.find? fun a ↦ key a == k

def has (t : Table α key) (k : String) : Bool := (t.get? k).isSome

def keys (t : Table α key) : List String := t.rows.map key

def size (t : Table α key) : Nat := t.rows.length

/-- Puts a row in under its key. -/
def put (t : Table α key) (a : α) : Table α key :=
  ⟨putRow key a t.rows, nodup_keys_putRow a t.distinct⟩

/-- The rows that pass a test. -/
def filter (t : Table α key) (p : α → Bool) : Table α key :=
  ⟨t.rows.filter p, t.distinct.sublist (List.filter_sublist.map key)⟩

/-- The rows under other keys. -/
def erase (t : Table α key) (k : String) : Table α key := t.filter fun a ↦ key a != k

/-! ## Views of the operations -/

@[simp] theorem rows_empty : (empty : Table α key).rows = [] := rfl

@[simp] theorem rows_filter (t : Table α key) (p : α → Bool) :
    (t.filter p).rows = t.rows.filter p := rfl

@[simp] theorem rows_erase (t : Table α key) (k : String) :
    (t.erase k).rows = t.rows.filter fun a ↦ key a != k := rfl

theorem keys_put (t : Table α key) (a : α) :
    (t.put a).keys = if key a ∈ t.keys then t.keys else t.keys ++ [key a] := keys_putRow a t.rows

theorem key_of_get? {t : Table α key} {k : String} {a : α} (h : t.get? k = some a) : key a = k := by
  simpa using List.find?_some h

theorem mem_of_get? {t : Table α key} {k : String} {a : α} (h : t.get? k = some a) : a ∈ t.rows :=
  List.mem_of_find?_eq_some h

theorem has_iff {t : Table α key} {k : String} : t.has k = true ↔ k ∈ t.keys := by
  simp [has, get?, keys, List.find?_isSome]

theorem find?_of_mem {rows : List α} (distinct : (rows.map key).Nodup) {a : α} (h : a ∈ rows) :
    rows.find? (fun b ↦ key b == key a) = some a := by
  induction rows with
  | nil => simp at h
  | cons b rest ih =>
    obtain ⟨first, distinct⟩ := List.nodup_cons.1 distinct
    rcases List.mem_cons.1 h with rfl | h
    · simp
    · have other : key b ≠ key a := fun e ↦ first (e ▸ List.mem_map_of_mem h)
      simpa [other] using ih distinct h

/-- The row of a key is the one that has it. -/
theorem get?_eq_some_iff {t : Table α key} {k : String} {a : α} :
    t.get? k = some a ↔ a ∈ t.rows ∧ key a = k := by
  constructor
  · exact fun h ↦ ⟨mem_of_get? h, key_of_get? h⟩
  · rintro ⟨h, rfl⟩
    exact find?_of_mem t.distinct h

/-- No two rows have the same key. -/
theorem eq_of_key_eq {t : Table α key} {a b : α} (ha : a ∈ t.rows) (hb : b ∈ t.rows)
    (same : key a = key b) : a = b :=
  Option.some.inj ((get?_eq_some_iff.2 ⟨ha, same⟩).symm.trans (get?_eq_some_iff.2 ⟨hb, rfl⟩))

end Table

end CallFlow
