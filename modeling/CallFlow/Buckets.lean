/-!
# Buckets

Values grouped under keys: the buckets stand in the order in which their keys came up, and the
values of a bucket in the order in which they were added.
-/

namespace CallFlow

/-- Values grouped under keys. -/
abbrev Buckets (κ α : Type) := List (κ × List α)

namespace Buckets

variable {κ α : Type} [DecidableEq κ]

/-- The values under a key. -/
def get : Buckets κ α → κ → List α
  | [], _ => []
  | (k, values) :: rest, key => if k = key then values else get rest key

/-- Adds a value at the end of the bucket of its key. -/
def add : Buckets κ α → κ → α → Buckets κ α
  | [], key, a => [(key, [a])]
  | (k, values) :: rest, key, a =>
    if k = key then (k, values ++ [a]) :: rest else (k, values) :: add rest key a

/-- Adding under a key puts the value at the end of that bucket and leaves the others alone. -/
theorem get_add (b : Buckets κ α) (key k : κ) (a : α) :
    (b.add key a).get k = if key = k then b.get k ++ [a] else b.get k := by
  induction b with
  | nil => by_cases h : key = k <;> simp [add, get, h]
  | cons head rest ih =>
    obtain ⟨j, values⟩ := head
    simp only [add]
    split
    next hj => subst hj; by_cases hk : j = k <;> simp [get, hk]
    next hj =>
      simp only [get, ih]
      by_cases hk : j = k
      · subst hk; simp [Ne.symm hj]
      · simp [hk]

end Buckets

end CallFlow
