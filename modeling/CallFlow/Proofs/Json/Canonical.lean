import CallFlow.Proofs.Binary64.Rounding
import CallFlow.Proofs.Json.Alike
import CallFlow.Proofs.Json.RoundTrip

/-!
# The canonical text as a normal form

Two values have one canonical text exactly if they are equal but for the order of names, and the
text is read back as the value with its names in order (`Json.canonical_isFaithful`). Numbers are
equal within their kind, with one exception: the zeros of both signs are one number, but two doubles
with two texts (`Json.zeros_have_two_texts`).
-/

namespace CallFlow

/-! ## Doubles as numbers -/

namespace Binary64

/-- Whether a double has a minus; the one that is no number has none. -/
def isNegative : Binary64 → Bool
  | .finite negative _ | .infinite negative => negative
  | .nan => false

/-- The doubles are one number, or neither is a number. -/
def SameNumber : Binary64 → Binary64 → Prop
  | .finite s a, .finite t b => signedQuanta s a = signedQuanta t b
  | .infinite s, .infinite t => s = t
  | .nan, .nan => True
  | _, _ => False

/-- The doubles are one number, and of one sign if they are zero. -/
def SameSignedNumber (x y : Binary64) : Prop :=
  x.SameNumber y ∧ (x.isZero = true → x.isNegative = y.isNegative)

theorem quanta_injective : quanta.Injective := by
  intro a b same
  rw [← nearestRank_quanta a Nat.one_pos, same, nearestRank_quanta b Nat.one_pos]

theorem quanta_eq_zero_iff {rank : Nat} : quanta rank = 0 ↔ rank = 0 :=
  quanta_injective.eq_iff' (quanta_of_lt (twoTo_pos 52))

/-- Magnitudes with signs are one number where both are the same, and where both are zero. -/
theorem signedQuanta_eq_iff {s t : Bool} {a b : Nat} :
    signedQuanta s a = signedQuanta t b ↔ s = t ∧ a = b ∨ a = 0 ∧ b = 0 := by
  have same : quanta a = quanta b ↔ a = b := quanta_injective.eq_iff
  have left : quanta a = 0 ↔ a = 0 := quanta_eq_zero_iff
  have right : quanta b = 0 ↔ b = 0 := quanta_eq_zero_iff
  cases s <;> cases t <;>
    simp only [signedQuanta, if_true, Bool.false_eq_true, if_false, reduceCtorEq, true_and,
      false_and, false_or] <;>
    omega

theorem eq_zero_of_isZero {x : Binary64} (h : x.isZero = true) : x = zero x.isNegative := by
  cases x with
  | finite s a => exact congrArg (finite s) (Fin.ext (beq_iff_eq.1 h))
  | infinite s => cases h
  | nan => cases h

/-- Doubles are one number if they are the same, and if both are zero. -/
theorem sameNumber_iff {x y : Binary64} :
    x.SameNumber y ↔ x = y ∨ x.isZero = true ∧ y.isZero = true := by
  constructor
  · intro h
    cases x with
    | finite s a =>
      cases y with
      | finite t b =>
        rcases signedQuanta_eq_iff.1 h with ⟨rfl, rank⟩ | ⟨left, right⟩
        · exact .inl (congrArg (finite s) (Fin.ext rank))
        · exact .inr ⟨beq_iff_eq.2 left, beq_iff_eq.2 right⟩
      | infinite t => cases h
      | nan => cases h
    | infinite s =>
      cases y with
      | infinite t => exact .inl (congrArg infinite h)
      | finite t b => cases h
      | nan => cases h
    | nan =>
      cases y with
      | nan => exact .inl rfl
      | finite t b => cases h
      | infinite t => cases h
  · rintro (rfl | ⟨left, right⟩)
    · cases x with
      | finite s a => exact signedQuanta_eq_iff.2 (.inl ⟨rfl, rfl⟩)
      | infinite s => exact rfl
      | nan => trivial
    · rw [eq_zero_of_isZero left, eq_zero_of_isZero right]
      exact signedQuanta_eq_iff.2 (.inr ⟨rfl, rfl⟩)

/-- A number with its sign is one double. -/
theorem sameSignedNumber_iff {x y : Binary64} : x.SameSignedNumber y ↔ x = y := by
  rw [SameSignedNumber, sameNumber_iff]
  constructor
  · rintro ⟨rfl | ⟨left, right⟩, sign⟩
    · rfl
    · rw [eq_zero_of_isZero left, eq_zero_of_isZero right, sign left]
  · rintro rfl
    exact ⟨.inl rfl, fun _ ↦ rfl⟩

end Binary64

namespace Json

/-! ## Equality of values -/

/-- The values are equal but for the order of names, where doubles are compared by a relation of
their own. A value is equal to one of its kind only; so a whole number is to no double. -/
inductive AlikeBy (same : Binary64 → Binary64 → Prop) : Json → Json → Prop
  | null : AlikeBy same .null .null
  | bool (b : Bool) : AlikeBy same (.bool b) (.bool b)
  | int (i : Int) : AlikeBy same (.int i) (.int i)
  | float {x y : Binary64} (h : same x y) : AlikeBy same (.float x) (.float y)
  | str (s : String) : AlikeBy same (.str s) (.str s)
  | arr {items items' : List Json} (length : items.length = items'.length)
      (each : ∀ p ∈ items.zip items', AlikeBy same p.1 p.2) :
      AlikeBy same (.arr items) (.arr items')
  | obj {ms ms' : Members} (distinct : ms.names.Nodup) (names : ms.names.Perm ms'.names)
      (each : ∀ name v v', Members.get? ms name = some v → Members.get? ms' name = some v' →
        AlikeBy same v v') : AlikeBy same (.obj ms) (.obj ms')

variable {v w : Json}

/-- Values are alike if their doubles are the same ones. -/
theorem alikeBy_iff_alike {same : Binary64 → Binary64 → Prop} (own : ∀ x y, same x y ↔ x = y) :
    v.AlikeBy same w ↔ v.Alike w := by
  constructor
  · intro h
    induction h with
    | null => exact .null
    | bool b => exact .bool b
    | int i => exact .int i
    | float h =>
      obtain rfl := (own _ _).1 h
      exact .float _
    | str s => exact .str s
    | arr length _ ih => exact .arr length ih
    | obj distinct names _ ih => exact .obj distinct names ih
  · intro h
    induction h with
    | null => exact .null
    | bool b => exact .bool b
    | int i => exact .int i
    | float x => exact .float ((own x x).2 rfl)
    | str s => exact .str s
    | arr length _ ih => exact .arr length ih
    | obj distinct names _ ih => exact .obj distinct names ih

/-- The names of every object in the value increase. -/
inductive NamesInOrder : Json → Prop
  | null : NamesInOrder .null
  | bool (b : Bool) : NamesInOrder (.bool b)
  | int (i : Int) : NamesInOrder (.int i)
  | float (x : Binary64) : NamesInOrder (.float x)
  | str (s : String) : NamesInOrder (.str s)
  | arr {items : List Json} (each : ∀ v ∈ items, NamesInOrder v) : NamesInOrder (.arr items)
  | obj {ms : Members} (inOrder : InOrder ms) (each : ∀ m ∈ ms, NamesInOrder m.2) :
      NamesInOrder (.obj ms)

/-- They do once they are put in order. -/
theorem namesInOrder_sorted (h : v.HasDistinctNames) : v.sorted.NamesInOrder := by
  induction h with
  | null => exact .null
  | bool b => exact .bool b
  | int i => exact .int i
  | float x => exact .float x
  | str s => exact .str s
  | arr _ ih =>
    rw [sorted_arr]
    exact .arr (List.forall_mem_map.2 ih)
  | @obj ms distinct _ ih =>
    rw [sorted_obj]
    refine .obj (Members.inOrder_sorted distinct) fun m hm ↦ ?_
    obtain ⟨n, hn, rfl⟩ := List.mem_map.1 (ms.sorted_perm.mem_iff.1 hm)
    exact ih n hn

/-! ## Texts -/

/-- Values are alike exactly if they have one text. -/
theorem canonical_eq_iff_alike (hv : v.HasDistinctNames) (hw : w.HasDistinctNames) :
    canonical v = canonical w ↔ v.Alike w := by
  constructor
  · intro same
    exact alike_of_sorted_eq hv hw (sorted_eq_of_canonical_eq hv hw same)
  · intro alike
    rw [canonical, canonical, alike.sorted_eq]

/-- The text of a value is read back, with the names in order. -/
theorem read?_canonical (h : v.HasDistinctNames) : read? (canonical v) = some v.sorted := by
  rw [read?, readWithin?_canonical rfl h, fits_unlimited, if_pos rfl]

/-- Values have one canonical text exactly if they are equal but for the order of names, doubles
being equal that are one number with one sign. The text is read back as the value, with the names of
every object in order. -/
theorem canonical_isFaithful (hv : v.HasDistinctNames) (hw : w.HasDistinctNames) :
    (canonical v = canonical w ↔ v.AlikeBy Binary64.SameSignedNumber w) ∧
    ∃ u, read? (canonical v) = some u ∧ v.AlikeBy (· = ·) u ∧ u.NamesInOrder := by
  constructor
  · rw [canonical_eq_iff_alike hv hw, alikeBy_iff_alike fun _ _ ↦ Binary64.sameSignedNumber_iff]
  · refine ⟨v.sorted, read?_canonical hv, ?_, namesInOrder_sorted hv⟩
    exact (alikeBy_iff_alike fun _ _ ↦ Iff.rfl).2 (alike_sorted hv)

/-- A value with names, texts and numbers of all kinds, and one with other orders of names. -/
theorem two_orders_have_one_text :
    let one : Binary64 := .ofInt 1
    let v : Json := .obj [
      ("b", .arr [.int 1, .float one, .float .nan, .int (-100000000000000000000)]),
      ("a", .obj [("é", .str "\"\\\n\x01"), ("e", .float (.zero true)), ("", .null)])]
    let w : Json := .obj [("a", .obj [("", .null), ("e", .float (.zero true)),
        ("é", .str "\"\\\n\x01")]),
      ("b", .arr [.int 1, .float one, .float .nan, .int (-100000000000000000000)])]
    (v.HasDistinctNames ∧ w.HasDistinctNames) ∧ canonical v = canonical w ∧
      v.AlikeBy Binary64.SameSignedNumber w ∧
      ∃ u, read? (canonical v) = some u ∧ v.AlikeBy (· = ·) u ∧ u.NamesInOrder := by
  intro one v w
  have hv : v.HasDistinctNames := by decide
  have hw : w.HasDistinctNames := by decide
  have same : canonical v = canonical w := by decide +kernel
  obtain ⟨equal, back⟩ := canonical_isFaithful hv hw
  exact ⟨⟨hv, hw⟩, same, equal.1 same, back⟩

/-- The zeros of both signs are one number, but have two texts: equality of numbers does not decide
whether texts are equal. -/
theorem zeros_have_two_texts :
    let v : Json := .float (.zero false)
    let w : Json := .float (.zero true)
    (v.HasDistinctNames ∧ w.HasDistinctNames) ∧
      ¬(canonical v = canonical w ↔ v.AlikeBy Binary64.SameNumber w) := by
  intro v w
  refine ⟨⟨.float _, .float _⟩, fun decides ↦ ?_⟩
  have equal : v.AlikeBy Binary64.SameNumber w :=
    .float (Binary64.sameNumber_iff.2 (.inr ⟨rfl, rfl⟩))
  have differ : canonical v ≠ canonical w := by decide
  exact differ (decides.2 equal)

end Json

end CallFlow
