import CallFlow.Text.Display

/-!
# Words of a vocabulary

Categories, types, sources and statuses are written as words. A value that is none of the words of
its vocabulary is refused with the value quoted.
-/

namespace CallFlow.Text

/-- A value that is no word of a vocabulary. -/
structure UnknownWord where
  vocabulary : String
  found : Json
deriving BEq, Repr

def UnknownWord.message (e : UnknownWord) : String :=
  let found := display e.found
  s!"{found} is not a valid {e.vocabulary}"

/-- The meaning of a value in a vocabulary. -/
def readWord {α : Type} (vocabulary : String) (ofName? : String → Option α) (v : Json) :
    Except UnknownWord α :=
  match v with
  | .str s => match ofName? s with
    | some a => .ok a
    | none => .error ⟨vocabulary, v⟩
  | v => .error ⟨vocabulary, v⟩

end CallFlow.Text
