import CallFlow.Binary64

/-!
# Settings

How large graphs may grow, where nodes are placed that nobody placed by hand, and the two words
that scripts use with a meaning of their own.
-/

namespace CallFlow

/-- The settings of the editor. -/
structure Settings where
  /-- The most nodes that a graph may have. -/
  maxNodes : Int := 500
  /-- Where the entry is placed. -/
  entryX : Binary64 := .ofInt 100
  entryY : Binary64 := .ofInt 200
  /-- How far apart the nodes of a rebuilt graph stand. -/
  spacing : Binary64 := .ofInt 250
  /-- The zoom of a fresh view. -/
  zoom : Binary64 := .ofInt 1
  /-- The tag of nodes whose kind cannot be told. -/
  opaqueTag : String := "legacyItem"
  /-- The name that ends a script when it is given as the next item. -/
  finishWord : String := "finish"

end CallFlow
