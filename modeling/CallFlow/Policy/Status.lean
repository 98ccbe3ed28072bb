import CallFlow.Policy
import CallFlow.Validation

/-!
# Changes of status

A draft may be disabled or enabled, and from then on a policy goes back and forth between the two.
It is enabled only if its graph is valid. A change to the same status is always allowed and
changes nothing.
-/

namespace CallFlow

/-- Why a status stays as it is. -/
inductive StatusError where
  | noMove (current target : PolicyStatus)
  /-- The graph is not there to be validated. -/
  | needsGraph (target : PolicyStatus)
  | invalidGraph (target : PolicyStatus) (fatal : List Finding)
deriving DecidableEq, Repr

namespace StatusError

def message : StatusError → String
  | noMove current target => s!"Cannot change status from {current.name} to {target.name}"
  | needsGraph target => s!"Changing status to {target.name} requires the policy graph"
  | invalidGraph target fatal =>
    s!"Cannot change status to {target.name}: graph has {fatal.length} fatal issue(s)"

/-- The findings that stand in the way. -/
def findings : StatusError → List Finding
  | invalidGraph _ fatal => fatal
  | _ => []

def details (e : StatusError) : Members := [("issues", .arr (e.findings.map Finding.toJson))]

end StatusError

namespace PolicyStatus

/-- The other statuses to which a policy may go. -/
def moves : PolicyStatus → List PolicyStatus
  | draft => [disabled, enabled]
  | disabled => [enabled]
  | enabled => [disabled]

/-- Whether a policy may go to a status, as far as that depends on the statuses. -/
def canBecome (current target : PolicyStatus) : Bool :=
  current == target || current.moves.contains target

/-- Whether only policies with a valid graph have the status. -/
def isGated : PolicyStatus → Bool
  | enabled => true
  | _ => false

/-- The status after a change, given what was found wrong with the graph. -/
def change (current target : PolicyStatus) (findings : Option (List Finding)) :
    Except StatusError PolicyStatus := do
  if current == target then
    return current
  if !current.canBecome target then
    throw (.noMove current target)
  if target.isGated then
    let some findings := findings | throw (.needsGraph target)
    if !Finding.areHarmless findings then
      throw (.invalidGraph target (Finding.fatalOnes findings))
  return target

end PolicyStatus

end CallFlow
