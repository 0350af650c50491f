import Gatehouse.Grant.Request

/-!
# Decisions

Among the grants that count for a request the most narrowed ones decide.  If one of them denies,
the answer is no; otherwise it is yes.  Where no grant counts, the answer is no.

`Decision.resolve` finds the answer in one pass over the grants, keeping the narrowest tier met so
far and whether a grant of that tier denies.
-/

set_option autoImplicit false

namespace Gatehouse

/-- Why a decision was taken. -/
inductive Reason where
  /-- No grant counts for the request. -/
  | noMatch
  /-- The grants of a tier allow. -/
  | allowed (tier : Tier)
  /-- A grant of a tier denies. -/
  | denied (tier : Tier)
deriving DecidableEq, Repr

/-- The answer to a request. -/
structure Decision where
  /-- Whether the request is granted. -/
  allowed : Bool
  /-- Why. -/
  reason : Reason
deriving DecidableEq, Repr

/-- The name of a tier in a line about a decision. -/
def Tier.title : Tier → String
  | .whole => "Section"
  | .item => "Item"
  | .single => "Instance"

/-- A reason in a line about a decision. -/
def Reason.text : Reason → String
  | .noMatch => "NoMatchingGrant"
  | .allowed tier => "Allowed \x7b tier: " ++ tier.title ++ " \x7d"
  | .denied tier => "Denied \x7b tier: " ++ tier.title ++ " \x7d"

namespace Decision

/-- The decision for a tier in which a grant denies or not; no tier means that no grant counts. -/
def ofTier : Option (Tier × Bool) → Decision
  | none => ⟨false, .noMatch⟩
  | some (tier, true) => ⟨false, .denied tier⟩
  | some (tier, false) => ⟨true, .allowed tier⟩

/-- Takes one more grant into account. -/
def narrow (top : Option (Tier × Bool)) (t : Terms) : Option (Tier × Bool) :=
  let denies := t.rule == .deny
  match top with
  | none => some (t.tier, denies)
  | some (best, denied) =>
    if best = t.tier then some (best, denied || denies)
    else if t.tier.rank < best.rank then some (best, denied)
    else some (t.tier, denies)

/-- The decision that the grants counting for a request lead to, in one pass. -/
def resolve (ts : List Terms) : Decision := ofTier (ts.foldl narrow none)

end Decision

end Gatehouse
