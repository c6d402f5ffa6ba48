/-!
# Options and scopes

How a query sees the index: whether events at the instant of observation belong to the past, which
experiment's events it sees, and whose events count at a point.
-/

namespace Hindsight

/-- The options of a query. -/
structure QueryOptions where
  /-- Whether an event at the instant of observation belongs to the past. -/
  inclusive : Bool := false
  /-- Whether groups of points may be computed side by side; the answer does not depend on it. -/
  parallel : Bool := false
  /-- The experiment whose events are seen beside those that belong to none. -/
  experiment : Option String := none
deriving DecidableEq, Repr

/-- Whose events count at a point. -/
inductive EventScope where
  /-- Those of the entity itself and of the entities of some types in its context. -/
  | related (entityTypes : List String)
  | allEvents
deriving DecidableEq, Repr

/-- The entity alone. -/
instance : Inhabited EventScope := ⟨.related []⟩

end Hindsight
