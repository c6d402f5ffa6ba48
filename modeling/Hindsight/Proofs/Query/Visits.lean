import Hindsight.Query.Run

/-!
# A visit a day

One visit of one patient on each of some consecutive days, as a timeline to try an aggregate on and
as an index to try a query on.
-/

namespace Hindsight

open Time (Instant)

/-- Midnight of a day, counted from the first day of year 1. -/
def midnightOf (day : Nat) : Instant := (Instant.ofParts? day 0 0).getD .zero

/-- A visit a day, each with a value. -/
def visits (values : List Value) : Timeline :=
  values.zipIdx.map fun v =>
    { slot := v.2
      event :=
        { type := "visit"
          time := midnightOf v.2
          entities := ⟨[("patient", "1")]⟩
          id := none
          experiment := none
          attributes := ⟨[("value", v.1)]⟩ } }

/-- The patient at midnight of a day. -/
def patientOn (day : Nat) : SourcedPoint := ⟨.create "patient" "1" (midnightOf day), none⟩

/-- An aggregate of visits over a window. -/
def overVisits (f : AggregateFunction) (argument : Formula) (window : Time.Window)
    (values : List Value) : WindowedAggregate :=
  { aggregate := ⟨f, argument, window, none, none, none, none⟩
    candidates := visits values
    inclusive := false }

/-- An index of visits. -/
def visitsIndex (values : List Value) : EventIndex :=
  ((EventIndex.empty true).insertMany ((visits values).map StoredEvent.event)).2

/-- The feature of the sum over all earlier visits. -/
def sumOfPast : FeatureSet where
  features :=
    [{ name := "sum"
       raw := "sum(value) over past"
       formula := .slot 0
       aggregates := [⟨.sum, .attr "value", .past, none, none, none, none⟩] }]

end Hindsight
