import Hindsight.Eval.Error
import Hindsight.Json.Writer
import Hindsight.Observation.Point
import Hindsight.Value.Json

/-!
# Feature tables

The answer of a query: a row of values for each point, in the order of the points. A point at which
the filter of an aggregate cannot be evaluated has no row and is listed with the reason.
-/

namespace Hindsight

/-- The values at a point. -/
structure FeatureRow where
  point : ObservationPoint
  values : List Value

/-- A point without a row. -/
structure DroppedPoint where
  point : ObservationPoint
  feature : String
  reason : EvalError

/-- The answer of a query. -/
structure FeatureTable where
  columns : List String
  rows : List FeatureRow
  dropped : List DroppedPoint

namespace FeatureTable

/-- The value of a column in a row; of columns with one name the first counts. -/
def value? (t : FeatureTable) (row : Nat) (column : String) : Option Value :=
  match t.columns.idxOf? column, t.rows[row]? with
  | some i, some r => r.values[i]?
  | _, _ => none

/-- A row as members of an object: the point, then the columns. A column that bears the name of an
earlier member takes its place. -/
def members (columns : List String) (r : FeatureRow) : Dict String Json :=
  Dict.ofList (
    [("entity_type", .string r.point.entityType), ("entity_id", .string r.point.entityId),
     ("obs_dt", (Value.instant r.point.instant).toJson)] ++
    columns.zip (r.values.map Value.toJson))

/-- The rows as objects. -/
def toJsonRows (t : FeatureTable) : List Json :=
  t.rows.map fun r => .object (members t.columns r).entries

end FeatureTable
end Hindsight
