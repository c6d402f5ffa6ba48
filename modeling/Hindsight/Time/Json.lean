import Hindsight.Json.Decode
import Hindsight.Time.Window

/-!
# Windows as JSON

A window of a number of units is an object with the direction, the number and the unit; any other
window is its name.
-/

namespace Hindsight
namespace Time

/-- The unit of a JSON name. -/
def TimeUnit.decode (j : Json) : Json.Decoded TimeUnit := do
  let v ← Json.decodeVariant j
  match TimeUnit.ofName? v.name with
  | some u => v.unit u
  | none => throw .mismatch

namespace Window

/-- The number and the unit of a window. -/
def lengthToJson (n : Int) (unit : TimeUnit) : Json :=
  .object [("n", .int n), ("unit", .string unit.name)]

/-- The JSON tree of a window. -/
def toJson : Window → Json
  | last n unit => Json.tagged "last" (lengthToJson n unit)
  | next n unit => Json.tagged "next" (lengthToJson n unit)
  | past => .string "past"
  | future => .string "future"
  | allTime => .string "all_time"
  | yearToDate => .string "year_to_date"
  | monthToDate => .string "month_to_date"

/-- How the number and the unit of a window are decoded. -/
def lengthShape : Json.RecordShape (Option Int × Option TimeUnit) where
  names := ["n", "unit"]
  step s name j :=
    match name with
    | "n" => return (← Json.once s.1 Json.decodeInt j, s.2)
    | "unit" => return (s.1, ← Json.once s.2 TimeUnit.decode j)
    | _ => return s

/-- Decode the number and the unit of a window. -/
def decodeLength (j : Json) : Json.Decoded (Int × TimeUnit) := do
  let (s, absent) ← Json.decodeMembers lengthShape (none, none) j
  return (← Json.required absent "n" s.1, ← Json.required absent "unit" s.2)

/-- Decode a window. -/
def decode (j : Json) : Json.Decoded Window := do
  let v ← Json.decodeSoleVariant j
  match v.name with
  | "last" => v.holdingMembers fun j => do let (n, unit) ← decodeLength j; return .last n unit
  | "next" => v.holdingMembers fun j => do let (n, unit) ← decodeLength j; return .next n unit
  | "past" => v.unit .past
  | "future" => v.unit .future
  | "all_time" => v.unit .allTime
  | "year_to_date" => v.unit .yearToDate
  | "month_to_date" => v.unit .monthToDate
  | _ => throw .mismatch

end Window

end Time
end Hindsight
