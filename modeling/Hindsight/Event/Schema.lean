import Hindsight.Event.Basic
import Hindsight.Value.Kind

/-!
# Schemas

For every event type the schema records the kind of each attribute. An event may add attributes
and may widen one from integer to float; a value of any other kind than the recorded one is
refused, and so is a list that holds a list or a map. The event is checked as a whole before
anything is recorded.
-/

namespace Hindsight

/-- The kinds of the attributes of one event type. -/
abbrev EventSchema := Dict String ValueKind

/-- The schemas of the event types that are known. -/
abbrev Schema := Dict String EventSchema

namespace Schema

/-- Record the kind of an attribute, whatever was recorded before. -/
def declare (s : Schema) (eventType attr : String) (k : ValueKind) : Schema :=
  s.update eventType .empty fun a => a.insert attr k

/-- The recorded kind of an attribute. -/
def kind? (s : Schema) (eventType attr : String) : Option ValueKind :=
  (s.get? eventType).bind fun a => a.get? attr

/-- The first item of a list that is no scalar. -/
def nested? : Value → Option Value
  | .list items => items.find? fun v =>
      match v with
      | .list _ | .map _ => true
      | _ => false
  | _ => none

/-- What an attribute of an event changes in the schema: nothing, or the kind to record. -/
def checkAttribute (recorded : Option ValueKind) (eventType name : String) (v : Value) :
    Except EventError (Option ValueKind) :=
  match ValueKind.of? v with
  | none => .ok none
  | some incoming =>
    match nested? v with
    | some found => .error (.nestedList name found.typeName)
    | none =>
      match recorded with
      | none => .ok (some incoming)
      | some k =>
        match k.unify incoming with
        | none => .error (.schemaMismatch eventType name k.name incoming.name)
        | some widened => .ok (if widened = k then none else some widened)

/-- The kinds that an event would record, in the order of its attributes. -/
def check (s : Schema) (e : Event) : Except EventError (List (String × ValueKind)) := do
  let updates ← e.attributes.entries.mapM fun a => do
    let update ← checkAttribute (s.kind? e.type a.1) e.type a.1 a.2
    return update.map fun k => (a.1, k)
  return updates.filterMap id

/-- Record updates of one event type, which is known from then on. -/
def record (s : Schema) (eventType : String) (updates : List (String × ValueKind)) : Schema :=
  s.update eventType .empty fun a => updates.foldl (fun a u => a.insert u.1 u.2) a

/-- Check an event and record what it changes. -/
def observe (s : Schema) (e : Event) : Except EventError Schema := do
  return s.record e.type (← s.check e)

end Schema

end Hindsight
