import Hindsight.Plan.Typing

/-!
# Binding plans to a schema

A plan names attributes, and a schema knows attributes for each event type. Every attribute of an
aggregate has to be known for some candidate type, and the types of formulas have to be right for
each. Candidates are the pinned event types that are known, or all known ones if none is pinned.

A binder remembers what it found out, once for each aggregate or condition and, for types, once for
each event type as well. What it remembers it finds again by a text: an aggregate by the name of its
feature and its slot with a number sign between them, a condition by the text it was written as. All
of these texts are keys of one and the same memory.
-/

namespace Hindsight

/-- What was found out about a schema and plans, by the keys of what was bound. -/
structure Binder where
  schema : Schema
  /-- Whether all attributes are known. -/
  resolved : List (String × Except CompileError Unit)
  /-- The type under the schema of an event type. -/
  typed : List ((String × String) × Except CompileError ValueType)

namespace Binder

/-- The key of the aggregate in slot `n` of a feature. -/
def slotKey (feature : String) (n : Nat) : String := feature ++ "#" ++ toString n

/-- A binder that has found out nothing yet. -/
def ofSchema (s : Schema) : Binder := ⟨s, [], []⟩

/-- The known event types to which something with these pinned types applies. -/
def candidates (s : Schema) (pinned : Option NameSet) : List String :=
  match pinned with
  | some types => types.toList.filter s.contains
  | none => s.keys

/-- Whether an attribute is known for one of the candidates. -/
def isKnown (s : Schema) (candidates : List String) (attr : String) : Bool :=
  candidates.any fun t => (s.kind? t attr).isSome

/-- Ask for all attributes to be known for some candidate, if there is a candidate at all. -/
def resolve (s : Schema) (candidates : List String) (attributes : NameSet) :
    Except CompileError Unit :=
  if candidates.isEmpty then .ok ()
  else
    match attributes.toList.find? fun a => !isKnown s candidates a with
    | some missing => .error (.unknownAttribute missing candidates)
    | none => .ok ()

/-- Resolve attributes, unless it is done already. -/
def resolveOnce (b : Binder) (key : String) (candidates : List String)
    (attributes : NameSet) : Except CompileError Unit × Binder :=
  match b.resolved.lookup key with
  | some found => (found, b)
  | none =>
    let found := resolve b.schema candidates attributes
    (found, { b with resolved := (key, found) :: b.resolved })

/-- Infer a type under the schema of an event type, unless it is done already. -/
def typeOnce (b : Binder) (key : String) (eventType : String)
    (infer : AttributeTypes → Except CompileError ValueType) :
    Except CompileError ValueType × Binder :=
  match b.typed.lookup (key, eventType) with
  | some found => (found, b)
  | none =>
    let found := match b.schema.get? eventType with
      | some s => infer s.types
      | none => .ok .unknown
    (found, { b with typed := ((key, eventType), found) :: b.typed })

/-- Infer a type under the schema of each of the event types, up to the first fault. -/
def typeAll (b : Binder) (key : String)
    (infer : AttributeTypes → Except CompileError ValueType) :
    List String → Except CompileError Unit × Binder
  | [] => (.ok (), b)
  | t :: rest =>
    match b.typeOnce key t infer with
    | (.ok _, b) => typeAll b key infer rest
    | (.error e, b) => (.error e, b)

/-- Bind an aggregate. -/
def bindAggregate (b : Binder) (key : String) (a : Aggregate) :
    Except CompileError Unit × Binder :=
  let cs := candidates b.schema a.eventTypes
  match b.resolveOnce key cs a.attributes with
  | (.ok (), b) => b.typeAll key a.infer cs
  | (.error e, b) => (.error e, b)

/-- Bind the aggregates of a feature from slot `n` on. -/
def bindSlots (b : Binder) (feature : String) :
    Nat → List Aggregate → Except CompileError Unit × Binder
  | _, [] => (.ok (), b)
  | n, a :: rest =>
    match b.bindAggregate (slotKey feature n) a with
    | (.ok (), b) => bindSlots b feature (n + 1) rest
    | (.error e, b) => (.error e, b)

/-- Bind the aggregates of features. -/
def bindFeatures (b : Binder) : List Feature → Except CompileError Unit × Binder
  | [] => (.ok (), b)
  | f :: rest =>
    match b.bindSlots f.name 0 f.aggregates with
    | (.ok (), b) => bindFeatures b rest
    | (.error e, b) => (.error e, b)

/-- Bind a query. -/
def bindQuery (b : Binder) (q : FeatureSet) : Except CompileError Unit × Binder :=
  b.bindFeatures q.features

/-- Bind a condition for events of a type. The answer is whether the condition can hold on any of
them at all. -/
def bindCondition (b : Binder) (c : Condition) (eventType : String) :
    Except CompileError Bool × Binder :=
  if c.eventTypes.any fun pinned => !pinned.contains eventType then (.ok false, b)
  else
    match b.resolveOnce c.raw (candidates b.schema c.eventTypes) c.formula.attributes with
    | (.error e, b) => (.error e, b)
    | (.ok (), b) =>
      if !b.schema.contains eventType then (.ok true, b)
      else
        match b.typeOnce c.raw eventType fun types => c.formula.infer types [] with
        | (.error e, b) => (.error e, b)
        | (.ok t, b) => ((c.expectBoolean t).map fun _ => true, b)

end Binder

end Hindsight
