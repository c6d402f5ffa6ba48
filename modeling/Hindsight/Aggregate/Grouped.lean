import Hindsight.Aggregate.Accumulator

/-!
# Groups

One accumulator for each value of a key. Keys are told apart by their text and their kind. The
value of the groups is a map from the texts of the keys; where keys of different kinds have one text
the kind is written in front. Inputs whose key is null belong to no group.

A key gets its group before its accumulator is asked to take the input, so a refused input may leave
a group behind that holds nothing.
-/

namespace Hindsight

/-- A key of a group: its text and the name of its kind. -/
structure GroupKey where
  text : String
  kind : String
deriving DecidableEq, Repr

/-- The key of a value. -/
def GroupKey.of (v : Value) : GroupKey := ⟨v.display, v.typeName⟩

/-- Keys are ordered by their texts and then by their kinds. -/
instance : Ord GroupKey := ⟨fun a b => (compare a.text b.text).then (compare a.kind b.kind)⟩

/-- An accumulator for each key. -/
structure GroupedAccumulator where
  function : AggregateFunction
  groups : Dict GroupKey Accumulator

namespace GroupedAccumulator

/-- No groups. -/
def empty (f : AggregateFunction) : GroupedAccumulator := ⟨f, .empty⟩

/-- The accumulator of a key, empty if the key has no group yet. -/
def group (g : GroupedAccumulator) (k : GroupKey) : Accumulator :=
  (g.groups.get? k).getD (.empty g.function)

/-- What the accumulator of a key says to one more input, and the groups after it. The key has a
group from then on, also where the input is refused: the group was made before it was asked. -/
def add (g : GroupedAccumulator) (key : Value) (i : Input) :
    Except EvalError Unit × GroupedAccumulator :=
  if key.isNull then (.ok (), g)
  else
    let k := GroupKey.of key
    match (g.group k).add i with
    | .ok a => (.ok (), { g with groups := g.groups.insert k a })
    | .error e => (.error e, { g with groups := g.groups.insert k (g.group k) })

/-- The groups with one more input, which are given up where it is refused. -/
def added (g : GroupedAccumulator) (key : Value) (i : Input) :
    Except EvalError GroupedAccumulator :=
  (g.add key i).1.map fun _ => (g.add key i).2

/-- The groups of both. -/
def merge (g h : GroupedAccumulator) : Except EvalError GroupedAccumulator := do
  let groups ← h.groups.entries.foldlM (fun groups e => do
    match groups.get? e.1 with
    | some a => return groups.insert e.1 (← a.merge e.2)
    | none => return groups.insert e.1 e.2) g.groups
  return { g with groups := groups }

/-- The number of keys with a text. -/
def sharing (g : GroupedAccumulator) (text : String) : Nat :=
  (g.groups.keys.filter fun k => k.text == text).length

/-- The name of a key in the value of the groups. -/
def name (g : GroupedAccumulator) (k : GroupKey) : String :=
  if 1 < g.sharing k.text then k.kind ++ ":" ++ k.text else k.text

/-- The values of the groups by the names of their keys. -/
def value (g : GroupedAccumulator) : Value :=
  .map (Dict.ofList (g.groups.entries.map fun e => (g.name e.1, e.2.value))).entries

end GroupedAccumulator

end Hindsight
