import Hindsight.Aggregate.Ordered
import Hindsight.Plan.AggregateFunction

/-!
# Monotone deques

The least, greatest, earliest or latest value of a window that only moves forward. An entry that a
later one beats can never win again and is dropped when the later one comes; entries that the window
leaves behind are dropped in front. The winner is always at one end.
-/

namespace Hindsight

/-- Which entries can still win. -/
inductive Retention where
  /-- Those that no later one beats. -/
  | best (x : Extreme)
  | all
  | newest
deriving DecidableEq, Repr

/-- Which entries a function retains, if it is decided by them. -/
def AggregateFunction.retention? : AggregateFunction → Option Retention
  | min => some (.best .min)
  | max => some (.best .max)
  | first | timeOfFirst | timeOfNext => some .all
  | last | timeOfLast => some .newest
  | _ => none

/-- A function has a retention just if it is selective. -/
theorem AggregateFunction.isSome_retention? (f : AggregateFunction) :
    f.retention?.isSome = f.isSelective := by
  cases f <;> rfl

/-- An input with its number in the order of inputs. -/
structure DequeEntry where
  number : Nat
  input : Input

/-- The entries that can still win, the oldest first. -/
structure MonotoneDeque where
  function : AggregateFunction
  retention : Retention
  entries : List DequeEntry

namespace MonotoneDeque

/-- The deque of a function without entries, if the function has one. -/
def empty? (f : AggregateFunction) : Option MonotoneDeque :=
  f.retention?.map fun r => ⟨f, r, []⟩

/-- Whether a new value makes an older one useless. -/
def dominates (x : Extreme) (new old : Value) : Bool :=
  match new.compare old with
  | some o => o == x.wanted || o == .eq
  | none => false

/-- The entries without those at the end that a new value dominates. -/
def prune (x : Extreme) (v : Value) (es : List DequeEntry) : List DequeEntry :=
  (es.reverse.dropWhile fun e => dominates x v e.input.value).reverse

/-- The deque with a new entry, whose number is greater than those before. -/
def push (d : MonotoneDeque) (e : DequeEntry) : MonotoneDeque :=
  let kept := match d.retention with
    | .best x => prune x e.input.value d.entries
    | .all => d.entries
    | .newest => []
  { d with entries := kept ++ [e] }

/-- The deque without the entries in front whose numbers are smaller. -/
def evictBefore (d : MonotoneDeque) (number : Nat) : MonotoneDeque :=
  { d with entries := d.entries.dropWhile fun e => decide (e.number < number) }

/-- The deque without entries. -/
def clear (d : MonotoneDeque) : MonotoneDeque := { d with entries := [] }

/-- The entry that wins. -/
def winner? (d : MonotoneDeque) : Option DequeEntry :=
  match d.retention with
  | .newest => d.entries.getLast?
  | _ => d.entries.head?

/-- The value or the time of the entry that wins, null if there is none. -/
def value (d : MonotoneDeque) : Value :=
  match d.winner? with
  | none => .null
  | some e => if d.function.isTimeValued then .instant e.input.time else e.input.value

end MonotoneDeque

end Hindsight
