import Hindsight.Dict

/-!
# JSON trees

A JSON tree keeps the members of an object as they were written: in their order, repetitions
included. `canonical` gives the tree that a reader of dictionaries sees, with the members in the
order of their names and of repeated names the last.

A text that stops being JSON somewhere is read up to that place, and a fault stands there as the
last thing of the tree. A fault also stands for what is JSON and can be no value. Whoever decodes a
tree in the order of the text meets the faults of the text and those of its meaning in the order in
which they stand, and passes over those in what is skipped.
-/

namespace Hindsight

/-- What may be wrong with a text at a place where a value should stand. -/
inductive Json.Fault where
  /-- The text stops being JSON. -/
  | malformed
  /-- What stands there can be no value: a number beyond the largest float, a string with half a
  pair of surrogates in it, or parts nested too deep. -/
  | unreadable
  /-- The name of the member is a string that can be no value. -/
  | unreadableName
deriving DecidableEq, Repr

/-- A JSON tree. -/
inductive Json where
  | null
  | bool (b : Bool)
  | int (n : Int)
  | float (x : Float)
  | string (s : String)
  | array (items : List Json)
  | object (members : List (String × Json))
  | fault (f : Json.Fault)

namespace Json

instance : Inhabited Json := ⟨.null⟩

mutual

/-- Whether every fault in a tree passes a test. -/
def allFaults (p : Fault → Bool) : Json → Bool
  | array items => allFaultsOfItems p items
  | object members => allFaultsOfMembers p members
  | fault f => p f
  | _ => true

/-- Whether every fault in the items passes a test. -/
def allFaultsOfItems (p : Fault → Bool) : List Json → Bool
  | [] => true
  | j :: rest => allFaults p j && allFaultsOfItems p rest

/-- Whether every fault in the values of members passes a test. -/
def allFaultsOfMembers (p : Fault → Bool) : List (String × Json) → Bool
  | [] => true
  | (_, j) :: rest => allFaults p j && allFaultsOfMembers p rest

end

/-- Whether the text of a tree is JSON to its end, so that it can be skipped. -/
def isWellFormed (j : Json) : Bool := j.allFaults (· != .malformed)

/-- Whether a tree has no faults. -/
def isReadable (j : Json) : Bool := j.allFaults fun _ => false

mutual

/-- The tree with the members of every object in the order of their names, each name once. -/
def canonical : Json → Json
  | array items => array (canonicalItems items)
  | object members => object (Dict.ofList (canonicalMembers members)).entries
  | j => j

/-- The canonical forms of items. -/
def canonicalItems : List Json → List Json
  | [] => []
  | j :: rest => canonical j :: canonicalItems rest

/-- The members with canonical values, still in the order of the text. -/
def canonicalMembers : List (String × Json) → List (String × Json)
  | [] => []
  | (k, j) :: rest => (k, canonical j) :: canonicalMembers rest

end

mutual

/-- How deep a tree is nested; a tree without parts has depth 1. -/
def depth : Json → Nat
  | array items => depthOfItems items + 1
  | object members => depthOfMembers members + 1
  | _ => 1

/-- The greatest depth of the items. -/
def depthOfItems : List Json → Nat
  | [] => 0
  | j :: rest => max (depth j) (depthOfItems rest)

/-- The greatest depth of the values of members. -/
def depthOfMembers : List (String × Json) → Nat
  | [] => 0
  | (_, j) :: rest => max (depth j) (depthOfMembers rest)

end

/-- The member of that name; of repeated names the last counts. -/
def get? (j : Json) (name : String) : Option Json :=
  match j with
  | object members => (members.reverse.find? fun m => m.1 == name).map (·.2)
  | _ => none

/-- An optional tree as one that may be null. -/
def ofOption : Option Json → Json
  | some j => j
  | none => null

/-- An object of one member, the form of a variant that holds something. -/
def tagged (tag : String) (j : Json) : Json := object [(tag, j)]

end Json

end Hindsight
