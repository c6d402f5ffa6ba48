import Hindsight.Event.Basic
import Hindsight.Json.Reader

/-!
# Decoding JSON

Records, lists, dictionaries and variants are decoded from a JSON tree in the order of its text,
and the first fault counts. A record is an object with known members, each at most once, and other
members, which are skipped; it may also be an array of its fields in order. A variant is its name,
or an object whose one member is the name with what the variant holds. In the order of a text what
stands beside that member is a fault behind it; in a tree at hand it is a fault of its own.
-/

namespace Hindsight

/-- Why a tree does not decode. -/
inductive DecodeError where
  /-- The text is not JSON, or the tree has a wrong shape. -/
  | mismatch
  | missingField (name : String)
  | refused (error : EventError)
deriving DecidableEq, Repr

/-- The message of an error, if its text is fixed by what is wrong. -/
def DecodeError.message? : DecodeError → Option String
  | mismatch => none
  | missingField name => some ("missing field " ++ "\x60" ++ name ++ "\x60")
  | refused e => some e.message

namespace Json

/-- The result of decoding. -/
abbrev Decoded (α : Type) := Except DecodeError α

/-- A text. -/
def decodeString : Json → Decoded String
  | string s => .ok s
  | _ => .error .mismatch

/-- A truth value. -/
def decodeBool : Json → Decoded Bool
  | bool b => .ok b
  | _ => .error .mismatch

/-- A signed integer of 64 bits. -/
def decodeInt : Json → Decoded Int
  | int n => if Number.fitsWord n then .ok n else .error .mismatch
  | _ => .error .mismatch

/-- A natural number below 2⁶⁴. -/
def decodeNat : Json → Decoded Nat
  | int n => if 0 ≤ n then .ok n.toNat else .error .mismatch
  | _ => .error .mismatch

/-- The text of an instant. -/
def decodeInstant (j : Json) : Decoded Time.Instant := do
  let s ← decodeString j
  match readInstant s with
  | .ok t => .ok t
  | .error e => .error (.refused e)

/-- Any JSON at all. -/
def decodeAny (j : Json) : Decoded Json :=
  if j.isReadable then .ok j.canonical else .error .mismatch

/-- Null or something. -/
def decodeOption {α : Type} (decode : Json → Decoded α) : Json → Decoded (Option α)
  | null => .ok none
  | j => (decode j).map some

/-- An array of items. -/
def decodeList {α : Type} (decode : Json → Decoded α) : Json → Decoded (List α)
  | array items => items.mapM decode
  | _ => .error .mismatch

/-- An object as a dictionary; of members with one name the last stays. -/
def decodeDict {α : Type} (decode : Json → Decoded α) : Json → Decoded (Dict String α)
  | object members => do
    let entries ← members.mapM fun m => do return (m.1, ← decode m.2)
    return Dict.ofList entries
  | _ => .error .mismatch

/-- An array of exactly two items. -/
def decodePair {α β : Type} (first : Json → Decoded α) (second : Json → Decoded β) :
    Json → Decoded (α × β)
  | array (a :: b :: rest) => do
    let a ← first a
    let b ← second b
    if rest.isEmpty then return (a, b) else throw .mismatch
  | array items => do
    for j in items do
      discard (first j)
    throw .mismatch
  | _ => .error .mismatch

/-- Whether a member of a record that is none of its fields can be skipped: its name can be read,
and its value is JSON. -/
def canBeSkipped : Json → Bool
  | fault f => f == .unreadable
  | j => j.isWellFormed

/-- A record while its members are read: what is decoded so far. -/
structure RecordShape (σ : Type) where
  /-- The names of the fields in order. -/
  names : List String
  /-- Decode a member of that name into what is decoded so far. -/
  step : σ → String → Json → Decoded σ
  /-- How many items an array must have that is read as the record. -/
  least : Nat := 0

/-- The decoded members of a record, and the error for a field that has to be there and is not. -/
def decodeMembers {σ : Type} (shape : RecordShape σ) (start : σ) :
    Json → Decoded (σ × (String → DecodeError))
  | object members => do
    let s ← members.foldlM (fun s m =>
      if shape.names.contains m.1 then shape.step s m.1 m.2
      else if m.2.canBeSkipped then pure s
      else throw .mismatch) start
    return (s, .missingField)
  | array items => do
    let s ← (shape.names.zip items).foldlM (fun s m => shape.step s m.1 m.2) start
    if items.length < shape.least || shape.names.length < items.length then throw .mismatch
    else return (s, fun _ => .mismatch)
  | _ => .error .mismatch

/-- Decode a field that must not be there twice. -/
def once {α : Type} (slot : Option α) (decode : Json → Decoded α) (j : Json) :
    Decoded (Option α) :=
  match slot with
  | some _ => .error .mismatch
  | none => (decode j).map some

/-- What a field holds, or the error of its absence. -/
def required {α : Type} (absent : String → DecodeError) (name : String) (slot : Option α) :
    Decoded α :=
  match slot with
  | some a => .ok a
  | none => .error (absent name)

/-- The name of a variant, what it holds, and whether something follows that does not belong to
it. -/
structure Variant where
  name : String
  content : Option Json
  surplus : Bool

/-- The variant of a tree. -/
def decodeVariant : Json → Decoded Variant
  | string s => .ok ⟨s, none, false⟩
  | object ((k, j) :: rest) => .ok ⟨k, some j, !rest.isEmpty⟩
  | _ => .error .mismatch

/-- The variant of a tree in which nothing else stands beside it. -/
def decodeSoleVariant (j : Json) : Decoded Variant := do
  let v ← decodeVariant j
  if v.surplus then throw .mismatch else return v

/-- A variant that holds nothing. -/
def Variant.unit {α : Type} (v : Variant) (a : α) : Decoded α :=
  match v.content with
  | none => .ok a
  | some null => if v.surplus then .error .mismatch else .ok a
  | some _ => .error .mismatch

/-- A variant that holds something. -/
def Variant.holding {α : Type} (v : Variant) (decode : Json → Decoded α) : Decoded α :=
  match v.content with
  | none => .error .mismatch
  | some j => do
    let a ← decode j
    if v.surplus then throw .mismatch else return a

/-- A variant that holds members by their names, for which no array can stand. -/
def Variant.holdingMembers {α : Type} (v : Variant) (decode : Json → Decoded α) : Decoded α :=
  v.holding fun
    | array _ => .error .mismatch
    | j => decode j

/-- Decode the tree of a text and then ask that the text ends there. -/
def Document.decode {α : Type} (d : Document) (decode : Json → Decoded α) : Decoded α := do
  let a ← decode d.root
  if d.complete then return a else throw .mismatch

end Json

end Hindsight
