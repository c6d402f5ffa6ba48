import Hindsight.Plan.Json
import Hindsight.Proofs.Json.Decode
import Hindsight.Proofs.Json.Text
import Hindsight.Proofs.Plan.Literals
import Hindsight.Proofs.Value.Json

/-!
# Compiled formulas are read back

A node of a formula is written under its name, and decoded from what stands there by a decoder for
its parts. So a formula whose literals JSON holds is decoded from its tree
(`Formula.decode_toJson`), by induction on how deep the tree may be (`Formula.decodeNode_toJson`). The literals of what is
compiled are held but for numbers with a fraction: they are no lists, maps or instants, so none of
them can be taken for another. Hence **a compiled formula is read back** from its tree, and from its
text where a reader goes as deep (`Formula.compiled_reads_back`).
-/

namespace Hindsight

namespace Json

/-- A node under its name is decoded as a variant with content, beside which nothing stands. -/
@[simp] theorem decodeSoleVariant_tagged (tag : String) (j : Json) :
    decodeSoleVariant (tagged tag j) = .ok ⟨tag, some j, false⟩ := rfl

/-- A bare name is decoded as a variant without content. -/
@[simp] theorem decodeSoleVariant_string (tag : String) :
    decodeSoleVariant (string tag) = .ok ⟨tag, none, false⟩ := rfl

/-- A variant beside which nothing stands holds what its content is decoded to. -/
@[simp] theorem Variant.holding_some {α : Type} (tag : String) (j : Json)
    (decode : Json → Decoded α) : Variant.holding ⟨tag, some j, false⟩ decode = decode j := by
  cases h : decode j <;> simp [holding, h, pure, Except.pure]

/-- Items are as deep as the deepest of them, so a bound for a list is one for each of its items. -/
theorem depthOfItems_le_iff {items : List Json} {n : Nat} :
    depthOfItems items ≤ n ↔ ∀ i ∈ items, i.depth ≤ n := by
  induction items with
  | nil => simp [depthOfItems]
  | cons i rest ih => rw [depthOfItems, Nat.max_le, ih, List.forall_mem_cons]

/-- Every tree has a depth of one at least, so decoding one always has a step to take. -/
theorem depth_pos (j : Json) : 0 < j.depth := by
  cases j <;> simp [depth]

end Json

/-- A name is decoded to what it names. Operators, functions and scopes are read in this way. -/
theorem decodeNamed_string {α : Type} {ofName? : String → Option α} {name : String} {a : α}
    (h : ofName? name = some a) : decodeNamed ofName? (.string name) = .ok a := by
  rw [decodeNamed, Json.decodeSoleVariant_string, ok_bind]
  simp only [h]
  rfl

namespace Formula

/-- **A formula that JSON holds as it is:** its literals are held. -/
def HeldByJson (f : Formula) : Prop := ∀ v, .literal v ∈ f.parts → v.HeldByJson

/-- The items of a list of formulas are the trees of the formulas, in their order. -/
theorem itemsToJson_eq (fs : List Formula) : itemsToJson fs = fs.map toJson := by
  induction fs with
  | nil => rfl
  | cons f fs ih => rw [itemsToJson, ih, List.map_cons]

section Records

variable {self : Json → Json.Decoded Formula}

/-- An entity is decoded from its scope and its type, the two members of its tree. -/
theorem decodeEntity_object (scope : EntityScope) (entityType : String) :
    decodeEntity (.object [("scope", .string scope.tag), ("entity_type", .string entityType)]) =
      .ok (entity scope entityType) := by
  simp [decodeEntity, Json.decodeMembers, entityShape, Json.once, Json.required,
    decodeNamed_string scope.ofTag?_tag, Json.decodeString, Except.map, pure, Except.pure]

/-- An operation with one operand is decoded from its name and its operand, if the operand is. What
decodes the operand is left open, since it is the decoder itself with less depth. -/
theorem decodeUnary_object (op : UnaryOperator) {f : Formula} (operand : self f.toJson = .ok f) :
    decodeUnary self (.object [("op", .string op.tag), ("operand", f.toJson)]) =
      .ok (unary op f) := by
  simp [decodeUnary, Json.decodeMembers, unaryShape, Json.once, Json.required,
    decodeNamed_string op.ofTag?_tag, operand, Except.map, pure, Except.pure]

/-- An operation with two operands is decoded from its name and its operands, if both of them
are. -/
theorem decodeBinary_object {l r : Formula} (op : Operator) (left : self l.toJson = .ok l)
    (right : self r.toJson = .ok r) :
    decodeBinary self (.object [("left", l.toJson), ("op", .string op.tag),
      ("right", r.toJson)]) = .ok (binary l op r) := by
  simp [decodeBinary, Json.decodeMembers, binaryShape, Json.once, Json.required,
    decodeNamed_string op.ofTag?_tag, left, right, Except.map, pure, Except.pure]

/-- A call is decoded from its name and its arguments, if all of these are. -/
theorem decodeCall_object (f : ScalarFunction) {args : List Formula}
    (decoded : (itemsToJson args).mapM self = .ok args) :
    decodeCall self (.object [("function", .string f.name), ("args", .array (itemsToJson args))]) =
      .ok (call f args) := by
  simp [decodeCall, Json.decodeMembers, callShape, Json.once, Json.required,
    decodeNamed_string f.ofTag?_name, Json.decodeList, decoded, Except.map, pure, Except.pure]

end Records

section Reading

variable {self : Json → Json.Decoded Formula} {n : Nat}

/-- **A node is decoded from its tree** by whatever decodes the formulas of shallower trees. There
is one case for each kind of formula. -/
theorem decodeNode_toJson
    (inner : ∀ g : Formula, g.toJson.depth ≤ n → g.HeldByJson → self g.toJson = .ok g)
    {f : Formula} (within : f.toJson.depth ≤ n + 1) (held : f.HeldByJson) :
    decodeNode self f.toJson = .ok f := by
  have all (fs : List Formula) (shallow : Json.depthOfItems (itemsToJson fs) ≤ n)
      (each : ∀ g ∈ fs, g.HeldByJson) : (itemsToJson fs).mapM self = .ok fs := by
    rw [itemsToJson_eq, Json.depthOfItems_le_iff, List.forall_mem_map] at shallow
    rw [itemsToJson_eq, mapM_eq_ok_iff, List.forall₂_map_left_iff, List.forall₂_same]
    exact fun g hg => inner g (shallow g hg) (each g hg)
  have heldInside {fs : List Formula} (inside : ∀ g ∈ partsOfAll fs, g ∈ f.parts) :
      ∀ g ∈ fs, g.HeldByJson := fun g hg v hv =>
    held v (inside _ (mem_partsOfAll_iff.2 ⟨g, hg, hv⟩))
  cases f with
  | literal v =>
    have here := held v (mem_parts _)
    have readable := Json.isReadable_of_every _ (Value.every_toJson v here)
    have read : Json.decodeAny v.toJson = .ok v.toJson := by
      rw [Json.decodeAny, if_pos readable, Value.canonical_toJson v here]
    simp [toJson, decodeNode, read, Value.ofJson_toJson v here, pure, Except.pure]
  | attr _ | sourceAttr _ | observationTime | wildcard => rfl
  | field f =>
    simp [toJson, decodeNode, decodeNamed_string f.ofTag?_tag, pure, Except.pure]
  | entity scope entityType =>
    simp [toJson, decodeNode, Json.Variant.holdingMembers, decodeEntity_object]
  | slot m => simp [toJson, decodeNode, Json.decodeNat, pure, Except.pure]
  | list fs =>
    simp only [toJson, Json.tagged, Json.depth, Json.depthOfMembers] at within
    have decoded := all fs (by omega) (heldInside fun g hg => List.mem_cons_of_mem _ hg)
    simp [toJson, decodeNode, Json.decodeList, decoded, pure, Except.pure]
  | unary op g =>
    simp only [toJson, Json.tagged, Json.depth, Json.depthOfMembers] at within
    have operand := inner g (by omega) fun v hv => held v (List.mem_cons_of_mem _ hv)
    simp [toJson, decodeNode, Json.Variant.holdingMembers, decodeUnary_object op operand]
  | binary l op r =>
    simp only [toJson, Json.tagged, Json.depth, Json.depthOfMembers] at within
    have left := inner l (by omega) fun v hv =>
      held v (List.mem_cons_of_mem _ (List.mem_append_left _ hv))
    have right := inner r (by omega) fun v hv =>
      held v (List.mem_cons_of_mem _ (List.mem_append_right _ hv))
    simp [toJson, decodeNode, Json.Variant.holdingMembers, decodeBinary_object op left right]
  | call g args =>
    simp only [toJson, Json.tagged, Json.depth, Json.depthOfMembers] at within
    have decoded := all args (by omega) (heldInside fun g hg => List.mem_cons_of_mem _ hg)
    simp [toJson, decodeNode, Json.Variant.holdingMembers, decodeCall_object g decoded]

/-- Where the depth is enough, a formula is decoded from its tree, by induction on the depth. -/
theorem decodeWithin_toJson {f : Formula} (within : f.toJson.depth ≤ n) (held : f.HeldByJson) :
    decodeWithin n f.toJson = .ok f := by
  induction n generalizing f with
  | zero => exact absurd f.toJson.depth_pos (Nat.not_lt.2 within)
  | succ n ih => exact decodeNode_toJson (fun g => ih) within held

/-- **A formula that JSON holds** is decoded from its tree. The depth that is allowed is that of the
tree itself, so it is always enough. -/
theorem decode_toJson {f : Formula} (held : f.HeldByJson) : decode f.toJson = .ok f :=
  decodeWithin_toJson (Nat.le_refl _) held

end Reading

section Scalars

variable {p : Json → Prop}

mutual

/-- **The scalars of the tree of a formula** are texts, the numbers of slots and the scalars of the
literals. -/
theorem every_toJson (string : ∀ s, p (.string s)) :
    ∀ f : Formula, (∀ v, .literal v ∈ f.parts → v.toJson.Every p) →
      (∀ n : Nat, .slot n ∈ f.parts → p (.int n)) → f.toJson.Every p
  | literal v, literals, _ => ⟨literals v (mem_parts _), trivial⟩
  | attr path, _, _ | sourceAttr path, _, _ => ⟨string path, trivial⟩
  | field f, _, _ => ⟨string f.tag, trivial⟩
  | entity scope entityType, _, _ => ⟨⟨string scope.tag, string entityType, trivial⟩, trivial⟩
  | observationTime, _, _ | wildcard, _, _ => string _
  | list items, literals, slots =>
    ⟨everyOfItems_itemsToJson string items (fun v hv => literals v (List.mem_cons_of_mem _ hv))
      fun n hn => slots n (List.mem_cons_of_mem _ hn), trivial⟩
  | unary op operand, literals, slots =>
    ⟨⟨string op.tag, every_toJson string operand
      (fun v hv => literals v (List.mem_cons_of_mem _ hv))
      (fun n hn => slots n (List.mem_cons_of_mem _ hn)), trivial⟩, trivial⟩
  | binary left op right, literals, slots => by
    have first := every_toJson string left
      (fun v hv => literals v (List.mem_cons_of_mem _ (List.mem_append_left _ hv)))
      fun n hn => slots n (List.mem_cons_of_mem _ (List.mem_append_left _ hn))
    have second := every_toJson string right
      (fun v hv => literals v (List.mem_cons_of_mem _ (List.mem_append_right _ hv)))
      fun n hn => slots n (List.mem_cons_of_mem _ (List.mem_append_right _ hn))
    exact ⟨⟨first, string op.tag, second, trivial⟩, trivial⟩
  | call f args, literals, slots =>
    ⟨⟨string f.name, everyOfItems_itemsToJson string args
      (fun v hv => literals v (List.mem_cons_of_mem _ hv))
      (fun n hn => slots n (List.mem_cons_of_mem _ hn)), trivial⟩, trivial⟩
  | slot n, _, slots => ⟨slots n (mem_parts _), trivial⟩

/-- A property of texts, of literals and of slots holds throughout the trees of formulas, along with
that of one formula. -/
theorem everyOfItems_itemsToJson (string : ∀ s, p (.string s)) :
    ∀ fs : List Formula, (∀ v, .literal v ∈ partsOfAll fs → v.toJson.Every p) →
      (∀ n : Nat, .slot n ∈ partsOfAll fs → p (.int n)) → Json.EveryOfItems p (itemsToJson fs)
  | [], _, _ => trivial
  | f :: rest, literals, slots =>
    ⟨every_toJson string f (fun v hv => literals v (List.mem_append_left _ hv))
      (fun n hn => slots n (List.mem_append_left _ hn)),
      everyOfItems_itemsToJson string rest (fun v hv => literals v (List.mem_append_right _ hv))
        fun n hn => slots n (List.mem_append_right _ hn)⟩

end

end Scalars

end Formula

namespace Value

variable {v : Value}

/-- What a text can write is held by JSON, but for numbers with a fraction, which are written in
other digits. -/
theorem Written.heldByJson (h : v.Written) (noFloat : ∀ x, v ≠ .float x) : v.HeldByJson := by
  cases v with
  | null | bool _ | text _ => trivial
  | int n => exact h
  | float x => exact absurd rfl (noFloat x)
  | negativeNaN | instant _ | list _ | map _ => exact h.elim

/-- A literal that can be written and is no float has no float in its tree, since it is no list or
map either. -/
theorem Written.every_floatReadsBack (h : v.Written) (noFloat : ∀ x, v ≠ .float x) :
    v.toJson.Every Json.FloatReadsBack := by
  cases v with
  | null | bool _ | text _ | int _ => trivial
  | float x => exact absurd rfl (noFloat x)
  | negativeNaN | instant _ | list _ | map _ => exact h.elim

end Value

namespace Formula

/-- **A compiled formula is read back.** Without a number with a fraction among its literals it is
decoded from its tree, and from its text as well if the tree is nested no deeper than a text may be
and the numbers of its slots are those of words. -/
theorem compiled_reads_back {g : Formula} (compiled : g.IsCompiled)
    (noFloat : ∀ x, .literal (.float x) ∉ g.parts) :
    decode g.toJson = .ok g ∧
      (g.toJson.nesting ≤ 127 → (∀ n : Nat, .slot n ∈ g.parts → Number.fitsWord n = true) →
        (Json.Document.ofText g.toJson.text).decode decode = .ok g) := by
  have literal (v : Value) (hv : .literal v ∈ g.parts) : v.Written ∧ ∀ x, v ≠ .float x :=
    ⟨compiled.written v hv, fun x same => noFloat x (same ▸ hv)⟩
  have held : g.HeldByJson := fun v hv => (literal v hv).1.heldByJson (literal v hv).2
  have back := decode_toJson held
  refine ⟨back, fun shallow slots => ?_⟩
  have values : g.toJson.Every Json.HasValue :=
    every_toJson (fun _ => trivial) g (fun v hv => Value.every_toJson v (held v hv)) slots
  have floats : g.toJson.Every Json.FloatReadsBack :=
    every_toJson (fun _ => trivial) g
      (fun v hv => (literal v hv).1.every_floatReadsBack (literal v hv).2) fun _ _ => trivial
  rw [Json.Document.ofText_text values floats shallow, Json.Document.decode, back]
  rfl

/-- Whether there was more than one event of a kind that reads like a date or like null. -/
def oddKindsText : FeatureText where
  raw := "-count(id) over past where kind in ('2020-01-01', 'null') < -1 as odd"
  expr := .binary
    (.unary .negate (.aggregate "count" (.attr "id") none .past (some (.binary (.attr "kind") .isIn
      (.list [.literal (.text "2020-01-01"), .literal (.text "null")]))) .all))
    (.compare .lt) (.literal (.int (-1)))
  alias? := some "odd"

/-- What is compiled from it. -/
def oddKinds : Feature where
  name := "odd"
  raw := oddKindsText.raw
  formula := .binary (.unary .negate (.slot 0)) (.compare .lt) (.literal (.int (-1)))
  aggregates := [⟨.count, .attr "id", .past,
    some (.binary (.attr "kind") .isIn
      (.list [.literal (.text "2020-01-01"), .literal (.text "null")])), none, none, none⟩]

/-- Its formula is read back, and so are those of its aggregate, whose texts stay texts: quotes and
signs are escaped and come back. -/
theorem compiled_reads_back_oddKinds :
    Feature.compile true [] oddKindsText.raw = .ok oddKinds ∧
      ∀ g ∈ oddKinds.formulas, (∀ x, .literal (.float x) ∉ g.parts) ∧
        decode g.toJson = .ok g ∧ (Json.Document.ofText g.toJson.text).decode decode = .ok g := by
  have compiled : Feature.compile true [] oddKindsText.raw = .ok oddKinds :=
    Feature.compile_eq_ok (t := oddKindsText) rfl rfl rfl rfl rfl
  have noFloat : ∀ g ∈ oddKinds.formulas, ∀ x, .literal (.float x) ∉ g.parts := by
    simp [oddKinds, Feature.formulas, Aggregate.formulas, Aggregate.clauses, parts, partsOfAll]
  have shallow : ∀ g ∈ oddKinds.formulas, g.toJson.nesting ≤ 127 := by decide
  have slots : ∀ g ∈ oddKinds.formulas, ∀ n : Nat, .slot n ∈ g.parts →
      Number.fitsWord n = true := by
    simp [oddKinds, Feature.formulas, Aggregate.formulas, Aggregate.clauses, parts, partsOfAll]
    decide
  refine ⟨compiled, fun g hg => ⟨noFloat g hg, ?_⟩⟩
  have back := compiled_reads_back (.inl ⟨oddKinds, ⟨_, _, _, compiled⟩, hg⟩) (noFloat g hg)
  exact ⟨back.1, back.2 (shallow g hg) (slots g hg)⟩

end Formula
end Hindsight
