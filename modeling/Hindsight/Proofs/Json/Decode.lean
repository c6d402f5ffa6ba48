import Hindsight.Json.Decode
import Hindsight.Proofs.Except
import Hindsight.Proofs.Json.Path

/-!
# What decoding reads

A record is decoded from its fields one after the other (`Json.exists_fields_of_decodeMembers`), so
what holds of the record at the start and is kept by each part of the tree holds of it in the end
(`Json.decodeMembers_preserves`), and so does what one field makes true and the others keep
(`Json.decodeMembers_reaches`). A part is
nested less deep than its tree, and what holds throughout the tree holds throughout the part. A
dictionary of trees is decoded from an object with its members in order
(`Json.decodeDict_decodeAny`), and such members are decoded as they are
(`Json.decodeDict_decodeAny_entries`).
-/

namespace Hindsight
namespace Json

/-- The items of an array, or the values of the members of an object. -/
def parts : Json → List Json
  | array items => items
  | object members => members.map (·.2)
  | _ => []

/-- What holds throughout a tree holds throughout each of its parts. -/
theorem every_of_mem_parts {p : Json → Prop} {j part : Json} (all : j.Every p)
    (h : part ∈ j.parts) : part.Every p := by
  cases j with
  | array items => exact everyOfItems_iff.1 all part h
  | object members =>
    obtain ⟨m, member, rfl⟩ := List.mem_map.1 h
    exact everyOfMembers_iff.1 all m member
  | null | bool _ | int _ | float _ | string _ | fault _ => cases h

/-- A part of a tree is nested less deep than the tree. -/
theorem nesting_lt_of_mem_parts {j part : Json} (h : part ∈ j.parts) :
    part.nesting < j.nesting := by
  cases j with
  | array items => exact Nat.lt_succ_of_le (nestingOfItems_le_iff.1 le_rfl part h)
  | object members =>
    obtain ⟨m, member, rfl⟩ := List.mem_map.1 h
    exact Nat.lt_succ_of_le (nestingOfMembers_le_iff.1 le_rfl m member)
  | null | bool _ | int _ | float _ | string _ | fault _ => cases h

/-- What a tree gives for a field of a record: the member of that name, or the item in its place. -/
def RecordShape.given? {σ : Type} (shape : RecordShape σ) (name : String) : Json → Option Json
  | object members => (object members).get? name
  | array items => (object (shape.names.zip items)).get? name
  | _ => none

/-- Steps that are taken for some items alone, where the others are skipped, are the steps for
those. -/
theorem foldlM_filter_of_skipped {α σ : Type} {p skipped : α → Bool} {f : σ → α → Decoded σ}
    {e : DecodeError} {items : List α} {s t : σ}
    (h : items.foldlM (fun s a => if p a then f s a else if skipped a then pure s else throw e) s =
      .ok t) :
    (items.filter p).foldlM f s = .ok t := by
  induction items generalizing s with
  | nil => exact h
  | cons a items ih =>
    obtain ⟨next, first, later⟩ := bind_eq_ok_iff.1 (by rwa [List.foldlM_cons] at h)
    by_cases taken : p a = true
    · rw [if_pos taken] at first
      rw [List.filter_cons_of_pos taken, List.foldlM_cons, first]
      exact ih later
    · rw [if_neg taken] at first
      rw [List.filter_cons_of_neg taken]
      split at first
      · obtain rfl := Except.ok.inj first
        exact ih later
      · cases first

/-- **A record is decoded from its fields**, one after the other. They are among the parts of the
tree, and what the tree gives for a field is one of them. -/
theorem exists_fields_of_decodeMembers {σ : Type} {shape : RecordShape σ} {start s : σ}
    {absent : String → DecodeError} {j : Json}
    (h : decodeMembers shape start j = .ok (s, absent)) :
    ∃ fields : List (String × Json),
      fields.foldlM (fun s m => shape.step s m.1 m.2) start = .ok s ∧
        (∀ m ∈ fields, m.2 ∈ j.parts) ∧
          ∀ name ∈ shape.names, ∀ part, shape.given? name j = some part →
            (name, part) ∈ fields := by
  cases j with
  | object members =>
    obtain ⟨t, read, rest⟩ := bind_eq_ok_iff.1 h
    obtain rfl : t = s := congrArg Prod.fst (Except.ok.inj rest)
    refine ⟨_, foldlM_filter_of_skipped read,
      fun m hm => List.mem_map_of_mem (List.mem_filter.1 hm).1, fun name known part given => ?_⟩
    exact List.mem_filter.2 ⟨mem_of_get? given, List.contains_iff_mem.2 known⟩
  | array items =>
    obtain ⟨t, read, rest⟩ := bind_eq_ok_iff.1 h
    have same : t = s := by
      split at rest
      · cases rest
      · exact congrArg Prod.fst (Except.ok.inj rest)
    obtain rfl := same
    exact ⟨_, read, fun m hm => (List.of_mem_zip hm).2, fun _ _ _ given => mem_of_get? given⟩
  | null | bool _ | int _ | float _ | string _ | fault _ => cases h

section Record

variable {σ : Type} {shape : RecordShape σ} {P : σ → Prop} {start s : σ}
  {absent : String → DecodeError} {j : Json}

/-- **What each part keeps** holds of the record in the end, by induction on the members or the
items it is decoded from. -/
theorem decodeMembers_preserves (h : decodeMembers shape start j = .ok (s, absent))
    (first : P start)
    (step : ∀ part ∈ j.parts, ∀ name s t, shape.step s name part = .ok t → P s → P t) : P s := by
  obtain ⟨fields, read, parts, -⟩ := exists_fields_of_decodeMembers h
  exact foldlM_preserves read first fun m hm => step m.2 (parts m hm) m.1

/-- **What the tree for a field makes true** and the others keep holds of the record in the end. So
a field of the record is tied to the tree that was given for it. -/
theorem decodeMembers_reaches {name : String} {part : Json}
    (h : decodeMembers shape start j = .ok (s, absent)) (known : name ∈ shape.names)
    (given : shape.given? name j = some part)
    (reach : ∀ s t, shape.step s name part = .ok t → P t)
    (keep : ∀ name part s t, shape.step s name part = .ok t → P s → P t) : P s := by
  obtain ⟨fields, read, -, all⟩ := exists_fields_of_decodeMembers h
  exact foldlM_reaches read (all name known part given) reach fun m _ => keep m.1 m.2

end Record

/-- A field that is decoded was not there before, and its tree decodes. A second tree for it is a
fault. -/
theorem once_eq_ok {α : Type} {slot filled : Option α} {decode : Json → Decoded α} {j : Json}
    (h : once slot decode j = .ok filled) :
    slot = none ∧ ∃ a, decode j = .ok a ∧ filled = some a := by
  cases slot with
  | some _ => cases h
  | none =>
    obtain ⟨a, decoded, rfl⟩ := map_eq_ok_iff.1 h
    exact ⟨rfl, a, decoded, rfl⟩

/-- Something that is decoded where null may stand is decoded from its tree. -/
theorem decodeOption_eq_ok_some {α : Type} {decode : Json → Decoded α} {j : Json} {a : α}
    (h : decodeOption decode j = .ok (some a)) : decode j = .ok a := by
  unfold decodeOption at h
  split at h
  · cases h
  · obtain ⟨b, decoded, same⟩ := map_eq_ok_iff.1 h
    rwa [← Option.some.inj same]

/-- Whatever is decoded as it is comes out in canonical form. -/
theorem decodeAny_eq_ok {j k : Json} (h : decodeAny j = .ok k) : k = j.canonical := by
  unfold decodeAny at h
  split at h
  · exact (Except.ok.inj h).symm
  · cases h

/-- A dictionary of trees has the members of an object, each of them in order. Of those with one
name the last counts. -/
theorem decodeDict_decodeAny {j : Json} {d : Dict String Json}
    (h : decodeDict decodeAny j = .ok d) :
    ∃ members, j = .object members ∧ d = Dict.ofList (canonicalMembers members) := by
  cases j with
  | object members =>
    obtain ⟨entries, read, rest⟩ := bind_eq_ok_iff.1 h
    obtain rfl := Except.ok.inj rest
    have inOrder : entries = canonicalMembers members := by
      have each := mapM_eq_ok_iff.1 read
      clear h read rest
      induction each with
      | nil => rfl
      | cons here _ ih =>
        obtain ⟨tree, decoded, made⟩ := bind_eq_ok_iff.1 here
        rw [← Except.ok.inj made, decodeAny_eq_ok decoded, ih, canonicalMembers]
    exact ⟨members, rfl, congrArg Dict.ofList inOrder⟩
  | null | bool _ | int _ | float _ | string _ | fault _ | array _ => cases h

/-- Members in order, with trees that are readable and in order, are decoded as they are. What was
written from a dictionary is of this form. -/
theorem decodeDict_decodeAny_entries {d : Dict String Json} (ordered : d.Ordered)
    (plain : ∀ m ∈ d.entries, m.2.isReadable = true ∧ m.2.canonical = m.2) :
    decodeDict decodeAny (.object d.entries) = .ok d := by
  have each : d.entries.mapM (fun m => do return (m.1, ← decodeAny m.2)) =
      (.ok (d.entries.map id) : Decoded (List (String × Json))) :=
    mapM_eq_ok_map fun m hm => by
      obtain ⟨readable, inOrder⟩ := plain m hm
      rw [decodeAny, if_pos readable, inOrder]
      rfl
  rw [decodeDict, each, List.map_id, ok_bind, Dict.ofList_entries ordered]
  rfl

end Json
end Hindsight
