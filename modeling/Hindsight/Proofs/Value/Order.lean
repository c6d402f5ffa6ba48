import Hindsight.Proofs.Time.Instant
import Hindsight.Value.Basic
import Mathlib.Data.Bool.Basic
import Mathlib.Data.String.Basic

/-!
# The order of values

Truth values, integers, texts and instants are linearly ordered within their kind, and do not
compare across kinds. So among such values comparison is reflexive (`Value.compare_self`), can be
turned round (`Value.compare_swap`), and is transitive where the values compare
(`Value.compare_trans`). Floats are left out: a NaN does not compare with itself, and integers that
differ may compare equal to one float. The order itself is told kind by kind (`Value.Le`), and
comparison agrees with it (`Value.le_iff`).
-/

namespace Hindsight
namespace Value

/-- Values of a kind that is linearly ordered. -/
def isOrdinal : Value → Bool
  | bool _ | int _ | text _ | instant _ => true
  | _ => false

/-- The values of a kind compare as a linear order does, and with no ordinal value of another
kind. -/
structure IsKind {α : Type} [LinearOrder α] (wrap : α → Value) : Prop where
  compare_wrap (a b : α) : (wrap a).compare (wrap b) = some (Ord.compare a b)
  apart (w : Value) : w.isOrdinal = true →
    (∃ b, w = wrap b) ∨ ∀ a, (wrap a).compare w = none ∧ w.compare (wrap a) = none

/-- **An ordinal value belongs to a kind.** What is known of linear orders is carried over from the
kinds, and none of the facts below is proved once for each kind. -/
theorem exists_isKind {v : Value} (ordinal : v.isOrdinal = true) :
    ∃ (α : Type) (_ : LinearOrder α) (wrap : α → Value), IsKind wrap ∧ ∃ a, v = wrap a := by
  cases v with
  | bool a =>
    refine ⟨Bool, inferInstance, bool, ⟨fun _ _ => rfl, fun w hw => ?_⟩, a, rfl⟩
    cases w <;> first | exact .inl ⟨_, rfl⟩ | exact .inr fun _ => ⟨rfl, rfl⟩
  | int a =>
    refine ⟨Int, inferInstance, int, ⟨fun _ _ => rfl, fun w hw => ?_⟩, a, rfl⟩
    cases w <;> first | exact .inl ⟨_, rfl⟩ | exact .inr fun _ => ⟨rfl, rfl⟩ | cases hw
  | text a =>
    refine ⟨String, inferInstance, text, ⟨fun _ _ => rfl, fun w hw => ?_⟩, a, rfl⟩
    cases w <;> first | exact .inl ⟨_, rfl⟩ | exact .inr fun _ => ⟨rfl, rfl⟩
  | instant a =>
    refine ⟨Time.Instant, inferInstance, instant, ⟨fun _ _ => rfl, fun w hw => ?_⟩, a, rfl⟩
    cases w <;> first | exact .inl ⟨_, rfl⟩ | exact .inr fun _ => ⟨rfl, rfl⟩
  | _ => cases ordinal

variable {u v w : Value}

/-- A value of an ordered kind is equal to itself. Floats are not of such a kind. -/
theorem compare_self (hv : v.isOrdinal = true) : v.compare v = some .eq := by
  obtain ⟨α, _, wrap, kind, a, rfl⟩ := exists_isKind hv
  rw [kind.compare_wrap, compare_eq_iff_eq.2 rfl]

/-- Ordinal values that compare equal are equal, since each kind is a linear order. -/
theorem eq_of_compare (hv : v.isOrdinal = true) (hw : w.isOrdinal = true)
    (h : v.compare w = some .eq) : v = w := by
  obtain ⟨α, _, wrap, kind, a, rfl⟩ := exists_isKind hv
  rcases kind.apart w hw with ⟨b, rfl⟩ | apart
  · rw [kind.compare_wrap, Option.some.injEq, compare_eq_iff_eq] at h
    rw [h]
  · rw [(apart a).1] at h
    cases h

/-- **Comparison can be turned round.** Values of two kinds do not compare in either direction. -/
theorem compare_swap (hv : v.isOrdinal = true) (hw : w.isOrdinal = true) :
    w.compare v = (v.compare w).map Ordering.swap := by
  obtain ⟨α, _, wrap, kind, a, rfl⟩ := exists_isKind hv
  rcases kind.apart w hw with ⟨b, rfl⟩ | apart
  · rw [kind.compare_wrap, kind.compare_wrap, Option.map_some, Std.OrientedOrd.eq_swap]
  · rw [(apart a).1, (apart a).2]
    rfl

/-- **Comparison is transitive.** Three values of which neighbours compare are of one kind. -/
theorem compare_trans {o : Ordering} (hu : u.isOrdinal = true) (hv : v.isOrdinal = true)
    (hw : w.isOrdinal = true) (h : u.compare v = some o) (h' : v.compare w = some o) :
    u.compare w = some o := by
  obtain ⟨α, _, wrap, kind, b, rfl⟩ := exists_isKind hv
  rcases kind.apart u hu with ⟨a, rfl⟩ | apart
  · rcases kind.apart w hw with ⟨c, rfl⟩ | apart
    · rw [kind.compare_wrap, Option.some.injEq] at h h' ⊢
      cases o with
      | lt => exact compare_lt_iff_lt.2 ((compare_lt_iff_lt.1 h).trans (compare_lt_iff_lt.1 h'))
      | eq => exact compare_eq_iff_eq.2 ((compare_eq_iff_eq.1 h).trans (compare_eq_iff_eq.1 h'))
      | gt => exact compare_gt_iff_gt.2 ((compare_gt_iff_gt.1 h').trans (compare_gt_iff_gt.1 h))
    · rw [(apart b).1] at h'
      cases h'
  · rw [(apart b).2] at h
    cases h

/-- Two values compare with each other. -/
def Comparable (v w : Value) : Prop := v.compare w ≠ none

instance (v w : Value) : Decidable (v.Comparable w) :=
  inferInstanceAs (Decidable (_ ≠ _))

/-- Values of ordered kinds compare in both orders or in neither. -/
theorem Comparable.symm (hv : v.isOrdinal = true) (hw : w.isOrdinal = true)
    (h : v.Comparable w) : w.Comparable v := by
  rwa [Comparable, compare_swap hv hw, Ne, Option.map_eq_none_iff]

/-- Values that compare with a third one compare with each other: among ordered kinds, to compare is
to be of one kind of order. -/
theorem Comparable.trans (hu : u.isOrdinal = true) (hv : v.isOrdinal = true)
    (hw : w.isOrdinal = true) (h : u.Comparable v) (h' : v.Comparable w) : u.Comparable w := by
  obtain ⟨α, _, wrap, kind, b, rfl⟩ := exists_isKind hv
  rcases kind.apart u hu with ⟨a, rfl⟩ | apart
  · rcases kind.apart w hw with ⟨c, rfl⟩ | apart
    · rw [Comparable, kind.compare_wrap]
      exact Option.some_ne_none _
    · exact absurd (apart b).1 h'
  · exact absurd (apart b).2 h

/-- **The order within a kind:** false comes before true, integers go by size, texts by their
characters and instants by time. -/
inductive Le : Value → Value → Prop
  | bool {a b : Bool} (h : a ≤ b) : Le (.bool a) (.bool b)
  | int {m n : Int} (h : m ≤ n) : Le (.int m) (.int n)
  | text {s t : String} (h : s ≤ t) : Le (.text s) (.text t)
  | instant {s t : Time.Instant} (h : s ≤ t) : Le (.instant s) (.instant t)

/-- Ordinal values are in order if they compare and the first is not greater. -/
theorem le_iff (hv : v.isOrdinal = true) (hw : w.isOrdinal = true) :
    v.Le w ↔ ∃ o, v.compare w = some o ∧ o ≠ .gt := by
  constructor
  · rintro (h | h | h | h) <;> exact ⟨_, rfl, compare_le_iff_le.2 h⟩
  · rintro ⟨o, compared, least⟩
    cases v with
    | bool a =>
      cases w with
      | bool b => exact .bool (compare_le_iff_le.1 (Option.some.inj compared ▸ least))
      | _ => cases compared
    | int m =>
      cases w with
      | int n => exact .int (compare_le_iff_le.1 (Option.some.inj compared ▸ least))
      | float _ => cases hw
      | _ => cases compared
    | text s =>
      cases w with
      | text t => exact .text (compare_le_iff_le.1 (Option.some.inj compared ▸ least))
      | _ => cases compared
    | instant s =>
      cases w with
      | instant t => exact .instant (compare_le_iff_le.1 (Option.some.inj compared ▸ least))
      | _ => cases compared
    | _ => cases hv

/-- Only values of ordered kinds are at most one another. -/
theorem Le.isOrdinal (h : v.Le w) : v.isOrdinal = true ∧ w.isOrdinal = true := by
  cases h <;> exact ⟨rfl, rfl⟩

/-- Values that are at most each other are the same, so a least value is unique. -/
theorem Le.antisymm (h : v.Le w) (h' : w.Le v) : v = w := by
  cases h with
  | bool h => cases h' with | bool h' => rw [le_antisymm h h']
  | int h => cases h' with | int h' => rw [le_antisymm h h']
  | text h => cases h' with | text h' => rw [le_antisymm h h']
  | instant h => cases h' with | instant h' => rw [le_antisymm h h']

instance (v w : Value) : Decidable (v.Le w) :=
  decidable_of_iff ((v.isOrdinal = true ∧ w.isOrdinal = true) ∧
      ((v.compare w).any fun o => o != .gt) = true)
    ⟨fun ⟨⟨hv, hw⟩, h⟩ => (le_iff hv hw).2 (by simpa [Option.any_eq_true] using h), fun h =>
      ⟨h.isOrdinal, by simpa [Option.any_eq_true] using (le_iff h.isOrdinal.1 h.isOrdinal.2).1 h⟩⟩

end Value
end Hindsight
