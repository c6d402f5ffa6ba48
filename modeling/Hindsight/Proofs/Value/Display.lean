import Hindsight.Aggregate.Grouped
import Hindsight.Aggregate.Totals
import Hindsight.Proofs.Time.Text
import Hindsight.Proofs.Value.Order

/-!
# What the text of a value tells

Values are told apart by their kind and their text, whether they are counted or divided into groups
(`GroupKey.of_eq_iff`), and a kind can be read off what stands in front of the first colon
(`Value.typeName_append_inj`). Only a text looks like a kind with a colon behind it
(`Value.eq_text_of_display`). Within a kind truth values, integers, texts and instants have texts of
their own (`Value.eq_of_display`).

A list does not: its text joins those of its items with commas and shows neither their kinds nor
where a text among them ends. The items can be read off as long as no text among them could be taken
for something else (`Value.eq_of_display_list`).
-/

namespace Hindsight

namespace Value

variable {v w : Value}

/-- The names of kinds. -/
def typeNames : List String :=
  ["null", "bool", "int", "float", "string", "datetime", "list", "map"]

/-- The kind of a value is one of eight, whose names are listed. -/
theorem typeName_mem (v : Value) : v.typeName ∈ typeNames := by
  cases v <;> simp [typeName, typeNames]

/-- No kind has a colon in its name, so a name ends at the first colon behind it. -/
theorem typeName_ne_colon (v : Value) : ∀ c ∈ v.typeName.toList, (c != ':') = true := by
  have each : typeNames.all (fun name => name.toList.all (· != ':')) = true := by decide
  exact List.all_eq_true.1 (List.all_eq_true.1 each _ v.typeName_mem)

/-- **A kind and a text** can be read off the two with a colon between them, because no kind has a
colon in its name. -/
theorem typeName_append_inj {s t : String}
    (h : v.typeName ++ ":" ++ s = w.typeName ++ ":" ++ t) : v.typeName = w.typeName ∧ s = t := by
  have chars : v.typeName.toList ++ ':' :: s.toList = w.typeName.toList ++ ':' :: t.toList := by
    simpa using congrArg String.toList h
  have split (u : Value) (r : String) :
      (u.typeName.toList ++ ':' :: r.toList).takeWhile (· != ':') = u.typeName.toList ∧
        (u.typeName.toList ++ ':' :: r.toList).dropWhile (· != ':') = ':' :: r.toList :=
    takeWhile_append_of_apart u.typeName_ne_colon (by simp)
  have kind := (split v s).1.symm.trans (chars ▸ (split w t).1)
  have text := (split v s).2.symm.trans (chars ▸ (split w t).2)
  exact ⟨String.toList_inj.1 kind, String.toList_inj.1 (List.cons.inj text).2⟩

/-- **Values count as one just if their kinds and their texts are the same**: the key is made of
both, and both can be read off it. -/
theorem distinctKey_eq_iff :
    v.distinctKey = w.distinctKey ↔ v.typeName = w.typeName ∧ v.display = w.display := by
  constructor
  · exact typeName_append_inj
  · rintro ⟨kind, text⟩
    rw [distinctKey, distinctKey, kind, text]

end Value

/-- **Values are in one group** just if they count as one. The key of a group holds the kind and the
text of the value. -/
theorem GroupKey.of_eq_iff {v w : Value} :
    GroupKey.of v = GroupKey.of w ↔ v.distinctKey = w.distinctKey := by
  rw [Value.distinctKey_eq_iff, GroupKey.of, GroupKey.of, GroupKey.mk.injEq, and_comm]

namespace Value

variable {v w : Value}

section Characters

/-- An integer is written with digits, behind a hyphen if it is negative. -/
theorem toList_toString (n : Int) :
    (toString n).toList =
      if n < 0 then '-' :: Nat.toDigits 10 n.natAbs else Nat.toDigits 10 n.natAbs := by
  cases n with
  | ofNat m =>
    rw [if_neg (by simp)]
    exact Nat.toList_repr
  | negSucc m =>
    rw [if_pos (Int.negSucc_lt_zero m)]
    simp [toString, Int.repr]

/-- **Integers with one text** are equal: the hyphen tells the sign, and the digits the rest. -/
theorem toString_injective {m n : Int} (h : toString m = toString n) : m = n := by
  have chars := congrArg String.toList h
  have noSign (k : Nat) (cs : List Char) : Nat.toDigits 10 k ≠ '-' :: cs := fun same => by
    have digit : '-'.isDigit = true :=
      Number.isDigit_of_mem_toDigits (same ▸ List.mem_cons_self)
    cases digit
  have digits {k l : Nat} (same : Nat.toDigits 10 k = Nat.toDigits 10 l) : k = l := by
    rw [← Number.digitsValue_toDigits k, same, Number.digitsValue_toDigits]
  rw [toList_toString, toList_toString] at chars
  split at chars <;> split at chars
  · have := digits (List.cons.inj chars).2
    omega
  · exact absurd chars.symm (noSign _ _)
  · exact absurd chars (noSign _ _)
  · have := digits chars
    omega

/-- A character of an integer is a digit or the hyphen. -/
theorem isDigit_or_of_mem_toString {n : Int} {c : Char} (h : c ∈ (toString n).toList) :
    c.isDigit = true ∨ c = '-' := by
  rw [toList_toString] at h
  split at h
  · rcases List.mem_cons.1 h with sign | digit
    · exact .inr sign
    · exact .inl (Number.isDigit_of_mem_toDigits digit)
  · exact .inl (Number.isDigit_of_mem_toDigits h)

/-- The text of a float has no colon. -/
theorem colon_not_mem_floatText (x : Float) : ':' ∉ (Number.floatText x).toList := by
  have digits {k : Nat} {ds : List Char} (sub : ds ⊆ Nat.toDigits 10 k) : ':' ∉ ds := fun h => by
    have digit : ':'.isDigit = true := Number.isDigit_of_mem_toDigits (sub h)
    cases digit
  have zeros (n : Nat) : ':' ∉ (Number.zeros n).toList := by
    simp [Number.zeros]
  have positional {k : Nat} (p : Int) :
      ':' ∉ (Number.positionalText false (Nat.toDigits 10 k) p).toList := by
    have all := digits (List.Subset.refl (Nat.toDigits 10 k))
    rw [Number.positionalText]
    split
    · simp [zeros, all]
    · split
      · simp [zeros, all]
      · simp [digits (List.take_subset p.toNat (Nat.toDigits 10 k)),
          digits (List.drop_subset p.toNat (Nat.toDigits 10 k))]
  have sign : ':' ∉ (if Number.signBit x then "-" else "").toList := by
    cases Number.signBit x <;> decide
  have signed {s : String} (h : ':' ∉ s.toList) :
      ':' ∉ ((if Number.signBit x then "-" else "") ++ s).toList := by
    rw [String.toList_append, List.mem_append, not_or]
    exact ⟨sign, h⟩
  rw [Number.floatText, Number.Layout.text]
  split
  · decide
  · dsimp only [Number.Layout.plain]
    split
    · exact signed (by decide)
    · split
      · exact signed (by decide)
      · exact signed (positional _)

/-- A digit is no small letter. -/
theorem not_isLower_of_isDigit {c : Char} (h : c.isDigit = true) : c.isLower = false := by
  rw [isDigit_iff] at h
  show (decide ('a'.val ≤ c.val) && decide (c.val ≤ 'z'.val)) = false
  simp [UInt32.le_iff_toNat_le, ← Char.toNat_val] at h ⊢
  omega

/-- The text of an instant starts with a digit or the sign of its year. -/
theorem not_isLower_head_of_instant (t : Time.Instant) :
    ∀ c ∈ t.text.toList.head?, c.isLower = false := by
  have digits {width n : Nat} {cs : List Char} :
      ∀ c ∈ ((Time.padded width n).toList ++ cs).head?, c.isLower = false := by
    intro c hc
    rw [List.head?_append_of_ne_nil _ (Time.padded_ne_nil width n)] at hc
    exact not_isLower_of_isDigit (Time.isDigit_of_mem_padded (List.mem_of_mem_head? hc))
  rw [Time.Instant.toList_text, Time.yearText]
  split
  · exact digits
  · have minus : '-'.isLower = false := by decide
    have plus : '+'.isLower = false := by decide
    split
    · simp [minus]
    · simp [plus]

end Characters

/-- **Only a text looks like a kind with a colon behind it.** Every other value starts with
something else than a kind, or has no colon. -/
theorem eq_text_of_display {s : String} (h : v.display = w.typeName ++ ":" ++ s) :
    v = text v.display := by
  have colon : ':' ∈ v.display.toList := by
    rw [h]
    simp
  have lower : ∃ c, v.display.toList.head? = some c ∧ c.isLower = true := by
    have each : typeNames.all (fun name => name.toList.head?.any Char.isLower) = true := by
      decide
    obtain ⟨c, first, lower⟩ := (Option.any_eq_true _ _).1
      (List.all_eq_true.1 each _ w.typeName_mem)
    refine ⟨c, ?_, lower⟩
    rw [h, String.toList_append, String.toList_append, List.append_assoc, List.head?_append, first]
    rfl
  obtain ⟨c, first, lower⟩ := lower
  cases v with
  | text s => rfl
  | null => exact absurd colon (by decide)
  | bool b => exact absurd colon (by cases b <;> decide)
  | int n =>
    rcases isDigit_or_of_mem_toString colon with digit | sign
    · cases digit
    · cases sign
  | float x => exact absurd colon (colon_not_mem_floatText x)
  | negativeNaN => exact absurd colon (colon_not_mem_floatText Number.nan)
  | instant t =>
    rw [not_isLower_head_of_instant t c first] at lower
    cases lower
  | list items =>
    rw [display, String.toList_append, String.toList_append] at first
    cases first
    cases lower
  | map entries =>
    rw [display, String.toList_append, String.toList_append] at first
    cases first
    cases lower

section Scalars

/-- Null, or a value of a kind that is linearly ordered: what a list of an event may hold, floats
apart. -/
def isSimple (v : Value) : Bool := v.isNull || v.isOrdinal

/-- Whether a value is a text. -/
def isText : Value → Bool
  | text _ => true
  | _ => false

/-- The kind of a simple value that is no text, as its text has it. -/
def kindOfText (s : String) : String :=
  if s = "null" then "null"
  else if s = "true" ∨ s = "false" then "bool"
  else if 'T' ∈ s.toList then "datetime"
  else "int"

/-- The text of an instant has a `T` in it, which no number and no truth value has. -/
theorem mem_text_of_instant (t : Time.Instant) : 'T' ∈ t.text.toList := by
  rw [Time.Instant.toList_text]
  simp

/-- **The kind of a simple value that is no text** can be read off its text. It is enough to look
for a few characters. -/
theorem kindOfText_display (simple : v.isSimple = true) (noText : v.isText = false) :
    kindOfText v.display = v.typeName := by
  cases v with
  | null => rfl
  | bool b => cases b <;> decide
  | int n =>
    have other {s : String} {c : Char} (mem : c ∈ s.toList) (letter : c.isDigit = false)
        (noSign : c ≠ '-') : toString n ≠ s := fun same =>
      (isDigit_or_of_mem_toString (same ▸ mem)).elim (by simp [letter]) noSign
    have noT : 'T' ∉ (toString n).toList := fun mem =>
      other mem rfl (by decide) rfl
    rw [display, kindOfText, if_neg (other (s := "null") (c := 'n') (by decide) rfl (by decide)),
      if_neg (not_or.2 ⟨other (s := "true") (c := 't') (by decide) rfl (by decide),
        other (s := "false") (c := 'f') (by decide) rfl (by decide)⟩), if_neg noT]
    rfl
  | instant t =>
    have other {s : String} (absent : 'T' ∉ s.toList) : t.text ≠ s := fun same =>
      absent (same ▸ mem_text_of_instant t)
    rw [display, kindOfText, if_neg (other (by decide)),
      if_neg (not_or.2 ⟨other (by decide), other (by decide)⟩), if_pos (mem_text_of_instant t)]
    rfl
  | text s => cases noText
  | _ => cases simple

/-- **Simple values of one kind and one text** are equal. Each kind is written in a way that can be
read back. -/
theorem eq_of_display (hv : v.isSimple = true)
    (kind : v.typeName = w.typeName) (h : v.display = w.display) : v = w := by
  cases v with
  | null => cases w <;> first | rfl | simp [typeName] at kind
  | bool a =>
    obtain ⟨b, rfl⟩ : ∃ b, w = bool b := by cases w <;> simp [typeName] at kind ⊢
    cases a <;> cases b <;> simp [display] at h ⊢
  | int m =>
    obtain ⟨n, rfl⟩ : ∃ n, w = int n := by cases w <;> simp [typeName] at kind ⊢
    rw [toString_injective h]
  | text s =>
    obtain ⟨t, rfl⟩ : ∃ t, w = text t := by cases w <;> simp [typeName] at kind ⊢
    exact congrArg text h
  | instant s =>
    obtain ⟨t, rfl⟩ : ∃ t, w = instant t := by cases w <;> simp [typeName] at kind ⊢
    rw [Time.Instant.text_injective h]
  | _ => cases hv

end Scalars

section Lists

/-- What stands between the texts of two items. -/
def separator : List Char := [',', ' ']

/-- Nothing of what starts with a separator belongs to an item without one. Where two items end is
told by this. -/
theorem eq_nil_of_suffix {b c s t : List Char} (noSeparator : ¬separator <:+: b)
    (hs : s = [] ∨ separator <+: s) (ht : t = [] ∨ separator <+: t) (hb : c <:+ b)
    (h : s = c ++ t) : c = [] := by
  match c with
  | [] => rfl
  | [x] =>
    subst h
    rcases hs with hs | hs
    · cases hs
    obtain ⟨rfl, blank⟩ := List.cons_prefix_cons.1 hs
    rcases ht with rfl | ⟨r, rfl⟩
    · exact absurd blank.length_le (by simp)
    · obtain ⟨same, -⟩ := List.cons_prefix_cons.1 blank
      cases same
  | x :: y :: c =>
    subst h
    rcases hs with hs | hs
    · cases hs
    obtain ⟨rfl, later⟩ := List.cons_prefix_cons.1 hs
    obtain ⟨rfl, -⟩ := List.cons_prefix_cons.1 later
    exact absurd (List.IsInfix.trans (List.prefix_append separator c).isInfix hb.isInfix)
      noSeparator

/-- **Items without a separator** can be read off in front of separators, since neither of two can
be longer. -/
theorem append_inj_of_separated {a b s t : List Char} (ha : ¬separator <:+: a)
    (hb : ¬separator <:+: b) (hs : s = [] ∨ separator <+: s) (ht : t = [] ∨ separator <+: t)
    (h : a ++ s = b ++ t) : a = b ∧ s = t := by
  rcases List.append_eq_append_iff.1 h with ⟨c, rfl, same⟩ | ⟨c, rfl, same⟩
  · obtain rfl := eq_nil_of_suffix hb hs ht (List.suffix_append a c) same
    simpa using same
  · obtain rfl := eq_nil_of_suffix ha ht hs (List.suffix_append b c) same
    simpa using same.symm

/-- **An item that is not mistaken** for another one: if it is a text, it is not empty, has no
separator in it, and is not the text of a value that is no text. -/
def IsUnmistakable : Value → Prop
  | text s => s ≠ "" ∧ ¬separator <:+: s.toList ∧
      ∀ v : Value, v.isSimple = true → v.display = s → v = text s
  | _ => True

/-- A word is not mistaken for anything else, unless it is one that stands for null or a truth
value. -/
theorem isUnmistakable_text {s : String} (noSeparator : ¬separator <:+: s.toList)
    (noConstant : s ∉ ["null", "true", "false"]) (noInstant : 'T' ∉ s.toList)
    (noInt : ∃ c ∈ s.toList, c.isDigit = false ∧ c ≠ '-') : (text s).IsUnmistakable := by
  refine ⟨?_, noSeparator, fun v simple same => ?_⟩
  · rintro rfl
    simp at noInt
  · subst same
    cases v with
    | text s => rfl
    | null => exact absurd List.mem_cons_self noConstant
    | bool b => exact absurd (by cases b <;> simp [display]) noConstant
    | int n =>
      obtain ⟨c, member, noDigit, noSign⟩ := noInt
      rcases isDigit_or_of_mem_toString member with digit | sign
      · rw [noDigit] at digit
        cases digit
      · exact absurd sign noSign
    | instant t => exact absurd (mem_text_of_instant t) noInstant
    | _ => cases simple

/-- Simple values with one text are one value, unless a text among them looks like another kind. -/
theorem eq_of_display_of_isUnmistakable (hv : v.isSimple = true) (hw : w.isSimple = true)
    (clear : v.IsUnmistakable) (clear' : w.IsUnmistakable) (h : v.display = w.display) :
    v = w := by
  cases textual : v.isText with
  | true =>
    obtain ⟨s, rfl⟩ : ∃ s, v = text s := by cases v <;> simp_all [isText]
    exact (clear.2.2 w hw h.symm).symm
  | false =>
    cases textual' : w.isText with
    | true =>
      obtain ⟨s, rfl⟩ : ∃ s, w = text s := by cases w <;> simp_all [isText]
      exact clear'.2.2 v hv h
    | false =>
      have kind : v.typeName = w.typeName := by
        rw [← kindOfText_display hv textual, h, kindOfText_display hw textual']
      exact eq_of_display hv kind h

/-- The text of an item that is not mistaken is not empty and has no separator in it. -/
theorem display_of_isUnmistakable (hv : v.isSimple = true) (clear : v.IsUnmistakable) :
    v.display.toList ≠ [] ∧ ¬separator <:+: v.display.toList := by
  have noBlank {cs : List Char} (absent : ' ' ∉ cs) : ¬separator <:+: cs := fun inside =>
    absent (inside.subset (by decide))
  cases v with
  | text s => exact ⟨fun empty => clear.1 (String.toList_inj.1 empty), clear.2.1⟩
  | null => exact ⟨by decide, noBlank (by decide)⟩
  | bool b => cases b <;> exact ⟨by decide, noBlank (by decide)⟩
  | int n =>
    refine ⟨?_, noBlank fun blank => ?_⟩
    · rw [display, toList_toString]
      split
      · simp
      · exact Nat.toDigits_ne_nil
    · rcases isDigit_or_of_mem_toString blank with digit | sign
      · cases digit
      · cases sign
  | instant t =>
    refine ⟨List.ne_nil_of_mem (mem_text_of_instant t), noBlank fun blank => ?_⟩
    cases t.not_isBlank_text _ blank
  | _ => cases hv

/-- Items behind the first each have a separator in front, if there are any. -/
theorem displayItems_eq_nil_or (vs : List Value) :
    (displayItems false vs).toList = [] ∨ separator <+: (displayItems false vs).toList := by
  cases vs with
  | nil => exact .inl rfl
  | cons v vs =>
    refine .inr ⟨v.display.toList ++ (displayItems false vs).toList, ?_⟩
    simp [displayItems, separator]

/-- Items are written one behind the other, with a separator before each but the first one. -/
theorem toList_displayItems_cons (first : Bool) (v : Value) (vs : List Value) :
    (displayItems first (v :: vs)).toList =
      (if first then [] else separator) ++
        (v.display.toList ++ (displayItems false vs).toList) := by
  cases first <;> simp [displayItems, separator]

/-- **Items that are not mistaken** can be read off the text of their list, by induction on the two
lists at once. -/
theorem eq_of_displayItems {xs ys : List Value}
    (hx : ∀ x ∈ xs, x.isSimple = true ∧ x.IsUnmistakable)
    (hy : ∀ y ∈ ys, y.isSimple = true ∧ y.IsUnmistakable) (first : Bool)
    (h : displayItems first xs = displayItems first ys) : xs = ys := by
  have nonempty (first : Bool) {z : Value} (zs : List Value)
      (hz : z.isSimple = true ∧ z.IsUnmistakable) :
      (displayItems first (z :: zs)).toList ≠ [] := by
    rw [toList_displayItems_cons]
    simp [(display_of_isUnmistakable hz.1 hz.2).1]
  induction xs generalizing ys first with
  | nil =>
    cases ys with
    | nil => rfl
    | cons y ys =>
      exact absurd (congrArg String.toList h).symm (nonempty first ys (hy y List.mem_cons_self))
  | cons x xs ih =>
    obtain ⟨⟨simple, clear⟩, hx⟩ := List.forall_mem_cons.1 hx
    cases ys with
    | nil => exact absurd (congrArg String.toList h) (nonempty first xs ⟨simple, clear⟩)
    | cons y ys =>
      obtain ⟨⟨simple', clear'⟩, hy⟩ := List.forall_mem_cons.1 hy
      have chars := congrArg String.toList h
      rw [toList_displayItems_cons, toList_displayItems_cons, List.append_cancel_left_eq] at chars
      obtain ⟨item, rest⟩ := append_inj_of_separated (display_of_isUnmistakable simple clear).2
        (display_of_isUnmistakable simple' clear').2 (displayItems_eq_nil_or xs)
        (displayItems_eq_nil_or ys) chars
      rw [eq_of_display_of_isUnmistakable simple simple' clear clear' (String.toList_inj.1 item),
        ih hx hy false (String.toList_inj.1 rest)]

/-- **A list of simple values can be read off its text** as long as no text in it could be taken for
something else, by induction on the items: the first one ends at the first comma. -/
theorem eq_of_display_list {xs ys : List Value}
    (hx : ∀ x ∈ xs, x.isSimple = true ∧ x.IsUnmistakable)
    (hy : ∀ y ∈ ys, y.isSimple = true ∧ y.IsUnmistakable)
    (h : (list xs).display = (list ys).display) : xs = ys := by
  have chars := congrArg String.toList h
  simp only [display, String.toList_append, List.append_cancel_left_eq,
    List.append_cancel_right_eq] at chars
  exact eq_of_displayItems hx hy true (String.toList_inj.1 chars)

/-- A value that an event may carry as an attribute, floats and maps apart: a value of a kind that
is linearly ordered, or a list of such values and nulls. -/
def isAttribute : Value → Bool
  | list items => items.all isSimple
  | v => v.isOrdinal

/-- Two different lists have one text. -/
def LooksLike (v w : Value) : Prop :=
  v ≠ w ∧ ∃ xs ys, v = list xs ∧ w = list ys ∧ v.display = w.display

/-- **Attributes count as one** if they are equal, or lists that look alike. Only in lists is there
something that the key does not tell. -/
theorem distinctKey_eq_iff_of_isAttribute (hv : v.isAttribute = true)
    (hw : w.isAttribute = true) : v.distinctKey = w.distinctKey ↔ v = w ∨ v.LooksLike w := by
  constructor
  · intro h
    obtain ⟨kind, text⟩ := distinctKey_eq_iff.1 h
    cases listed : v with
    | list xs =>
      obtain ⟨ys, rfl⟩ : ∃ ys, w = list ys := by
        cases w <;> simp [listed, typeName] at kind ⊢
      by_cases same : v = list ys
      · exact .inl (listed ▸ same)
      · exact .inr ⟨listed ▸ same, xs, ys, rfl, rfl, listed ▸ text⟩
    | _ =>
      have simple : v.isSimple = true := by simp_all [isAttribute, isSimple]
      rw [← listed]
      exact .inl (eq_of_display simple kind text)
  · rintro (rfl | ⟨-, xs, ys, rfl, rfl, text⟩)
    · rfl
    · exact distinctKey_eq_iff.2 ⟨rfl, text⟩

/-- Lists of items that are not mistaken do not look alike, so they count as one only if they are
equal. -/
theorem not_looksLike_of_isUnmistakable {xs ys : List Value}
    (hx : ∀ x ∈ xs, x.isSimple = true ∧ x.IsUnmistakable)
    (hy : ∀ y ∈ ys, y.isSimple = true ∧ y.IsUnmistakable) : ¬(list xs).LooksLike (list ys) := by
  rintro ⟨differ, -, -, -, -, text⟩
  exact differ (congrArg list (eq_of_display_list hx hy text))

end Lists

end Value
end Hindsight
