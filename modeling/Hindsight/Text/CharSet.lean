/-!
# Sets of characters

A set of characters as ranges of code points in increasing order, with a gap between one range and
the next. A look-up stops at the first range that does not end before the character. All operations
come from two: putting ranges together, and taking the gaps between them.

Main statements: a character is in a set made of ranges when it is in one of them
(`contains_ofRanges`), and in the complement of a set when it is not in the set
(`contains_complement`). So it is in a union when it is in either set (`contains_union`), and in an
intersection when it is in both (`contains_inter`).
-/

namespace Hindsight

/-- The code points from `first` to `last`. -/
structure CodeRange where
  first : Nat
  last : Nat
  first_le_last : first ≤ last
deriving DecidableEq, Repr

namespace CodeRange

/-- The code points from `a` to `b`, or `a` alone if `b` is less. -/
def upTo (a b : Nat) : CodeRange := ⟨a, max a b, Nat.le_max_left a b⟩

/-- A code point alone. -/
def single (a : Nat) : CodeRange := ⟨a, a, Nat.le_refl a⟩

/-- The code points of a range. -/
instance : Membership Nat CodeRange := ⟨fun r n => r.first ≤ n ∧ n ≤ r.last⟩

/-- A code point is in a range if it lies between the two ends. -/
theorem mem_iff {r : CodeRange} {n : Nat} : n ∈ r ↔ r.first ≤ n ∧ n ≤ r.last := Iff.rfl

instance (n : Nat) (r : CodeRange) : Decidable (n ∈ r) :=
  inferInstanceAs (Decidable (r.first ≤ n ∧ n ≤ r.last))

/-- A range ends before another one starts, with a gap between them. -/
def Apart (r s : CodeRange) : Prop := r.last + 1 < s.first

/-- Whether a range starts no later than another one. -/
def startsFirst (r s : CodeRange) : Bool := r.first ≤ s.first

/-- A range and those that start behind it, joined where there is no gap. -/
def joined (r : CodeRange) : List CodeRange → List CodeRange
  | [] => [r]
  | s :: rest =>
    if s.first ≤ r.last + 1 then
      joined ⟨r.first, max r.last s.last, Nat.le_trans r.first_le_last (Nat.le_max_left ..)⟩ rest
    else r :: joined s rest

/-- Joining starts no range earlier. -/
theorem le_first_of_mem_joined {m : Nat} {r : CodeRange} {l : List CodeRange} (hr : m ≤ r.first)
    (hl : ∀ s ∈ l, m ≤ s.first) : ∀ s ∈ r.joined l, m ≤ s.first := by
  fun_induction joined r l with
  | case1 r => simpa using hr
  | case2 r s rest _ ih => exact ih hr fun t ht => hl t (List.mem_cons_of_mem _ ht)
  | case3 r s rest _ ih =>
    have := ih (hl s (List.mem_cons_self ..)) fun t ht => hl t (List.mem_cons_of_mem _ ht)
    simpa using ⟨hr, this⟩

/-- Joined ranges lie apart. -/
theorem pairwise_joined {r : CodeRange} {l : List CodeRange}
    (h : (r :: l).Pairwise fun a b => a.first ≤ b.first) : (r.joined l).Pairwise Apart := by
  fun_induction joined r l with
  | case1 r => simp
  | case2 r s rest _ ih =>
    obtain ⟨hr, hs⟩ := List.pairwise_cons.1 h
    exact ih (List.pairwise_cons.2
      ⟨fun t ht => hr t (List.mem_cons_of_mem _ ht), (List.pairwise_cons.1 hs).2⟩)
  | case3 r s rest gap ih =>
    obtain ⟨_, hs⟩ := List.pairwise_cons.1 h
    refine List.pairwise_cons.2 ⟨fun t ht => ?_, ih hs⟩
    have := le_first_of_mem_joined (Nat.le_refl s.first) (List.pairwise_cons.1 hs).1 t ht
    unfold Apart
    omega

/-- Joining keeps the code points. -/
theorem exists_mem_joined {n : Nat} {r : CodeRange} {l : List CodeRange}
    (h : (r :: l).Pairwise fun a b => a.first ≤ b.first) :
    (∃ s ∈ r.joined l, n ∈ s) ↔ ∃ s ∈ r :: l, n ∈ s := by
  fun_induction joined r l with
  | case1 r => simp
  | case2 r s rest gap ih =>
    obtain ⟨hr, hs⟩ := List.pairwise_cons.1 h
    rw [ih (List.pairwise_cons.2
      ⟨fun t ht => hr t (List.mem_cons_of_mem _ ht), (List.pairwise_cons.1 hs).2⟩)]
    have := hr s (List.mem_cons_self ..)
    have := s.first_le_last
    simp only [List.mem_cons, exists_eq_or_imp, mem_iff]
    rw [← or_assoc]
    refine or_congr ?_ Iff.rfl
    omega
  | case3 r s rest _ ih =>
    have := ih (List.pairwise_cons.1 h).2
    simp only [List.mem_cons, exists_eq_or_imp] at this ⊢
    rw [this]

/-- The greatest code point. -/
def maxCode : Nat := 1114111

/-- The code points from `start` on that lie in none of the ranges. -/
def gaps (start : Nat) : List CodeRange → List CodeRange
  | [] => if h : start ≤ maxCode then [⟨start, maxCode, h⟩] else []
  | r :: rest =>
    if h : start < r.first then ⟨start, r.first - 1, by omega⟩ :: gaps (r.last + 1) rest
    else gaps (r.last + 1) rest

/-- No gap starts before the place from which gaps are taken. -/
theorem le_first_of_mem_gaps {start : Nat} {l : List CodeRange} (hl : l.Pairwise Apart)
    (h : ∀ r ∈ l, start ≤ r.first) : ∀ g ∈ gaps start l, start ≤ g.first := by
  fun_induction gaps start l with
  | case1 start hs => simp
  | case2 start hs => simp
  | case3 start r rest hs ih =>
    obtain ⟨hr, hrest⟩ := List.pairwise_cons.1 hl
    have := ih hrest fun t ht => by have := hr t ht; unfold Apart at this; omega
    intro g hg
    rcases List.mem_cons.1 hg with rfl | hg
    · exact Nat.le_refl _
    · have := this g hg
      have := r.first_le_last
      omega
  | case4 start r rest hs ih =>
    obtain ⟨hr, hrest⟩ := List.pairwise_cons.1 hl
    have := ih hrest fun t ht => by have := hr t ht; unfold Apart at this; omega
    intro g hg
    have := this g hg
    have := r.first_le_last
    have := h r (List.mem_cons_self ..)
    omega

/-- Gaps lie apart. -/
theorem pairwise_gaps {start : Nat} {l : List CodeRange} (hl : l.Pairwise Apart) :
    (gaps start l).Pairwise Apart := by
  fun_induction gaps start l with
  | case1 | case2 => simp
  | case3 start r rest hs ih =>
    obtain ⟨hr, hrest⟩ := List.pairwise_cons.1 hl
    refine List.pairwise_cons.2 ⟨fun g hg => ?_, ih hrest⟩
    have := le_first_of_mem_gaps hrest
      (fun t ht => by have := hr t ht; unfold Apart at this; omega) g hg
    have := r.first_le_last
    unfold Apart
    simp only
    omega
  | case4 start r rest hs ih => exact ih (List.pairwise_cons.1 hl).2

/-- A code point lies in a gap when it lies in no range. -/
theorem exists_mem_gaps {n start : Nat} {l : List CodeRange} (hl : l.Pairwise Apart)
    (h : ∀ r ∈ l, start ≤ r.first) (hn : n ≤ maxCode) :
    (∃ g ∈ gaps start l, n ∈ g) ↔ start ≤ n ∧ ∀ r ∈ l, n ∉ r := by
  fun_induction gaps start l with
  | case1 start hs => simp [mem_iff, hn]
  | case2 start hs => simp; omega
  | case3 start r rest hs ih =>
    obtain ⟨hr, hrest⟩ := List.pairwise_cons.1 hl
    have later : ∀ t ∈ rest, r.last + 1 < t.first := hr
    have ih := ih hrest fun t ht => Nat.le_of_lt (later t ht)
    have := r.first_le_last
    simp only [List.mem_cons, exists_eq_or_imp, forall_eq_or_imp, ih]
    simp only [mem_iff]
    constructor
    · rintro (⟨_, _⟩ | ⟨_, out⟩)
      · exact ⟨by omega, by omega, fun t ht => by have := later t ht; omega⟩
      · exact ⟨by omega, by omega, out⟩
    · rintro ⟨_, _, out⟩
      by_cases n < r.first
      · exact .inl (by omega)
      · exact .inr ⟨by omega, out⟩
  | case4 start r rest hs ih =>
    obtain ⟨hr, hrest⟩ := List.pairwise_cons.1 hl
    have later : ∀ t ∈ rest, r.last + 1 < t.first := hr
    have ih := ih hrest fun t ht => Nat.le_of_lt (later t ht)
    have := r.first_le_last
    have := h r (List.mem_cons_self ..)
    simp only [List.mem_cons, forall_eq_or_imp, ih]
    simp only [mem_iff]
    exact ⟨fun ⟨_, out⟩ => ⟨by omega, by omega, out⟩, fun ⟨_, _, out⟩ => ⟨by omega, out⟩⟩

end CodeRange

/-- A set of characters. -/
structure CharSet where
  ranges : List CodeRange
  apart : ranges.Pairwise CodeRange.Apart
deriving DecidableEq

namespace CharSet

/-- Whether one of the ranges holds a code point, of which the first that does not end before it
decides. -/
def holds : List CodeRange → Nat → Bool
  | [], _ => false
  | r :: rest, n => if n ≤ r.last then r.first ≤ n else holds rest n

/-- Whether a character is in a set. -/
def contains (s : CharSet) (c : Char) : Bool := holds s.ranges c.toNat

/-- **Looking a code point up finds it just if a range has it**: where ranges come apart and in
order, the first one that does not end before the code point is the only one that can have it. -/
theorem holds_eq_true_iff {l : List CodeRange} {n : Nat} (hl : l.Pairwise CodeRange.Apart) :
    holds l n = true ↔ ∃ r ∈ l, n ∈ r := by
  induction l with
  | nil => simp [holds]
  | cons r rest ih =>
    obtain ⟨hr, hrest⟩ := List.pairwise_cons.1 hl
    have later : ∀ t ∈ rest, r.last + 1 < t.first := hr
    simp only [holds, List.mem_cons, exists_eq_or_imp, CodeRange.mem_iff]
    split
    · next h =>
      simp only [h, decide_eq_true_eq, and_true]
      refine ⟨.inl, fun m => m.elim id fun ⟨t, ht, _⟩ => ?_⟩
      have := later t ht
      omega
    · next h => simpa [h, CodeRange.mem_iff] using ih hrest

/-- A character is in a set when its code point is in one of the ranges. -/
theorem contains_iff {s : CharSet} {c : Char} :
    s.contains c = true ↔ ∃ r ∈ s.ranges, c.toNat ∈ r :=
  holds_eq_true_iff s.apart

/-- The empty set. -/
def empty : CharSet := ⟨[], .nil⟩

/-- Sorted ranges start one no earlier than the one before. -/
theorem pairwise_startsFirst_mergeSort (rs : List CodeRange) :
    (rs.mergeSort CodeRange.startsFirst).Pairwise fun r s => r.first ≤ s.first :=
  (List.pairwise_mergeSort (fun _ _ _ => by simpa [CodeRange.startsFirst] using Nat.le_trans)
    (fun _ _ => by simpa [CodeRange.startsFirst] using Nat.le_total ..) rs).imp
    fun h => by simpa [CodeRange.startsFirst] using h

/-- The set of the characters of ranges. -/
def ofRanges (rs : List CodeRange) : CharSet :=
  match h : rs.mergeSort CodeRange.startsFirst with
  | [] => empty
  | r :: rest =>
    ⟨r.joined rest, CodeRange.pairwise_joined (h ▸ pairwise_startsFirst_mergeSort rs)⟩

/-- A character is in a set made of ranges when it is in one of them. -/
theorem contains_ofRanges {rs : List CodeRange} {c : Char} :
    (ofRanges rs).contains c = true ↔ ∃ r ∈ rs, c.toNat ∈ r := by
  rw [contains_iff]
  have sorted := pairwise_startsFirst_mergeSort rs
  have same : (∃ r ∈ rs, c.toNat ∈ r) ↔
      ∃ r ∈ rs.mergeSort CodeRange.startsFirst, c.toNat ∈ r := by simp
  rw [same]
  unfold ofRanges
  split
  · next h => simp [empty, h]
  · next r rest h =>
    rw [h] at sorted
    exact (CodeRange.exists_mem_joined sorted).trans (by rw [h])

/-- The characters of either set. -/
def union (s t : CharSet) : CharSet := ofRanges (s.ranges ++ t.ranges)

/-- A character is in the union of two sets if it is in one of them. -/
theorem contains_union {s t : CharSet} {c : Char} :
    (s.union t).contains c = (s.contains c || t.contains c) := by
  rw [Bool.eq_iff_iff, union, contains_ofRanges, Bool.or_eq_true, contains_iff, contains_iff]
  simp only [List.mem_append, or_and_right, exists_or]

/-- The characters that are not in a set. -/
def complement (s : CharSet) : CharSet :=
  ⟨CodeRange.gaps 0 s.ranges, CodeRange.pairwise_gaps s.apart⟩

/-- A character is in the complement just if it is not in the set. A code point lies in a range or
in one of the gaps, which reach up to the last code point. -/
theorem contains_complement {s : CharSet} {c : Char} :
    s.complement.contains c = !s.contains c := by
  have small : c.toNat ≤ CodeRange.maxCode := by
    have : c.toNat.isValidChar := c.valid
    unfold Nat.isValidChar at this
    unfold CodeRange.maxCode
    omega
  rw [Bool.eq_iff_iff, Bool.not_eq_true', ← Bool.not_eq_true, contains_iff, contains_iff,
    complement, CodeRange.exists_mem_gaps s.apart (fun _ _ => Nat.zero_le _) small]
  simp

/-- The characters of both sets. -/
def inter (s t : CharSet) : CharSet := (s.complement.union t.complement).complement

/-- A character is in the intersection of two sets if it is in both, by the complements of their
complements. -/
theorem contains_inter {s t : CharSet} {c : Char} :
    (s.inter t).contains c = (s.contains c && t.contains c) := by
  simp [inter, contains_complement, contains_union]

/-- The characters of the first set that are not in the second. -/
def diff (s t : CharSet) : CharSet := (s.complement.union t).complement

/-- The characters of one of the sets that are not in both. -/
def symDiff (s t : CharSet) : CharSet := (s.diff t).union (t.diff s)

/-- All characters. -/
def all : CharSet := empty.complement

/-- The characters from one to another. -/
def range (first last : Char) : CharSet := ofRanges [.upTo first.toNat last.toNat]

/-- The set of one character. -/
def single (c : Char) : CharSet := ofRanges [.single c.toNat]

/-- The characters of a list. -/
def ofChars (cs : List Char) : CharSet := ofRanges (cs.map fun c => .single c.toNat)

/-- The characters of any of some sets. -/
def unionAll (sets : List CharSet) : CharSet := ofRanges (sets.flatMap ranges)

/-- Whether a set has one character. -/
def isSingle (s : CharSet) : Bool :=
  match s.ranges with
  | [r] => r.first == r.last
  | _ => false

/-- The characters of some ranges, each given by its first and its last character. -/
def ofPairs (rs : List (Char × Char)) : CharSet :=
  ofRanges (rs.map fun r => .upTo r.1.toNat r.2.toNat)

end CharSet
end Hindsight
