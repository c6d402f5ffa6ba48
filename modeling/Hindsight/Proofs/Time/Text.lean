import Hindsight.Event.Basic
import Hindsight.Proofs.Text.Digits
import Hindsight.Proofs.Time.Calendar
import Hindsight.Proofs.Time.Instant

/-!
# Instants are read back

The text of an instant is made of numbers with zeros in front and of signs between them. Reading
goes from left to right: digits in front of what is no digit are read as their number
(`readDigits_append`), so each part of the text is read by the piece of the layout that it was
written for, years with their sign (`readYear_append`) and fractions of any length
(`readFraction_fractionText`). The date is a valid one with the number of its day, and second 60 is
put back into the leap second, hence the text of an instant is read as the instant
(`Instant.ofText?_text`), and **no two instants have one text** (`Instant.text_tells_instants`).
-/

namespace Hindsight
namespace Time

section Digits

variable {ds rest : List Char} {most width n : Nat}

/-- **Digits in front of what is no digit** are read as the number that they denote. They may not be
more than are read at most. -/
theorem readDigits_append (digits : ∀ c ∈ ds, c.isDigit = true) (some_digit : ds ≠ [])
    (fits : ds.length ≤ most) (apart : ∀ c ∈ rest.head?, c.isDigit = false) :
    readDigits most (ds ++ rest) = some (Number.digitsValue ds, rest) := by
  have apart' : ∀ c ∈ (rest.take (most - ds.length)).head?, c.isDigit = false := by
    intro c hc
    rw [List.head?_take] at hc
    split at hc
    · cases hc
    · exact apart c hc
  have taken : ((ds ++ rest).take most).takeWhile Char.isDigit = ds := by
    rw [List.take_append, List.take_of_length_le fits]
    exact (takeWhile_append_of_apart digits apart').1
  have nonempty : ds.isEmpty = false := by simpa using some_digit
  simp only [readDigits, taken, nonempty, List.drop_left]
  rfl

/-- A padded number is its digits behind as many zeros as are missing. A number that is too long is
not cut. -/
theorem toList_padded (width n : Nat) :
    (padded width n).toList =
      List.replicate (width - (Nat.toDigits 10 n).length) '0' ++ Nat.toDigits 10 n := by
  rw [padded, String.toList_ofList]

/-- A padded number consists of digits, be they zeros or its own. -/
theorem isDigit_of_mem_padded {c : Char} (h : c ∈ (padded width n).toList) : c.isDigit = true := by
  rw [toList_padded, List.mem_append] at h
  rcases h with h | h
  · rw [List.eq_of_mem_replicate h]
    rfl
  · exact Number.isDigit_of_mem_toDigits h

/-- A padded number has at least one digit, so it is never mistaken for a missing field. -/
theorem padded_ne_nil (width n : Nat) : (padded width n).toList ≠ [] := by
  rw [toList_padded]
  exact List.append_ne_nil_of_right_ne_nil _ Nat.toDigits_ne_nil

/-- **A padded number** denotes the number, since zeros in front count nothing. -/
theorem digitsValue_padded (width n : Nat) : Number.digitsValue (padded width n).toList = n := by
  rw [toList_padded, Number.digitsValue_replicate_append, Number.digitsValue_toDigits]

/-- A number that fits its width is padded to it, and no further. -/
theorem length_padded (positive : 0 < width) (fits : n < 10 ^ width) :
    (padded width n).toList.length = width := by
  have short := Nat.toDigits_length 10 n width positive fits
  rw [toList_padded, List.length_append, List.length_replicate]
  omega

/-- Digits have no blanks in front of them, so nothing is dropped there. -/
theorem dropBlanks_append (digits : ∀ c ∈ ds, c.isDigit = true) (some_digit : ds ≠ []) :
    Text.dropBlanks (ds ++ rest) = ds ++ rest := by
  obtain ⟨c, cs, rfl⟩ := List.exists_cons_of_ne_nil some_digit
  have here := not_isBlank_of_isDigit (digits c List.mem_cons_self)
  rw [Text.dropBlanks, List.cons_append, List.dropWhile_cons_of_neg (by simp [here])]

end Digits

section Parts

variable {rest : List Char} (apart : ∀ c ∈ rest.head?, c.isDigit = false)

include apart

/-- **A number of two digits** is read as it was written, if it is allowed in its field. -/
theorem readField_padded {greatest n : Nat} (small : n < 100) (allowed : n ≤ greatest) :
    readField greatest ((padded 2 n).toList ++ rest) = some (n, rest) := by
  have digits : ∀ c ∈ (padded 2 n).toList, c.isDigit = true := fun _ => isDigit_of_mem_padded
  have length : (padded 2 n).toList.length = 2 := length_padded (by decide) small
  rw [readField, dropBlanks_append digits (padded_ne_nil _ _),
    readDigits_append digits (padded_ne_nil _ _) (Nat.le_of_eq length) apart, digitsValue_padded]
  simp [allowed]

/-- **A year** is read as it was written, with its sign if it has one. Years of more than four
digits and negative ones have. -/
theorem readYear_append (y : Int) : readYear ((yearText y).toList ++ rest) = some (y, rest) := by
  have digits (n : Nat) : ∀ c ∈ (padded 4 n).toList, c.isDigit = true :=
    fun _ => isDigit_of_mem_padded
  have behind (n most : Nat) (fits : (padded 4 n).toList.length ≤ most) :
      readDigits most ((padded 4 n).toList ++ rest) = some (n, rest) := by
    rw [readDigits_append (digits n) (padded_ne_nil 4 n) fits apart, digitsValue_padded]
  rw [yearText]
  split
  · next plain =>
    have noSign (c : Char) (sign : c.isDigit = false) (ds : List Char) :
        (padded 4 y.toNat).toList ++ rest ≠ c :: ds := by
      obtain ⟨d, rest', chars⟩ := List.exists_cons_of_ne_nil (padded_ne_nil 4 y.toNat)
      rw [chars, List.cons_append]
      intro same
      rw [← (List.cons.inj same).1, digits y.toNat d (chars ▸ List.mem_cons_self)] at sign
      cases sign
    have length : (padded 4 y.toNat).toList.length = 4 := length_padded (by decide) (by omega)
    rw [readYear, dropBlanks_append (digits _) (padded_ne_nil _ _)]
    split
    · next ds sign => exact absurd sign (noSign '-' (by decide) ds)
    · next ds sign => exact absurd sign (noSign '+' (by decide) ds)
    · rw [behind _ 4 (Nat.le_of_eq length)]
      simp only [Option.map_some]
      rw [Int.toNat_of_nonneg plain.1]
  · have signed (sign : Char) (n : Nat) : (String.ofList [sign] ++ padded 4 n).toList ++ rest =
        sign :: ((padded 4 n).toList ++ rest) := by
      rw [String.toList_append, String.toList_ofList]
      rfl
    have all := behind y.natAbs ((padded 4 y.natAbs).toList ++ rest).length (by simp)
    split
    · next negative =>
      have start (cs : List Char) : Text.dropBlanks ('-' :: cs) = '-' :: cs := rfl
      rw [show "-" = String.ofList ['-'] from rfl, signed, readYear, start]
      simp only [all, Option.map_some]
      rw [Int.ofNat_natAbs_of_nonpos (Int.le_of_lt negative), Int.neg_neg]
    · next positive =>
      have start (cs : List Char) : Text.dropBlanks ('+' :: cs) = '+' :: cs := rfl
      rw [show "+" = String.ofList ['+'] from rfl, signed, readYear, start]
      simp only [all, Option.map_some]
      rw [Int.natAbs_of_nonneg (Int.not_lt.1 positive)]

end Parts

/-- **A fraction** is read as it was written, with as many digits as it takes: none, three, six or
nine. -/
theorem readFraction_fractionText {nano : Nat} (small : nano < 1000000000) :
    readFraction (fractionText nano).toList = some (nano, []) := by
  have digits {width n : Nat} (positive : 0 < width) (short : width ≤ 9) (fits : n < 10 ^ width) :
      readFraction ("." ++ padded width n).toList = some (n * 10 ^ (9 - width), []) := by
    have chars : ("." ++ padded width n).toList = '.' :: (padded width n).toList := by
      rw [String.toList_append]
      rfl
    have length := length_padded positive fits
    have read : readDigits 9 ((padded width n).toList ++ []) = some (n, []) := by
      rw [readDigits_append (fun _ => isDigit_of_mem_padded) (padded_ne_nil width n) (by omega)
        (by simp), digitsValue_padded]
    rw [List.append_nil] at read
    rw [chars, readFraction, read]
    simp [length]
  rw [fractionText]
  split
  · next zero => rw [zero]; rfl
  · split
    · next millis =>
      rw [digits (by decide) (by decide) (by omega)]
      have : nano / 1000000 * 10 ^ (9 - 3) = nano := by omega
      rw [this]
    · split
      · next micros =>
        rw [digits (by decide) (by decide) (by omega)]
        have : nano / 1000 * 10 ^ (9 - 6) = nano := by omega
        rw [this]
      · rw [digits (by decide) (by decide) small]
        simp

/-- A fraction, if there is one, starts with its point. -/
theorem not_isDigit_head_fractionText (nano : Nat) :
    ∀ c ∈ (fractionText nano).toList.head?, c.isDigit = false := by
  have point (s : String) : ∀ c ∈ ("." ++ s).toList.head?, c.isDigit = false := by
    intro c hc
    rw [String.toList_append] at hc
    cases hc
    rfl
  rw [fractionText]
  repeat' split
  · simp
  · exact point _
  · exact point _
  · exact point _

/-- A layout whose first piece reads a part of the text goes on behind it. Texts are read by a chain
of these. -/
theorem readPieces_cons {p : Piece} {ps : List Piece} {f f' : Fields} {cs rest : List Char}
    (h : p.read f cs = some (f', rest)) : readPieces (p :: ps) f cs = readPieces ps f' rest := by
  rw [readPieces, h]

section Layout

variable {f : Fields} {rest : List Char} {n : Nat}

/-- A literal character of a layout is passed over where it stands. -/
theorem read_literal (c : Char) : (Piece.literal c).read f (c :: rest) = some (f, rest) := by
  rw [Piece.read]
  exact if_pos rfl

variable (c : Char) (noDigit : c.isDigit = false)

include noDigit

/-- A year and a sign that is no digit are read by their pieces. -/
theorem readPieces_year (y : Int) (ps : List Piece) :
    readPieces (.year :: .literal c :: ps) f ((yearText y).toList ++ c :: rest) =
      readPieces ps { f with year := y } rest := by
  have read : Piece.year.read f ((yearText y).toList ++ c :: rest) =
      some ({ f with year := y }, c :: rest) := by
    rw [Piece.read, readYear_append (by simpa using noDigit)]
    rfl
  rw [readPieces_cons read, readPieces_cons (read_literal c)]

/-- A field of two digits and a sign that is no digit are read by their pieces. Months, days, hours,
minutes and seconds are all of this form. -/
theorem readPieces_field {p : Piece} {greatest : Nat} (put : Fields → Nat → Fields)
    (reads : ∀ f cs, p.read f cs = (readField greatest cs).map fun r => (put f r.1, r.2))
    (small : n < 100) (allowed : n ≤ greatest) (ps : List Piece) :
    readPieces (p :: .literal c :: ps) f ((padded 2 n).toList ++ c :: rest) =
      readPieces ps (put f n) rest := by
  have read : p.read f ((padded 2 n).toList ++ c :: rest) = some (put f n, c :: rest) := by
    rw [reads, readField_padded (by simpa using noDigit) small allowed]
    rfl
  rw [readPieces_cons read, readPieces_cons (read_literal c)]

end Layout

namespace Instant

variable (t : Instant)

/-- The text of an instant, character by character: its date, its time and the fraction of its
second. -/
theorem toList_text : t.text.toList =
    (yearText t.civil.year).toList ++ '-' :: ((padded 2 t.civil.month).toList ++
      '-' :: ((padded 2 t.civil.day).toList ++ 'T' :: ((padded 2 t.hour).toList ++
        ':' :: ((padded 2 t.minute).toList ++ ':' :: ((padded 2 t.writtenSecond).toList ++
          (fractionText t.writtenNano).toList))))) := by
  simp [text, String.toList_append]

/-- **The text of an instant** is read by the first layout, part by part, into the numbers that it
was written from. -/
theorem readPieces_text :
    readPieces (dateLayout ++ .literal 'T' :: timeLayout) Fields.start t.text.toList =
      some ⟨t.civil.year, t.civil.month, t.civil.day, t.hour, t.minute, t.writtenSecond,
        t.writtenNano⟩ := by
  have month : t.civil.month ≤ 12 := month_civilOf_le t.day
  have day : t.civil.day ≤ 31 := day_civilOf_le t.day
  have inRange := t.inRange.2
  have hour : t.hour ≤ 23 := by rw [Instant.hour]; omega
  have minute : t.minute ≤ 59 := by rw [Instant.minute]; omega
  have second : t.writtenSecond ≤ 60 := by rw [writtenSecond]; omega
  have nano : t.writtenNano < 1000000000 := by rw [writtenNano]; omega
  have readSecond (f : Fields) : Piece.second.read f
      ((padded 2 t.writtenSecond).toList ++ (fractionText t.writtenNano).toList) =
        some ({ f with second := t.writtenSecond }, (fractionText t.writtenNano).toList) := by
    rw [Piece.read, readField_padded (not_isDigit_head_fractionText _) (by omega) second]
    rfl
  have readNano (f : Fields) : Piece.fraction.read f (fractionText t.writtenNano).toList =
      some ({ f with nano := t.writtenNano }, []) := by
    rw [Piece.read, readFraction_fractionText nano]
    rfl
  rw [toList_text]
  show readPieces (.year :: .literal '-' :: .month :: .literal '-' :: .day :: .literal 'T' ::
    .hour :: .literal ':' :: .minute :: .literal ':' :: .second :: [.fraction]) _ _ = _
  rw [readPieces_year '-' rfl,
    readPieces_field '-' rfl (fun f n => { f with month := n }) (fun _ _ => rfl) (by omega) month,
    readPieces_field 'T' rfl (fun f n => { f with day := n }) (fun _ _ => rfl) (by omega) day,
    readPieces_field ':' rfl (fun f n => { f with hour := n }) (fun _ _ => rfl) (by omega) hour,
    readPieces_field ':' rfl (fun f n => { f with minute := n }) (fun _ _ => rfl) (by omega)
      minute,
    readPieces_cons (readSecond _), readPieces_cons (readNano _)]
  rfl

/-- **The numbers of an instant** denote it, second 60 the leap second. They are all in range, since
they come from an instant. -/
theorem instant?_fields :
    Fields.instant? ⟨t.civil.year, t.civil.month, t.civil.day, t.hour, t.minute, t.writtenSecond,
      t.writtenNano⟩ = some t := by
  have inRange := t.inRange.2
  have date : (civilOf t.day).isValid = true := isValid_civilOf t.day
  have whole : ofParts? t.day t.second t.nano = some t := dif_pos t.inRange
  have second : t.hour * 3600 + t.minute * 60 +
      (if t.writtenSecond = 60 then 59 else t.writtenSecond) = t.second := by
    rw [writtenSecond, hour, minute]
    by_cases leap : t.second % 60 + t.nano / 1000000000 = 60
    · rw [if_pos leap]
      omega
    · rw [if_neg leap]
      omega
  have nano : t.writtenNano + (if t.writtenSecond = 60 then 1000000000 else 0) = t.nano := by
    rw [writtenNano, writtenSecond]
    by_cases leap : t.second % 60 + t.nano / 1000000000 = 60
    · rw [if_pos leap]
      omega
    · rw [if_neg leap]
      omega
  rw [Fields.instant?]
  simp only [second, nano]
  show (if (civilOf t.day).isValid = true then ofParts? (civilOf t.day).dayNumber _ _ else none) = _
  rw [if_pos date, dayNumber_civilOf, whole]

/-- The text of an instant has no blank in it, so trimming it leaves it as it is. -/
theorem not_isBlank_text : ∀ c ∈ t.text.toList, Text.isBlank c = false := by
  have digits (width n : Nat) : ∀ c ∈ (padded width n).toList, Text.isBlank c = false :=
    fun _ hc => not_isBlank_of_isDigit (isDigit_of_mem_padded hc)
  have one (c : Char) (noBlank : Text.isBlank c = false) : ∀ d ∈ [c], Text.isBlank d = false :=
    fun _ hd => List.mem_singleton.1 hd ▸ noBlank
  have behind (sign : String) (noBlank : ∀ c ∈ sign.toList, Text.isBlank c = false)
      (width n : Nat) : ∀ c ∈ (sign ++ padded width n).toList, Text.isBlank c = false := by
    rw [String.toList_append, List.forall_mem_append]
    exact ⟨noBlank, digits width n⟩
  have year : ∀ c ∈ (yearText t.civil.year).toList, Text.isBlank c = false := by
    rw [yearText]
    split
    · exact digits _ _
    · split
      · exact behind "-" (one '-' rfl) _ _
      · exact behind "+" (one '+' rfl) _ _
  have fraction : ∀ c ∈ (fractionText t.writtenNano).toList, Text.isBlank c = false := by
    rw [fractionText]
    repeat' split
    · simp
    · exact behind "." (one '.' rfl) _ _
    · exact behind "." (one '.' rfl) _ _
    · exact behind "." (one '.' rfl) _ _
  rw [toList_text]
  simp only [List.forall_mem_append, List.forall_mem_cons]
  exact ⟨year, rfl, digits _ _, rfl, digits _ _, rfl, digits _ _, rfl, digits _ _, rfl,
    digits _ _, fraction⟩

/-- **The text of an instant** is read as the instant, by the first layout that is tried. -/
theorem ofText?_text : ofText? t.text = some t := by
  have trimmed : Text.trimChars t.text.toList = t.text.toList := by
    have kept {cs : List Char} (all : ∀ c ∈ cs, Text.isBlank c = false) :
        Text.dropBlanks cs = cs := by
      cases cs with
      | nil => rfl
      | cons c cs => exact List.dropWhile_cons_of_neg (by simp [all c List.mem_cons_self])
    have all := t.not_isBlank_text
    rw [Text.trimChars, kept all, kept fun c hc => all c (List.mem_reverse.1 hc),
      List.reverse_reverse]
  rw [ofText?, trimmed, layouts, List.findSome?_cons, readPieces_text, Option.bind_some,
    instant?_fields]

/-- **An instant is read from its own text** where an instant is asked for, without a fault. -/
theorem readInstant_text : readInstant t.text = .ok t := by
  rw [readInstant, ofText?_text]

/-- Instants with one text are one instant, since it can be read back. -/
theorem text_injective : Function.Injective text := by
  intro s t same
  have read := s.ofText?_text
  rw [same, t.ofText?_text] at read
  exact (Option.some.inj read).symm

/-- Second 60 is written in the leap seconds and nowhere else. -/
theorem writtenSecond_eq_sixty_iff : t.writtenSecond = 60 ↔ t.IsLeap := by
  have inRange := t.inRange.2
  rw [writtenSecond, IsLeap]
  omega

/-- **A text tells the instant that it was written for.** It is read as that instant; the first
layout reads it to its end, and finds second 60 in it just if the instant is in a leap second. So
instants with one text are one instant. Each field of the text is read back on its own, and the
calendar puts the date together again. -/
theorem text_tells_instants :
    (∀ t : Instant, readInstant t.text = .ok t ∧
      ∃ f, readPieces (dateLayout ++ .literal 'T' :: timeLayout) .start t.text.toList = some f ∧
        f.instant? = some t ∧ (f.second = 60 ↔ t.IsLeap)) ∧
      Function.Injective text := by
  refine ⟨fun t => ⟨t.readInstant_text, ?_⟩, text_injective⟩
  exact ⟨_, t.readPieces_text, t.instant?_fields, t.writtenSecond_eq_sixty_iff⟩

end Instant

end Time
end Hindsight
