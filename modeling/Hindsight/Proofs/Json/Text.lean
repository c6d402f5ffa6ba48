import Hindsight.Json.Reader
import Hindsight.Json.Writer
import Hindsight.Proofs.Json.Number
import Hindsight.Proofs.Json.Scalars

/-!
# Trees are read back from their text

The text of a tree has no blanks, and each part of it is read up to what follows: a string up to its
closing quote (`Json.readString_quoted`), a scalar up to a character that belongs to no number
(`Json.readScalar_chars`), items and members up to the bracket that closes them. A tree is read by
no more steps than twice the length of its text, so if its scalars have a value of their own, its
floats are read from their text as they are, and it is nested no deeper than a reader goes, then
**the document of its text** has that tree (`Json.Document.ofText_text`).
-/

namespace Hindsight
namespace Json

section Strings

/-- A character is written with at least one character, so a string is read in no more steps than it
is long. -/
theorem escaped_ne_nil (c : Char) : escaped c ≠ [] := by
  unfold escaped
  repeat' split
  all_goals exact List.cons_ne_nil _ _

/-- A control character is read from its four hexadecimal digits. -/
theorem readHex_control {n : Nat} (control : n < 32) (rest : List Char) :
    readHex ('0' :: '0' :: Text.hexDigit (n / 16) :: Text.hexDigit (n % 16) :: rest) =
      some (n, rest) := by
  have zero : Text.hexValue? '0' = some 0 := rfl
  have value : ((0 * 16 + 0) * 16 + n / 16) * 16 + n % 16 = n := by omega
  simp only [readHex, zero, Text.hexValue?_hexDigit (n / 16) (by omega),
    Text.hexValue?_hexDigit (n % 16) (by omega), Option.bind_eq_bind, Option.bind_some, value]
  rfl

/-- A control character is no half of a pair of surrogates, so its escape is read alone. -/
theorem readEscape_control {c : Char} (control : c.toNat < 32) (rest : List Char) :
    readEscape ('u' :: '0' :: '0' :: Text.hexDigit (c.toNat / 16) ::
      Text.hexDigit (c.toNat % 16) :: rest) = some (some c, rest) := by
  have high : isHighHalf c.toNat = false := by
    rw [isHighHalf, Bool.and_eq_false_iff, decide_eq_false_iff_not]
    omega
  have low : isLowHalf c.toNat = false := by
    rw [isLowHalf, Bool.and_eq_false_iff, decide_eq_false_iff_not]
    omega
  simp only [readEscape, readHex_control control, Option.bind_eq_bind, Option.bind_some, high, low,
    Char.ofNat_toNat]
  rfl

/-- One step of reading a string at a backslash: the character that the escape stands for is
added. -/
theorem readString_escape {fuel : Nat} {done rest more : List Char} {c : Char}
    (h : readEscape rest = some (some c, more)) :
    readString (fuel + 1) (some done) ('\\' :: rest) = readString fuel (some (c :: done)) more := by
  rw [readString, if_neg (by decide), if_pos rfl, h]
  rfl

/-- **A character is read** from what it is written as: itself, a mark behind a backslash, or four
digits. -/
theorem readString_escaped (fuel : Nat) (done rest : List Char) (c : Char) :
    readString (fuel + 1) (some done) (escaped c ++ rest) =
      readString fuel (some (c :: done)) rest := by
  have back (n : Nat) (same : c.toNat = n) : Char.ofNat n = c := by
    rw [← same, Char.ofNat_toNat]
  unfold escaped
  split
  · next quote =>
    subst quote
    exact readString_escape rfl
  split
  · next backslash =>
    subst backslash
    exact readString_escape rfl
  split
  · next backspace => exact back 8 backspace ▸ readString_escape rfl
  split
  · next feed => exact back 12 feed ▸ readString_escape rfl
  split
  · next line =>
    subst line
    exact readString_escape rfl
  split
  · next carriage =>
    subst carriage
    exact readString_escape rfl
  split
  · next tab =>
    subst tab
    exact readString_escape rfl
  split
  · next control => exact readString_escape (readEscape_control control rest)
  · next quote backslash _ _ _ _ _ control =>
    rw [List.singleton_append, readString, if_neg quote, if_neg backslash, if_neg control]
    rfl

/-- Characters are read up to the closing quote, by induction on them. None of them is written with
a quote of its own. -/
theorem readString_flatMap {fuel : Nat} (cs done rest : List Char) (enough : cs.length < fuel) :
    readString fuel (some done) (cs.flatMap escaped ++ '"' :: rest) =
      some (some (String.ofList (done.reverse ++ cs)), rest) := by
  induction cs generalizing fuel done with
  | nil =>
    obtain ⟨fuel, rfl⟩ := Nat.exists_eq_add_of_lt enough
    rw [List.append_nil]
    rfl
  | cons c cs ih =>
    obtain ⟨fuel, rfl⟩ := Nat.exists_eq_succ_of_ne_zero (Nat.ne_zero_of_lt enough)
    rw [List.flatMap_cons, List.append_assoc, readString_escaped,
      ih (c :: done) (Nat.lt_of_succ_lt_succ enough), List.reverse_cons, List.append_assoc]
    rfl

/-- A quoted text is its characters, each one as it is written, between two quotes. -/
theorem toList_quoted (s : String) :
    (quoted s).toList = '"' :: (s.toList.flatMap escaped ++ ['"']) := by
  rw [quoted, String.toList_ofList, List.cons_append]

/-- A string is no shorter when it is written, so its own length is fuel enough to read it. -/
theorem length_lt_quoted (s : String) : s.toList.length < (quoted s).toList.length := by
  have each (cs : List Char) : cs.length ≤ (cs.flatMap escaped).length := by
    induction cs with
    | nil => exact Nat.le_refl 0
    | cons c cs ih =>
      have some_char := List.length_pos_of_ne_nil (escaped_ne_nil c)
      rw [List.flatMap_cons, List.length_append, List.length_cons]
      omega
  have := each s.toList
  rw [toList_quoted, List.length_cons, List.length_append]
  omega

/-- **A quoted string** is read back, and what stands behind it is left. -/
theorem readString_quoted (s : String) (rest : List Char) :
    readString ((quoted s).toList ++ rest).length (some [])
      ((s.toList.flatMap escaped ++ ['"']) ++ rest) = some (some s, rest) := by
  have enough : s.toList.length < ((quoted s).toList ++ rest).length := by
    rw [List.length_append]
    exact Nat.lt_add_right _ (length_lt_quoted s)
  rw [List.append_assoc, List.singleton_append, readString_flatMap _ _ _ enough]
  simp

end Strings

section Chars

/-- The characters of the text of a tree. -/
def chars (j : Json) : List Char := (pieces j).flatMap String.toList

/-- The characters of items, a comma before all but the first. -/
def itemChars (first : Bool) (items : List Json) : List Char :=
  (itemPieces first items).flatMap String.toList

/-- The characters of members, a comma before all but the first. -/
def memberChars (first : Bool) (members : List (String × Json)) : List Char :=
  (memberPieces first members).flatMap String.toList

/-- The comma before all but the first. -/
def separator (first : Bool) : List Char := if first then [] else [',']

/-- The text of a tree consists of the characters of the tree. -/
theorem toList_text (j : Json) : j.text.toList = j.chars := String.toList_join

/-- An array is written as its items between brackets. -/
theorem chars_array (items : List Json) :
    (array items).chars = '[' :: (itemChars true items ++ [']']) := by
  simp [chars, pieces, itemChars]

/-- An object is written as its members between braces. -/
theorem chars_object (members : List (String × Json)) :
    (object members).chars = '\x7b' :: (memberChars true members ++ ['\x7d']) := by
  simp [chars, pieces, memberChars]

/-- Items are written one behind the other, with a comma before each but the first one. -/
theorem itemChars_cons (first : Bool) (j : Json) (rest : List Json) :
    itemChars first (j :: rest) = separator first ++ j.chars ++ itemChars false rest := by
  cases first <;> simp [itemChars, itemPieces, chars, separator]

/-- Members are written one behind the other, each as its name, a colon and its value, with a comma
before each but the first one. -/
theorem memberChars_cons (first : Bool) (k : String) (j : Json) (rest : List (String × Json)) :
    memberChars first ((k, j) :: rest) =
      separator first ++ (quoted k).toList ++ ':' :: j.chars ++ memberChars false rest := by
  cases first <;> simp [memberChars, memberPieces, chars, separator]

/-- A float is read from its text as it is. -/
def FloatReadsBack : Json → Prop
  | float x => readNumber (Number.Layout.json.text x).toList = some (float x, [])
  | _ => True

/-- A character that the text of a scalar starts with. -/
def startsScalar (c : Char) : Bool := c.isDigit || ['-', '"', 'n', 't', 'f'].contains c

/-- **A number is read up to a character that goes on in none.** Without that condition digits
behind it would be taken into it. -/
theorem readScalar_of_number {cs rest : List Char} {j : Json}
    (number : readNumber cs = some (j, []))
    (apart : ∀ c ∈ rest.head?, continuesNumber c = false) :
    readScalar (cs ++ rest) = (j, some rest) := by
  have read := readNumber_append apart number
  obtain ⟨c, cs, rfl, starts⟩ := exists_head_of_readNumber number
  have other : c ≠ 'n' ∧ c ≠ 't' ∧ c ≠ 'f' ∧ c ≠ '"' := by
    refine ⟨?_, ?_, ?_, ?_⟩ <;> rintro rfl <;> revert starts <;> decide
  rw [List.cons_append] at read ⊢
  simp [readScalar, read, other]

/-- **A scalar** is read from its text, and no array or object starts there. What follows must not
go on in a number, as nothing else says where one ends. -/
theorem readScalar_chars {j : Json} (scalar : j.nesting = 0) (value : j.Every HasValue)
    (float : j.Every FloatReadsBack) (rest : List Char)
    (apart : ∀ c ∈ rest.head?, continuesNumber c = false) :
    readScalar (j.chars ++ rest) = (j, some rest) ∧
      ∃ c cs, j.chars = c :: cs ∧ startsScalar c = true := by
  have number {cs : List Char} (same : j.chars = cs) (read : readNumber cs = some (j, [])) :
      readScalar (j.chars ++ rest) = (j, some rest) ∧
        ∃ c cs, j.chars = c :: cs ∧ startsScalar c = true := by
    rw [same]
    obtain ⟨c, more, rfl, starts⟩ := exists_head_of_readNumber read
    refine ⟨readScalar_of_number read apart, c, more, rfl, ?_⟩
    rcases starts with rfl | digit
    · rfl
    · rw [startsScalar, digit, Bool.true_or]
  cases j with
  | null => exact ⟨rfl, _, _, rfl, rfl⟩
  | bool b => cases b <;> exact ⟨rfl, _, _, rfl, rfl⟩
  | int n => exact number (List.append_nil _) (readNumber_toString value)
  | float x =>
    have finite : Number.isFinite x = true := value
    exact number (by simp [chars, pieces, finite]) float
  | string s =>
    have written : (string s).chars = (quoted s).toList := List.append_nil _
    rw [written]
    refine ⟨?_, _, _, toList_quoted s, rfl⟩
    have read := readString_quoted s rest
    rw [toList_quoted, List.cons_append] at read ⊢
    simp only [readScalar, read]
  | array _ | object _ => cases scalar
  | fault _ => exact value.elim

/-- The characters at which no blanks are skipped. -/
def isMark (c : Char) : Bool :=
  startsScalar c || ['[', ']', '\x7b', '\x7d', ':', ','].contains c

/-- In front of a mark nothing is skipped, since no mark is a blank. -/
theorem skipBlanks_cons {c : Char} (h : isMark c = true) (cs : List Char) :
    skipBlanks (c :: cs) = c :: cs := by
  have noBlank : (c == ' ' || c == '\n' || c == '\r' || c == '\t') = false := by
    by_contra blank
    simp only [Bool.not_eq_false, Bool.or_eq_true, beq_iff_eq] at blank
    obtain ((rfl | rfl) | rfl) | rfl := blank <;> revert h <;> decide
  rw [skipBlanks, List.dropWhile_cons, noBlank]
  rfl

/-- What comes next is a value, and neither a comma nor the end of an array or of an object. -/
def StartsValue (cs : List Char) : Prop :=
  ∃ c more, cs = c :: more ∧ (startsScalar c = true ∨ c = '[' ∨ c = '\x7b')

/-- What a tree is written as starts with a character that starts a value, by the form of the
tree. -/
theorem startsValue_chars : ∀ j : Json, j.Every HasValue → j.Every FloatReadsBack →
    StartsValue j.chars
  | array items, _, _ => ⟨_, _, chars_array items, .inr (.inl rfl)⟩
  | object members, _, _ => ⟨_, _, chars_object members, .inr (.inr rfl)⟩
  | null, h, r | bool _, h, r | int _, h, r | float _, h, r | string _, h, r | fault _, h, r => by
    obtain ⟨-, c, cs, same, starts⟩ := readScalar_chars (by rfl) h r [] nofun
    exact ⟨c, cs, same, .inl starts⟩

/-- What starts with a character is not empty. -/
theorem StartsValue.length_pos {cs : List Char} (h : StartsValue cs) : 0 < cs.length := by
  obtain ⟨c, more, rfl, -⟩ := h
  exact Nat.succ_pos _

/-- A character that a scalar starts with is a mark, so it is not skipped as a blank. -/
theorem isMark_of_startsScalar {c : Char} (h : startsScalar c = true) : isMark c = true := by
  rw [isMark, h, Bool.true_or]

/-- A scalar is read from its text in front of what belongs to no number, at any depth; twice the
length of its text are steps enough. -/
theorem readValue_scalar {j : Json} (scalar : j.nesting = 0) (value : j.Every HasValue)
    (float : j.Every FloatReadsBack) {fuel : Nat} (enough : 2 * j.chars.length ≤ fuel) (depth : Nat)
    {rest : List Char} (apart : ∀ c ∈ rest.head?, continuesNumber c = false) :
    readValue fuel depth (j.chars ++ rest) = (j, some rest) := by
  obtain ⟨read, c, cs, same, starts⟩ := readScalar_chars scalar value float rest apart
  rw [same] at enough
  cases fuel with
  | zero => simp at enough
  | succ fuel =>
    rw [same, List.cons_append] at read ⊢
    rw [readValue, skipBlanks_cons (isMark_of_startsScalar starts)]
    split
    · next opens =>
      obtain rfl := (List.cons.inj opens).1
      cases starts
    · next opens =>
      obtain rfl := (List.cons.inj opens).1
      cases starts
    · exact read

/-- An item is read up to what follows it, with the comma in front of it if it is not the first. -/
theorem readItems_item {j : Json} {cs rest : List Char} {fuel depth : Nat} (first : Bool)
    (value : StartsValue cs)
    (read : readValue fuel depth (cs ++ rest) = (j, some rest)) :
    readItems (fuel + 1) depth first (separator first ++ cs ++ rest) =
      (j :: (readItems fuel depth false rest).1, (readItems fuel depth false rest).2) := by
  obtain ⟨c, more, rfl, starts⟩ := value
  cases first with
  | false =>
    show readItems (fuel + 1) depth false (',' :: ((c :: more) ++ rest)) = _
    rw [readItems, skipBlanks_cons rfl]
    simp only [read]
    rfl
  | true =>
    have mark : isMark c = true := by
      rcases starts with scalar | rfl | rfl
      · exact isMark_of_startsScalar scalar
      · rfl
      · rfl
    show readItems (fuel + 1) depth true (c :: (more ++ rest)) = _
    rw [List.cons_append] at read
    rw [readItems, skipBlanks_cons mark]
    dsimp only
    split
    · next ends =>
      obtain rfl := (List.cons.inj ends).1
      exact absurd starts (by decide)
    · next comma =>
      obtain rfl := (List.cons.inj comma).1
      exact absurd starts (by decide)
    · rw [read]
      rfl

/-- The name of a member is read up to its colon. -/
theorem readName_quoted (k : String) (rest : List Char) :
    readName ((quoted k).toList ++ ':' :: rest) = some (some k, rest) := by
  have read := readString_quoted k (':' :: rest)
  rw [toList_quoted, List.cons_append] at read ⊢
  rw [readName, skipBlanks_cons rfl]
  simp only [read, skipBlanks_cons (c := ':') rfl]

/-- A member is read up to what follows it: a comma if it is not the first, its name, a colon and
its value. -/
theorem readMembers_member {k : String} {j : Json} {cs rest : List Char} {fuel depth : Nat}
    (first : Bool) (read : readValue fuel depth (cs ++ rest) = (j, some rest)) :
    readMembers (fuel + 1) depth first
        (separator first ++ (quoted k).toList ++ ':' :: cs ++ rest) =
      ((k, j) :: (readMembers fuel depth false rest).1, (readMembers fuel depth false rest).2) := by
  have name := readName_quoted k (cs ++ rest)
  cases first with
  | false =>
    have spelled : separator false ++ (quoted k).toList ++ ':' :: cs ++ rest =
        ',' :: ((quoted k).toList ++ ':' :: (cs ++ rest)) := by simp [separator]
    rw [spelled, readMembers, skipBlanks_cons rfl]
    simp only [name, read]
    rfl
  | true =>
    have spelled : separator true ++ (quoted k).toList ++ ':' :: cs ++ rest =
        (quoted k).toList ++ ':' :: (cs ++ rest) := by simp [separator]
    rw [spelled, readMembers]
    rw [toList_quoted, List.cons_append] at name ⊢
    rw [skipBlanks_cons rfl]
    dsimp only
    split
    · next ends => exact absurd (List.cons.inj ends).1 (by decide)
    · next comma => exact absurd (List.cons.inj comma).1 (by decide)
    · simp only [name, read]
      rfl

/-- What follows an item belongs to no number: it is a comma or the closing bracket. -/
theorem apart_items (items : List Json) (rest : List Char) :
    ∀ c ∈ (itemChars false items ++ ']' :: rest).head?, continuesNumber c = false := by
  cases items with
  | nil => exact fun c hc => Option.some.inj hc ▸ rfl
  | cons j items =>
    rw [itemChars_cons]
    exact fun c hc => Option.some.inj hc ▸ rfl

/-- What follows a member belongs to no number: it is a comma or the closing brace. -/
theorem apart_members (members : List (String × Json)) (rest : List Char) :
    ∀ c ∈ (memberChars false members ++ '\x7d' :: rest).head?, continuesNumber c = false := by
  cases members with
  | nil => exact fun c hc => Option.some.inj hc ▸ rfl
  | cons m members =>
    rw [memberChars_cons]
    exact fun c hc => Option.some.inj hc ▸ rfl

mutual

/-- **A value** is read from its text. By recursion on trees, with fuel twice as long as the text,
and in front of anything that does not go on in a number. -/
theorem readValue_chars : ∀ (j : Json), j.Every HasValue → j.Every FloatReadsBack →
    ∀ (fuel depth : Nat) (rest : List Char), j.nesting ≤ depth → 2 * j.chars.length ≤ fuel →
      (∀ c ∈ rest.head?, continuesNumber c = false) →
        readValue fuel depth (j.chars ++ rest) = (j, some rest)
  | array items, h, r => fun fuel depth rest nested enough apart => by
    rw [chars_array, List.length_cons, List.length_append, List.length_singleton] at enough
    obtain ⟨fuel, rfl⟩ := Nat.exists_eq_add_of_lt (show 0 < fuel by omega)
    have some_depth : depth ≠ 0 := Nat.ne_zero_of_lt nested
    have read := readItems_chars items h r (0 + fuel) (depth - 1) true rest
      (Nat.le_sub_one_of_lt nested) (by omega)
    have spelled : (array items).chars ++ rest =
        '[' :: (itemChars true items ++ ']' :: rest) := by simp [chars_array]
    rw [spelled, readValue, skipBlanks_cons rfl]
    simp only [some_depth, if_false, read]
  | object members, h, r => fun fuel depth rest nested enough apart => by
    rw [chars_object, List.length_cons, List.length_append, List.length_singleton] at enough
    obtain ⟨fuel, rfl⟩ := Nat.exists_eq_add_of_lt (show 0 < fuel by omega)
    have some_depth : depth ≠ 0 := Nat.ne_zero_of_lt nested
    have read := readMembers_chars members h r (0 + fuel) (depth - 1) true rest
      (Nat.le_sub_one_of_lt nested) (by omega)
    have spelled : (object members).chars ++ rest =
        '\x7b' :: (memberChars true members ++ '\x7d' :: rest) := by simp [chars_object]
    rw [spelled, readValue, skipBlanks_cons rfl]
    simp only [some_depth, if_false, read]
  | null, h, r | bool _, h, r | int _, h, r | float _, h, r | string _, h, r | fault _, h, r =>
    fun _ depth _ _ enough apart => readValue_scalar (by rfl) h r enough depth apart

/-- **The items of an array are read back up to its bracket**, together with values and members by
recursion on the tree: each item is nested less deep than the array, and two steps for each
character suffice. -/
theorem readItems_chars : ∀ (items : List Json), EveryOfItems HasValue items →
    EveryOfItems FloatReadsBack items →
      ∀ (fuel depth : Nat) (first : Bool) (rest : List Char), nestingOfItems items ≤ depth →
        2 * (itemChars first items).length < fuel →
          readItems fuel depth first (itemChars first items ++ ']' :: rest) = (items, some rest)
  | [], _, _, fuel + 1, depth, first, rest, _, _ => by
    show readItems (fuel + 1) depth first (']' :: rest) = _
    rw [readItems, skipBlanks_cons rfl]
    rfl
  | j :: items, h, r, fuel + 1, depth, first, rest, nested, enough => by
    obtain ⟨here, later⟩ := Nat.max_le.1 nested
    have starts := startsValue_chars j h.1 r.1
    have some_char := starts.length_pos
    rw [itemChars_cons, List.length_append, List.length_append] at enough
    have more := readItems_chars items h.2 r.2 fuel depth false rest later (by omega)
    have read := readValue_chars j h.1 r.1 fuel depth (itemChars false items ++ ']' :: rest) here
      (by omega) (apart_items items rest)
    rw [itemChars_cons, List.append_assoc, readItems_item first starts read, more]

/-- **The members of an object are read back up to its brace**, by the same recursion. -/
theorem readMembers_chars : ∀ (members : List (String × Json)), EveryOfMembers HasValue members →
    EveryOfMembers FloatReadsBack members →
      ∀ (fuel depth : Nat) (first : Bool) (rest : List Char), nestingOfMembers members ≤ depth →
        2 * (memberChars first members).length < fuel →
          readMembers fuel depth first (memberChars first members ++ '\x7d' :: rest) =
            (members, some rest)
  | [], _, _, fuel + 1, depth, first, rest, _, _ => by
    show readMembers (fuel + 1) depth first ('\x7d' :: rest) = _
    rw [readMembers, skipBlanks_cons rfl]
    rfl
  | (k, j) :: members, h, r, fuel + 1, depth, first, rest, nested, enough => by
    obtain ⟨here, later⟩ := Nat.max_le.1 nested
    have some_char := (startsValue_chars j h.1 r.1).length_pos
    rw [memberChars_cons] at enough
    simp only [List.length_append, List.length_cons] at enough
    have more := readMembers_chars members h.2 r.2 fuel depth false rest later (by omega)
    have read := readValue_chars j h.1 r.1 fuel depth (memberChars false members ++ '\x7d' :: rest)
      here (by omega) (apart_members members rest)
    rw [memberChars_cons, List.append_assoc, readMembers_member first read, more]

end

/-- **A document** is read back from the text of its tree. Its floats must be read back one by one,
and it must not be nested deeper than a reader goes. -/
theorem Document.ofText_text {j : Json} (value : j.Every HasValue) (float : j.Every FloatReadsBack)
    (nested : j.nesting ≤ 127) : Document.ofText j.text = ⟨j, true⟩ := by
  have read := readValue_chars j value float (2 * j.chars.length + 2) 127 [] nested
    (Nat.le_add_right _ 2) nofun
  rw [List.append_nil] at read
  simp only [Document.ofText, toList_text, read]
  rfl

end Chars

end Json
end Hindsight
