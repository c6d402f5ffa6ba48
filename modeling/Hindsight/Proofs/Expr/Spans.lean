import Hindsight.Proofs.Expr.Margins

/-!
# The bytes of tokens

A place of a text is a boundary if a character starts there or the text ends there
(`Text.IsBoundary`); that is so behind any of its first characters (`Text.isBoundary_of_append`).
Every token takes the characters it is written with, at least one of them
(`Lexer.append_of_scanToken`), so a run of the lexer lays the tokens end to end with nothing but
blanks between them (`Lexer.Tiles`, `Lexer.tiles_scan`). What that says of the bytes of the tokens
is read off by induction on the run: **the tokens of a text tile it** (`tiling_of_tokenize`). A run
that breaks off reports a boundary too (`Lexer.position_of_scan`).

The number sign starts no token, so it stands in quoted texts only, and a quote is closed somewhere
behind it (`Lexer.exists_quote_of_scan`). That keeps the texts of expressions apart from any text
that ends in a number sign and digits (`trimChars_ne_of_tokenize`).
-/

namespace Hindsight

namespace Text

variable {cs ds : List Char}

/-- The length of characters in bytes is that of the text they make, so offsets can be counted along
a scan. -/
theorem byteLength_eq (cs : List Char) : byteLength cs = (String.ofList cs).utf8ByteSize := by
  have folded (n : Nat) : cs.foldl (fun n c => n + c.utf8Size) n =
      n + (String.ofList cs).utf8ByteSize := by
    induction cs generalizing n with
    | nil => simp
    | cons c cs ih =>
      rw [List.foldl_cons, ih, String.ofList_cons, String.utf8ByteSize_append,
        String.utf8ByteSize_singleton, Nat.add_assoc]
  rw [byteLength, folded, Nat.zero_add]

/-- Lengths in bytes add up along a text. -/
@[simp] theorem byteLength_append (cs ds : List Char) :
    byteLength (cs ++ ds) = byteLength cs + byteLength ds := by
  simp only [byteLength_eq, String.ofList_append, String.utf8ByteSize_append]

/-- A single character is as long as its encoding. -/
@[simp] theorem byteLength_singleton (c : Char) : byteLength [c] = c.utf8Size := by
  rw [byteLength, List.foldl_cons, List.foldl_nil, Nat.zero_add]

/-- A character takes at least one byte. -/
theorem byteLength_pos (some : cs ≠ []) : 0 < byteLength cs := by
  obtain ⟨c, rest, rfl⟩ := List.exists_cons_of_ne_nil some
  have first := c.utf8Size_pos
  rw [← List.singleton_append, byteLength_append, byteLength_singleton]
  omega

/-- **A boundary of a text** is a byte where a character starts or the text ends. -/
def IsBoundary (s : String) (p : Nat) : Prop := String.Pos.Raw.IsValid s ⟨p⟩

/-- A boundary is inside the text or at its end. -/
theorem IsBoundary.le {s : String} {p : Nat} (h : IsBoundary s p) : p ≤ s.utf8ByteSize :=
  String.Pos.Raw.IsValid.le_rawEndPos h

/-- There is a boundary behind the first characters of a text, however many. Positions of lexemes
are all found in this way. -/
theorem isBoundary_of_append {s : String} (split : s.toList = cs ++ ds) :
    IsBoundary s (byteLength cs) := by
  refine String.Pos.Raw.isValid_iff_exists_append.2 ⟨String.ofList cs, String.ofList ds, ?_, ?_⟩
  · rw [← String.ofList_append, ← split, String.ofList_toList]
  · rw [byteLength_eq]
    rfl

/-- The end of a text is one of its boundaries; this is where an early end is reported. -/
theorem isBoundary_utf8ByteSize (s : String) : IsBoundary s s.utf8ByteSize := by
  have last := isBoundary_of_append (List.append_nil s.toList).symm
  rwa [byteLength_eq, String.ofList_toList] at last

end Text

open Text (byteLength IsBoundary)

/-- Whether a byte is one of those that a lexeme was read from. -/
def Lexeme.Covers (l : Lexeme) (p : Nat) : Prop := l.start ≤ p ∧ p < l.stop

/-- **Lexemes tile a text** if their bytes are some bytes between boundaries of the text, one lexeme
behind the other, and no character but a blank is left out. -/
structure Tiling (s : String) (ls : List Lexeme) : Prop where
  nonEmpty : ∀ l ∈ ls, l.start < l.stop
  ordered : ls.Pairwise fun l l' => l.start < l'.start
  disjoint : ls.Pairwise fun l l' => l.stop ≤ l'.start
  onBoundaries : ∀ l ∈ ls, IsBoundary s l.start ∧ IsBoundary s l.stop
  inside : ∀ l ∈ ls, l.stop ≤ s.utf8ByteSize
  blank : ∀ front c back, s.toList = front ++ c :: back →
    (∀ l ∈ ls, ¬ l.Covers (byteLength front)) → Text.isBlank c = true

namespace Lexer

variable {front cs : List Char} {position : Nat} {ls : List Lexeme}

/-- What is no token is reported where it starts, not where it was found to be none. -/
theorem position_of_scanToken {c : Char} {e : ParseError}
    (h : scanToken position c cs = .error e) : e.position? = some position := by
  rw [scanToken] at h
  split at h
  · cases h
  split at h
  · rw [scanNumber_eq] at h
    split at h
    · cases h
    · unfold integer at h
      split at h <;> cases h
      rfl
  split at h <;> split at h <;> cases h <;> rfl

/-- **Lexemes lie end to end** on the characters behind others: each on those it is written with,
and blanks between them. -/
inductive Tiles : List Char → List Char → List Lexeme → Prop
  | nil (front : List Char) : Tiles front [] []
  | blank {front cs : List Char} {ls : List Lexeme} {c : Char} (isBlank : Text.isBlank c = true)
    (rest : Tiles (front ++ [c]) cs ls) : Tiles front (c :: cs) ls
  | lexeme (token : Token) {front written cs : List Char} {ls : List Lexeme} (some : written ≠ [])
    (rest : Tiles (front ++ written) cs ls) :
    Tiles front (written ++ cs)
      (⟨token, byteLength front, byteLength (front ++ written)⟩ :: ls)

/-- **A run of the lexer** lays its lexemes end to end, with nothing but blanks between them. By
induction on the fuel. -/
theorem tiles_scan {fuel : Nat} (enough : cs.length ≤ fuel)
    (h : scan fuel (byteLength front) cs = .ok ls) : Tiles front cs ls := by
  induction fuel generalizing front cs ls with
  | zero =>
    obtain rfl := List.length_eq_zero_iff.1 (Nat.le_zero.1 enough)
    cases h
    exact .nil front
  | succ fuel ih =>
    cases cs with
    | nil =>
      cases h
      exact .nil front
    | cons c cs =>
      have left : cs.length ≤ fuel := Nat.le_of_succ_le_succ enough
      rw [scan] at h
      split at h
      case isTrue isBlank =>
        rw [← Text.byteLength_singleton c, ← Text.byteLength_append] at h
        exact .blank isBlank (ih left h)
      split at h
      · cases h
      rename_i s scanned
      dsimp only at h
      rw [← Text.byteLength_append] at h
      split at h
      · cases h
      rename_i more run
      cases h
      rw [← append_of_scanToken scanned]
      exact .lexeme s.token (lexeme_ne_nil scanned)
        (ih (Nat.le_trans (length_rest_le scanned) left) run)

/-- A run of the lexer that breaks off reports the end of some of the characters, so a boundary. -/
theorem position_of_scan {fuel : Nat} {e : ParseError}
    (h : scan fuel (byteLength front) cs = .error e) :
    ∃ before after, front ++ cs = before ++ after ∧ e.position? = some (byteLength before) := by
  induction fuel generalizing front cs with
  | zero => cases cs <;> cases h
  | succ fuel ih =>
    cases cs with
    | nil => cases h
    | cons c cs =>
      rw [scan] at h
      split at h
      · rw [← Text.byteLength_singleton c, ← Text.byteLength_append] at h
        obtain ⟨before, after, all, here⟩ := ih h
        exact ⟨before, after, by rw [← all, List.append_assoc, List.singleton_append], here⟩
      split at h
      · rename_i failed
        cases h
        exact ⟨front, c :: cs, rfl, position_of_scanToken failed⟩
      rename_i s scanned
      dsimp only at h
      rw [← Text.byteLength_append] at h
      split at h
      · rename_i run
        cases h
        obtain ⟨before, after, all, here⟩ := ih run
        exact ⟨before, after, by rw [← all, ← append_of_scanToken scanned, List.append_assoc], here⟩
      · cases h

section NumberSigns

/-- The characters that quoted texts are written between. -/
def IsQuote (c : Char) : Prop := c = '\'' ∨ c = '"'

/-- What a quoted text is written with ends in the quote that it starts with. A quote inside stands
behind a backslash. -/
theorem suffix_of_scanQuoted {quote : Char} {r : List Char × List Char × List Char}
    (h : scanQuoted quote cs = some r) : [quote] <:+ r.2.1 := by
  fun_induction scanQuoted quote cs generalizing r with
  | case1 | case6 => cases h
  | case2 rest ih | case3 rest ih | case4 c rest _ _ ih =>
    obtain ⟨r', inner, rfl⟩ := Option.map_eq_some_iff.1 h
    exact ((ih inner).trans (List.suffix_cons _ _)).trans (List.suffix_cons _ _)
  | case5 rest =>
    cases h
    exact List.suffix_rfl
  | case7 c rest _ _ _ _ _ ih =>
    obtain ⟨r', inner, rfl⟩ := Option.map_eq_some_iff.1 h
    exact (ih inner).trans (List.suffix_cons _ _)

/-- No character of a number is a number sign. -/
theorem not_mem_of_scanNumber {s : Scanned} (h : scanNumber position cs = .ok s) :
    '#' ∉ s.lexeme := by
  have digits (ds : List Char) : '#' ∉ ds.takeWhile Char.isDigit := fun mem => by
    cases List.all_eq_true.1 List.all_takeWhile _ mem
  rw [scanNumber_eq] at h
  split at h
  · cases h
    simpa [fraction] using ⟨digits _, digits _⟩
  · unfold integer at h
    split at h <;> cases h
    exact digits cs

/-- A number sign belongs to no token but a quoted text, and behind it the quote is closed. So no
text that is read ends in a number sign and digits. -/
theorem exists_quote_of_scanToken {c : Char} {s : Scanned} (h : scanToken position c cs = .ok s)
    {before after : List Char} (there : s.lexeme = before ++ '#' :: after) :
    ∃ q ∈ after, IsQuote q := by
  have mem : '#' ∈ s.lexeme := by simp [there]
  rw [scanToken] at h
  split at h
  case isTrue =>
    cases h
    cases List.all_eq_true.1 List.all_takeWhile _ mem
  split at h
  case isTrue => exact absurd mem (not_mem_of_scanNumber h)
  split at h
  case isTrue quote =>
    split at h <;> cases h
    rename_i closed
    have last : (before ++ '#' :: after).getLast? = some c := by
      rw [← there, List.getLast?_eq_some_iff]
      exact ((suffix_of_scanQuoted closed).trans (List.suffix_cons _ _)).imp fun _ => Eq.symm
    rw [List.getLast?_append_of_ne_nil _ (List.cons_ne_nil _ _)] at last
    cases after with
    | nil =>
      cases last
      rcases quote with quote | quote <;> cases quote
    | cons d after =>
      rw [List.getLast?_cons_cons] at last
      exact ⟨c, List.mem_of_getLast? last, quote⟩
  · split at h <;> cases h
    rename_i found
    unfold scanSign at found
    split at found <;> cases found <;> simp at mem

/-- **Behind a number sign a quote is closed,** wherever in a text the lexer comes by one: it starts
no token, and the only tokens that it can be part of are quoted texts. -/
theorem exists_quote_of_scan {fuel : Nat} (enough : cs.length ≤ fuel)
    (h : scan fuel position cs = .ok ls) {before after : List Char}
    (there : cs = before ++ '#' :: after) : ∃ q ∈ after, IsQuote q := by
  induction fuel generalizing position cs ls before with
  | zero =>
    obtain rfl := List.length_eq_zero_iff.1 (Nat.le_zero.1 enough)
    simp at there
  | succ fuel ih =>
    cases cs with
    | nil => simp at there
    | cons c cs =>
      have left : cs.length ≤ fuel := Nat.le_of_succ_le_succ enough
      rw [scan] at h
      split at h
      case isTrue blank =>
        cases before with
        | nil =>
          obtain ⟨rfl, -⟩ := List.cons.inj there
          cases blank
        | cons d before => exact ih left h (List.cons.inj there).2
      split at h
      · cases h
      rename_i s scanned
      dsimp only at h
      split at h
      · cases h
      rename_i more run
      rw [← append_of_scanToken scanned] at there
      rcases List.append_eq_append_iff.1 there with ⟨passed, rfl, further⟩ | ⟨covered, here, ends⟩
      · exact ih (Nat.le_trans (length_rest_le scanned) left) run further
      · cases covered with
        | nil =>
          -- the number sign is the first character behind the token
          have first : s.rest = [] ++ '#' :: after := ends.symm
          exact ih (Nat.le_trans (length_rest_le scanned) left) run first
        | cons d covered =>
          obtain ⟨rfl, rest⟩ := List.cons.inj ends
          obtain ⟨q, mem, quote⟩ := exists_quote_of_scanToken scanned here
          exact ⟨q, rest ▸ List.mem_append_left _ mem, quote⟩

end NumberSigns

namespace Tiles

/-- A lexeme lies on some of the characters. Where it starts and stops are lengths of what is in
front and of itself. -/
theorem exists_written (h : Tiles front cs ls) {l : Lexeme} (mem : l ∈ ls) :
    ∃ before written after, front ++ cs = before ++ (written ++ after) ∧ written ≠ [] ∧
      l.start = byteLength before ∧ l.stop = byteLength (before ++ written) := by
  induction h with
  | nil => cases mem
  | blank _ _ ih =>
    obtain ⟨before, written, after, all, there⟩ := ih mem
    exact ⟨before, written, after, by rw [← all, List.append_assoc, List.singleton_append], there⟩
  | lexeme token some _ ih =>
    rcases List.mem_cons.1 mem with rfl | mem
    · exact ⟨_, _, _, rfl, some, rfl, rfl⟩
    · obtain ⟨before, written, after, all, there⟩ := ih mem
      exact ⟨before, written, after, by rw [← all, List.append_assoc], there⟩

/-- **No token is empty**: each one takes at least one character, and every character takes at least
one byte. -/
theorem start_lt_stop (h : Tiles front cs ls) : ∀ l ∈ ls, l.start < l.stop := by
  intro l mem
  obtain ⟨before, written, after, -, some, start, stop⟩ := h.exists_written mem
  have long := Text.byteLength_pos some
  rw [start, stop, Text.byteLength_append]
  omega

/-- Lexemes start behind the characters in front of them. So none of them starts inside one before
it. -/
theorem le_start (h : Tiles front cs ls) : ∀ l ∈ ls, byteLength front ≤ l.start := by
  induction h with
  | nil => simp
  | blank _ _ ih => exact fun l mem => Nat.le_trans (by simp) (ih l mem)
  | lexeme token _ _ ih =>
    exact List.forall_mem_cons.2 ⟨Nat.le_refl _, fun l mem => Nat.le_trans (by simp) (ih l mem)⟩

/-- **Tokens come one behind the other**, also those that are not neighbours, by induction along the
scan. -/
theorem pairwise_stop_le_start (h : Tiles front cs ls) :
    ls.Pairwise fun l l' => l.stop ≤ l'.start := by
  induction h with
  | nil => exact .nil
  | blank _ _ ih => exact ih
  | lexeme token _ rest ih => exact List.pairwise_cons.2 ⟨rest.le_start, ih⟩

/-- A character that no lexeme covers is blank. Everything else of a text belongs to one. -/
theorem isBlank_of_uncovered (h : Tiles front cs ls) {between back : List Char} {c : Char}
    (there : cs = between ++ c :: back)
    (uncovered : ∀ l ∈ ls, ¬ l.Covers (byteLength (front ++ between))) :
    Text.isBlank c = true := by
  induction h generalizing between with
  | nil => simp at there
  | blank isBlank _ ih =>
    cases between with
    | nil =>
      obtain ⟨rfl, -⟩ := List.cons.inj there
      exact isBlank
    | cons d between =>
      obtain ⟨rfl, further⟩ := List.cons.inj there
      refine ih further fun l mem => ?_
      rw [List.append_assoc]
      exact uncovered l mem
  | @lexeme token front written _ _ _ _ ih =>
    obtain ⟨here, others⟩ := List.forall_mem_cons.1 uncovered
    rcases List.append_eq_append_iff.1 there with ⟨passed, rfl, further⟩ | ⟨covered, rfl, ends⟩
    · refine ih further fun l mem => ?_
      rw [List.append_assoc]
      exact others l mem
    · cases covered with
      | nil =>
        -- the character is the first one behind the lexeme
        refine @ih [] ends.symm fun l mem => ?_
        simpa using others l mem
      | cons d covered =>
        refine absurd ⟨?_, ?_⟩ here
        · simp
        · have long : 0 < byteLength (d :: covered) := Text.byteLength_pos (List.cons_ne_nil _ _)
          simp only [Text.byteLength_append]
          omega

end Tiles
end Lexer

/-- **The lexemes of a text tile it.** They follow each other, lie on boundaries and leave out
nothing but blanks. -/
theorem tiling_of_tokenize {s : String} {ls : List Lexeme} (h : tokenize s = .ok ls) :
    Tiling s ls := by
  have tiles : Lexer.Tiles [] s.toList ls := Lexer.tiles_scan (Nat.le_refl _) h
  have boundaries : ∀ l ∈ ls, IsBoundary s l.start ∧ IsBoundary s l.stop := by
    intro l mem
    obtain ⟨before, written, after, all, -, start, stop⟩ := tiles.exists_written mem
    rw [List.nil_append] at all
    rw [start, stop]
    exact ⟨Text.isBoundary_of_append all,
      Text.isBoundary_of_append (all.trans (List.append_assoc ..).symm)⟩
  refine ⟨tiles.start_lt_stop, ?_, tiles.pairwise_stop_le_start, boundaries, fun l mem => ?_, ?_⟩
  · refine List.Pairwise.imp_of_mem (fun mem _ apart => ?_) tiles.pairwise_stop_le_start
    exact Nat.lt_of_lt_of_le (tiles.start_lt_stop _ mem) apart
  · exact (boundaries l mem).2.le
  · exact fun front c back => tiles.isBlank_of_uncovered

/-- **A text that has tokens does not end in a number sign and digits,** whatever blanks follow: the
quote that would have to be closed behind the number sign is neither a digit nor blank. -/
theorem trimChars_ne_of_tokenize {s : String} {ls : List Lexeme} (h : tokenize s = .ok ls)
    (front : List Char) {digits : List Char} (all : ∀ d ∈ digits, d.isDigit = true) :
    Text.trimChars s.toList ≠ front ++ '#' :: digits := by
  intro same
  obtain ⟨blanks, blanks', -, blank, chars⟩ := Text.exists_margins s.toList
  have there : s.toList = (blanks ++ front) ++ '#' :: (digits ++ blanks') := by
    rw [chars, same]
    simp only [List.append_assoc, List.cons_append]
  obtain ⟨q, mem, quote⟩ := Lexer.exists_quote_of_scan (Nat.le_refl _) h there
  rcases List.mem_append.1 mem with mem | mem
  · have digit := all q mem
    rcases quote with rfl | rfl <;> cases digit
  · have isBlank := blank q mem
    rcases quote with rfl | rfl <;> cases isBlank

/-- What is no token is reported at a boundary of the text, so the text can be cut there. -/
theorem isBoundary_of_tokenize {s : String} {e : ParseError} (h : tokenize s = .error e) :
    ∃ p, e.position? = some p ∧ IsBoundary s p := by
  have run : Lexer.scan s.toList.length (byteLength []) s.toList = .error e := h
  obtain ⟨before, after, all, here⟩ := Lexer.position_of_scan run
  exact ⟨_, here, Text.isBoundary_of_append all⟩

end Hindsight
