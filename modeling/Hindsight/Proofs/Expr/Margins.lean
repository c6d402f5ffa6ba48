import Hindsight.Proofs.Expr.Positions

/-!
# Blanks around a text

Blanks behind a text go on in no token (`Lexer.scanToken_append`), a token takes the characters it
is written with and at least one of them (`Lexer.append_of_scanToken`, `Lexer.lexeme_ne_nil`), and
blanks in front of a text are passed over, so texts that are the same once they are trimmed have the
same tokens (`related_lexemes`). As positions do not matter either, they are **read as the same
expression** (`Expr.related_parse`) and as the same feature (`FeatureText.related_parse`).
-/

namespace Hindsight

open Grammar (SameTokens)

namespace Text

variable {cs bs : List Char}

/-- Characters that are blank. -/
def AllBlank (bs : List Char) : Prop := ∀ b ∈ bs, isBlank b = true

/-- A text is what is left when it is trimmed, with blanks around it. On either side there may be
none. -/
theorem exists_margins (cs : List Char) :
    ∃ front back, AllBlank front ∧ AllBlank back ∧ cs = front ++ (trimChars cs ++ back) := by
  have taken (ds : List Char) : AllBlank (ds.takeWhile isBlank) := fun b hb =>
    List.all_eq_true.1 List.all_takeWhile b hb
  have split (ds : List Char) : ds.takeWhile isBlank ++ dropBlanks ds = ds :=
    List.takeWhile_append_dropWhile
  refine ⟨cs.takeWhile isBlank, ((dropBlanks cs).reverse.takeWhile isBlank).reverse, taken cs,
    fun b hb => taken _ b (List.mem_reverse.1 hb), ?_⟩
  rw [trimChars, ← List.reverse_append, split, List.reverse_reverse, split]

/-- A blank is no character that is not blank. -/
theorem AllBlank.head_ne {b : Char} (blank : AllBlank (b :: bs)) {c : Char}
    (noBlank : isBlank c = false) : b ≠ c := by
  rintro rfl
  have isBlank := blank b List.mem_cons_self
  rw [noBlank] at isBlank
  cases isBlank

/-- Blanks are not taken with characters of a class without blanks, so they stay behind what was
taken. -/
theorem AllBlank.takeWhile_append (blank : AllBlank bs) {p : Char → Bool}
    (noBlank : ∀ c, p c = true → isBlank c = false) (cs : List Char) :
    (cs ++ bs).takeWhile p = cs.takeWhile p ∧ (cs ++ bs).dropWhile p = cs.dropWhile p ++ bs := by
  induction cs with
  | nil =>
    cases bs with
    | nil => exact ⟨rfl, rfl⟩
    | cons b bs =>
      have out : ¬p b = true := fun inside => blank.head_ne (noBlank b inside) rfl
      rw [List.nil_append, List.takeWhile_cons_of_neg out, List.dropWhile_cons_of_neg out]
      exact ⟨rfl, rfl⟩
  | cons c cs ih =>
    by_cases inside : p c = true
    · rw [List.cons_append, List.takeWhile_cons_of_pos inside, List.takeWhile_cons_of_pos inside,
        List.dropWhile_cons_of_pos inside, List.dropWhile_cons_of_pos inside, ih.1, ih.2]
      exact ⟨rfl, rfl⟩
    · rw [List.cons_append, List.takeWhile_cons_of_neg inside, List.takeWhile_cons_of_neg inside,
        List.dropWhile_cons_of_neg inside, List.dropWhile_cons_of_neg inside]
      exact ⟨rfl, rfl⟩

end Text

namespace Lexer

variable {cs bs : List Char} {position : Nat} {s : Scanned}

open Text (AllBlank)

/-- What was scanned, with more characters behind it. -/
def Scanned.before (bs : List Char) (s : Scanned) : Scanned := ⟨s.token, s.lexeme, s.rest ++ bs⟩

/-- Blanks behind a text are not taken into a word, since no blank goes on in a word. -/
theorem scanWord_append (blank : AllBlank bs) (cs : List Char) :
    scanWord (cs ++ bs) = (scanWord cs).before bs := by
  obtain ⟨taken, dropped⟩ := blank.takeWhile_append (fun _ => not_isBlank_of_continuesWord) cs
  rw [scanWord, taken, dropped]
  rfl

/-- Whether a point and a digit follow the digits of a number. -/
def startsFraction : List Char → Bool
  | '.' :: d :: _ => d.isDigit
  | _ => false

/-- Where the next character is no point, no fraction starts. -/
theorem startsFraction_cons {c : Char} (noPoint : c ≠ '.') (cs : List Char) :
    startsFraction (c :: cs) = false := by
  rw [startsFraction]
  exact fun d more same => noPoint (List.head_eq_of_cons_eq same)

/-- The number of digits without a fraction, unless there are too many. -/
def integer (position : Nat) (whole rest : List Char) : Except ParseError Scanned :=
  match Number.word? (Number.digitsValue whole) with
  | some n => .ok ⟨.int n, whole, rest⟩
  | none => .error (.invalidNumber (String.ofList whole) position)

/-- The number of digits and of those behind the point. -/
def fraction (whole behind : List Char) : Scanned :=
  let digits := behind.takeWhile Char.isDigit
  ⟨.float (Number.nearest (Number.digitsValue (whole ++ digits)) (-(digits.length : Int))),
    whole ++ '.' :: digits, behind.dropWhile Char.isDigit⟩

/-- **A number is read by whether a point and a digit follow its digits**: with them it is a
fraction, and otherwise an integer, which may be too large. -/
theorem scanNumber_eq (position : Nat) (cs : List Char) :
    scanNumber position cs =
      if startsFraction (cs.dropWhile Char.isDigit) then
        .ok (fraction (cs.takeWhile Char.isDigit) (cs.dropWhile Char.isDigit).tail)
      else integer position (cs.takeWhile Char.isDigit) (cs.dropWhile Char.isDigit) := by
  unfold scanNumber
  dsimp only
  generalize cs.dropWhile Char.isDigit = rest
  fun_cases startsFraction rest with
  | case1 d more => rfl
  | case2 =>
    split
    · rename_i noFraction
      exact (noFraction _ _ rfl).elim
    · rfl

/-- What stands behind the digits of an integer is left as it is, whatever it is. -/
theorem integer_append (whole rest : List Char) :
    integer position whole (rest ++ bs) =
      (integer position whole rest).map (Scanned.before bs) := by
  rw [integer, integer]
  cases Number.word? (Number.digitsValue whole) <;> rfl

/-- Neither a point nor a digit is blank, so blanks neither start a fraction nor keep one from
starting. -/
theorem startsFraction_append (blank : AllBlank bs) (rest : List Char) :
    startsFraction (rest ++ bs) = startsFraction rest := by
  match rest with
  | [] =>
    cases bs with
    | nil => rfl
    | cons b bs => exact startsFraction_cons (blank.head_ne (by decide)) bs
  | [c] =>
    by_cases point : c = '.'
    · subst point
      cases bs with
      | nil => rfl
      | cons b bs =>
        show b.isDigit = false
        rw [← Bool.not_eq_true]
        exact fun digit => blank.head_ne (not_isBlank_of_isDigit digit) rfl
    · rw [startsFraction_cons point]
      exact startsFraction_cons point bs
  | c :: d :: rest =>
    by_cases point : c = '.'
    · subst point
      rfl
    · rw [startsFraction_cons point]
      exact startsFraction_cons point _

/-- Blanks behind a text are not taken into a number, with a fraction or without: no blank is a
digit or a point. -/
theorem scanNumber_append (blank : AllBlank bs) (cs : List Char) :
    scanNumber position (cs ++ bs) = (scanNumber position cs).map (Scanned.before bs) := by
  have digits := blank.takeWhile_append fun c => not_isBlank_of_isDigit
  rw [scanNumber_eq, scanNumber_eq, (digits cs).1, (digits cs).2, startsFraction_append blank]
  split
  · rename_i starts
    cases dropped : cs.dropWhile Char.isDigit with
    | nil =>
      rw [dropped] at starts
      cases starts
    | cons c rest =>
      show _ = Except.ok _
      rw [Scanned.before, fraction, fraction, List.cons_append, List.tail_cons, List.tail_cons,
        (digits rest).1, (digits rest).2]
  · exact integer_append _ _

/-- One step of reading a quoted text at a character that is no backslash: the quote ends the text,
and any other character is taken into it. -/
theorem scanQuoted_cons {quote c : Char} (plain : c ≠ '\\') (cs : List Char) :
    scanQuoted quote (c :: cs) =
      if c = quote then some ([], [c], cs)
      else (scanQuoted quote cs).map fun r => (c :: r.1, c :: r.2.1, r.2.2) := by
  rw [scanQuoted]
  · rw [if_neg plain]
  · exact fun _ same => absurd same plain
  · exact fun _ same => absurd same plain
  · exact fun _ _ same => absurd same plain

/-- Blanks do not end a quoted text, so what is not closed before them is not closed. -/
theorem scanQuoted_of_allBlank {quote : Char} (noBlank : Text.isBlank quote = false)
    (blank : AllBlank bs) : scanQuoted quote bs = none := by
  induction bs with
  | nil => rfl
  | cons b bs ih =>
    have rest : AllBlank bs := fun c hc => blank c (List.mem_cons_of_mem b hc)
    rw [scanQuoted_cons (blank.head_ne (by decide)), if_neg (blank.head_ne noBlank), ih rest,
      Option.map_none]

/-- **Blanks behind a text do not change a quoted text in it**, since a quote that is not closed is
not closed by blanks either. By the recursion of the reader, in which a backslash takes two
characters at once. -/
theorem scanQuoted_append (blank : AllBlank bs) {quote : Char}
    (noBlank : Text.isBlank quote = false) (plain : quote ≠ '\\') (cs : List Char) :
    scanQuoted quote (cs ++ bs) = (scanQuoted quote cs).map fun r => (r.1, r.2.1, r.2.2 ++ bs) := by
  fun_induction scanQuoted quote cs with
  | case1 => exact scanQuoted_of_allBlank noBlank blank
  | case2 rest ih | case3 rest ih =>
    rw [List.cons_append, List.cons_append, scanQuoted, ih, Option.map_map, Option.map_map]
    rfl
  | case4 c rest noFeed noTab ih =>
    rw [List.cons_append, List.cons_append, scanQuoted, ih, Option.map_map, Option.map_map]
    · rfl
    · exact noFeed
    · exact noTab
  | case5 rest =>
    rw [List.cons_append, scanQuoted_cons plain, if_pos rfl]
    rfl
  | case6 rest _ _ last =>
    -- a backslash at the end makes a blank plain, and blanks go on
    obtain rfl : rest = [] := by
      cases rest with
      | nil => rfl
      | cons c rest => exact (last _ _ rfl rfl).elim
    rw [Option.map_none, List.singleton_append]
    cases bs with
    | nil => simp [scanQuoted, plain.symm]
    | cons b bs =>
      have rest : AllBlank bs := fun c hc => blank c (List.mem_cons_of_mem b hc)
      rw [scanQuoted, scanQuoted_of_allBlank noBlank rest, Option.map_none]
      · exact blank.head_ne (by decide)
      · exact blank.head_ne (by decide)
  | case7 c rest _ _ _ noQuote noBackslash ih =>
    rw [List.cons_append, scanQuoted_cons noBackslash, if_neg noQuote, ih, Option.map_map,
      Option.map_map]
    rfl

/-- A blank is none of the characters of a sign. -/
theorem scanSign_append (blank : AllBlank bs) (notEmpty : cs ≠ []) :
    scanSign (cs ++ bs) = (scanSign cs).map (Scanned.before bs) := by
  -- a character that makes a sign longer does not stand behind it when blanks follow either
  have apart (d : Char) (noBlank : Text.isBlank d = false) (rest : List Char)
      (noLonger : ∀ more, rest = d :: more → False) (more : List Char) :
      rest ++ bs ≠ d :: more := by
    cases rest with
    | nil =>
      rintro rfl
      exact blank.head_ne noBlank rfl
    | cons c rest =>
      intro same
      exact noLonger rest (congrArg (· :: rest) (List.head_eq_of_cons_eq same))
  fun_cases scanSign cs
  case case8 rest noEq | case9 rest noEq | case11 rest noEq =>
    have noEq' := apart '=' (by decide) rest noEq
    rw [List.cons_append, scanSign]
    · rfl
    · exact noEq'
  case case10 rest noGt noEq =>
    have noGt' := apart '>' (by decide) rest noGt
    have noEq' := apart '=' (by decide) rest noEq
    rw [List.cons_append, scanSign]
    · rfl
    · exact noGt'
    · exact noEq'
  case case21 _ _ _ _ _ noAnd noOr _ _ _ _ _ _ _ _ _ _ _ _ _ =>
    obtain ⟨c, rest, rfl⟩ := List.exists_cons_of_ne_nil notEmpty
    rw [List.cons_append]
    unfold scanSign
    split
    case h_6 more same =>
      obtain ⟨rfl, longer⟩ := List.cons.inj same
      exact absurd longer (apart '&' (by decide) rest (fun r h => noAnd r (h ▸ rfl)) more)
    case h_7 more same =>
      obtain ⟨rfl, longer⟩ := List.cons.inj same
      exact absurd longer (apart '|' (by decide) rest (fun r h => noOr r (h ▸ rfl)) more)
    case h_21 => rfl
    all_goals
      rename_i same
      obtain ⟨rfl, -⟩ := List.cons.inj same
      exfalso -- the other signs were excluded
      solve_by_elim only [*, rfl]
  all_goals rfl

/-- **Blanks go on in no token.** There is one case for each kind of token. A quoted text without
its end is a fault on both sides. -/
theorem scanToken_append (blank : AllBlank bs) (c : Char) (cs : List Char) :
    scanToken position c (cs ++ bs) = (scanToken position c cs).map (Scanned.before bs) := by
  rw [scanToken, scanToken, ← List.cons_append]
  split
  · rw [scanWord_append blank]
    rfl
  split
  · exact scanNumber_append blank (c :: cs)
  split
  · rename_i quote
    have noBlank : Text.isBlank c = false := by rcases quote with rfl | rfl <;> decide
    have plain : c ≠ '\\' := by rcases quote with rfl | rfl <;> decide
    rw [scanQuoted_append blank noBlank plain]
    cases scanQuoted c cs <;> rfl
  · rw [scanSign_append blank (List.cons_ne_nil c cs)]
    cases scanSign (c :: cs) <;> rfl

/-- A position shows in messages only, never in the token or in what is left. -/
theorem scanToken_position (position position' : Nat) (c : Char) (cs : List Char) :
    Related Eq (scanToken position c cs) (scanToken position' c cs) := by
  rw [scanToken, scanToken]
  split
  · exact .ok rfl
  split
  · rw [scanNumber_eq, scanNumber_eq]
    split
    · exact .ok rfl
    · rw [integer, integer]
      cases Number.word? (Number.digitsValue ((c :: cs).takeWhile Char.isDigit)) with
      | none => exact .error _ _
      | some n => exact .ok rfl
  split
  · cases scanQuoted c cs with
    | none => exact .error _ _
    | some r => exact .ok rfl
  · cases scanSign (c :: cs) with
    | none => exact .error _ _
    | some s => exact .ok rfl

/-- The characters that were read for a quoted text and those that are left are all the characters
there were. -/
theorem append_of_scanQuoted {quote : Char} {r : List Char × List Char × List Char}
    (h : scanQuoted quote cs = some r) : r.2.1 ++ r.2.2 = cs := by
  fun_induction scanQuoted quote cs generalizing r with
  | case1 | case6 => cases h
  | case2 rest ih | case3 rest ih | case4 c rest _ _ ih | case7 c rest _ _ _ _ _ ih =>
    obtain ⟨r', inner, rfl⟩ := Option.map_eq_some_iff.1 h
    simp only [List.cons_append, ih inner]
  | case5 rest =>
    cases h
    rfl

/-- The characters of a sign and those that are left are all the characters there were. -/
theorem append_of_scanSign (h : scanSign cs = some s) : s.lexeme ++ s.rest = cs := by
  unfold scanSign at h
  split at h <;> cases h <;> rfl

/-- The characters of a number and those that are left are all the characters there were; for a
fraction these are its digits, the point and the digits behind it. -/
theorem append_of_scanNumber (h : scanNumber position cs = .ok s) : s.lexeme ++ s.rest = cs := by
  have digits (ds : List Char) : ds.takeWhile Char.isDigit ++ ds.dropWhile Char.isDigit = ds :=
    List.takeWhile_append_dropWhile
  rw [scanNumber_eq] at h
  split at h
  case isTrue starts =>
    cases h
    -- the point that starts the fraction is written between the digits
    have point : '.' :: (cs.dropWhile Char.isDigit).tail = cs.dropWhile Char.isDigit := by
      revert starts
      fun_cases startsFraction (cs.dropWhile Char.isDigit) <;> simp
    rw [fraction, List.append_assoc, List.cons_append, digits, point, digits]
  case isFalse =>
    unfold integer at h
    split at h
    · cases h
      exact digits cs
    · cases h

/-- **A token takes the characters it is written with,** and leaves the others. So nothing of a text
is lost between its lexemes. -/
theorem append_of_scanToken {c : Char} (h : scanToken position c cs = .ok s) :
    s.lexeme ++ s.rest = c :: cs := by
  rw [scanToken] at h
  split at h
  · cases h
    exact List.takeWhile_append_dropWhile
  split at h
  · exact append_of_scanNumber h
  split at h
  · split at h
    · rename_i found
      cases h
      rw [List.cons_append, append_of_scanQuoted found]
    · cases h
  · split at h
    · rename_i found
      cases h
      exact append_of_scanSign found
    · cases h

/-- A token takes at least one character, so the scan always comes further. -/
theorem lexeme_ne_nil {c : Char} (h : scanToken position c cs = .ok s) : s.lexeme ≠ [] := by
  rw [scanToken] at h
  split at h
  case isTrue starts =>
    cases h
    rw [scanWord, List.takeWhile_cons_of_pos (continuesWord_iff.2 (.inl starts))]
    exact List.cons_ne_nil _ _
  split at h
  case isTrue digit =>
    rw [scanNumber_eq, List.takeWhile_cons_of_pos digit] at h
    split at h
    · cases h
      exact List.cons_ne_nil _ _
    · unfold integer at h
      split at h <;> cases h
      exact List.cons_ne_nil _ _
  split at h
  · split at h <;> cases h
    exact List.cons_ne_nil _ _
  · split at h
    · rename_i found
      cases h
      unfold scanSign at found
      split at found <;> cases found <;> exact List.cons_ne_nil _ _
    · cases h

/-- A token takes at least one character. So the number of characters is fuel enough for a scan. -/
theorem length_rest_le {c : Char} (h : scanToken position c cs = .ok s) :
    s.rest.length ≤ cs.length := by
  have all := congrArg List.length (append_of_scanToken h)
  have some := List.length_pos_of_ne_nil (lexeme_ne_nil h)
  rw [List.length_append, List.length_cons] at all
  omega

/-- Blanks alone are no tokens. -/
theorem scan_of_allBlank (blank : AllBlank bs) (fuel position : Nat) :
    scan fuel position bs = .ok [] := by
  induction bs generalizing fuel position with
  | nil => rw [scan]
  | cons b bs ih =>
    cases fuel with
    | zero => rfl
    | succ fuel =>
      rw [scan, if_pos (blank b List.mem_cons_self)]
      exact ih (fun c hc => blank c (List.mem_cons_of_mem b hc)) _ _

/-- **Blanks behind a text** do not matter to its tokens. By induction on the fuel, which may differ
on the two sides as long as it is enough. -/
theorem related_scan {bs' : List Char} (blank : AllBlank bs) (blank' : AllBlank bs')
    {fuel fuel' : Nat} (position position' : Nat) {cs : List Char} (enough : cs.length ≤ fuel)
    (enough' : cs.length ≤ fuel') :
    Related SameTokens (scan fuel position (cs ++ bs)) (scan fuel' position' (cs ++ bs')) := by
  induction fuel generalizing fuel' position position' cs with
  | zero =>
    obtain rfl := List.length_eq_zero_iff.1 (Nat.le_zero.1 enough)
    rw [List.nil_append, List.nil_append, scan_of_allBlank blank, scan_of_allBlank blank']
    exact .ok .nil
  | succ fuel ih =>
    cases cs with
    | nil =>
      rw [List.nil_append, List.nil_append, scan_of_allBlank blank, scan_of_allBlank blank']
      exact .ok .nil
    | cons c cs =>
      obtain ⟨fuel', rfl⟩ : ∃ f, fuel' = f + 1 := ⟨fuel' - 1, by simp at enough'; omega⟩
      have left : cs.length ≤ fuel := Nat.le_of_succ_le_succ enough
      have left' : cs.length ≤ fuel' := Nat.le_of_succ_le_succ enough'
      rw [List.cons_append, List.cons_append, scan, scan]
      split
      · exact ih _ _ left left'
      rw [scanToken_append blank, scanToken_append blank']
      rcases (scanToken_position position position' c cs).ok_or_error with
        ⟨s, _, scanned, scanned', rfl⟩ | ⟨e, e', failed, failed'⟩
      · have shorter := length_rest_le scanned
        rw [scanned, scanned']
        dsimp only [Except.map, Scanned.before]
        rcases (ih (position + Text.byteLength s.lexeme) (position' + Text.byteLength s.lexeme)
          (Nat.le_trans shorter left) (Nat.le_trans shorter left')).ok_or_error with
          ⟨ls, ls', rest, rest', tokens⟩ | ⟨e, e', failed, failed'⟩
        · rw [rest, rest']
          exact .ok (.cons s.token tokens)
        · rw [failed, failed']
          exact .error _ _
      · rw [failed, failed']
        exact .error _ _

/-- Blanks in front of a text are passed over. They cost fuel and change positions, and nothing
else. -/
theorem exists_scan_of_front (blank : AllBlank bs) {fuel : Nat} (position : Nat) {cs : List Char}
    (enough : (bs ++ cs).length ≤ fuel) :
    ∃ fuel' position', cs.length ≤ fuel' ∧
      scan fuel position (bs ++ cs) = scan fuel' position' cs := by
  induction bs generalizing fuel position with
  | nil => exact ⟨fuel, position, enough, rfl⟩
  | cons b bs ih =>
    obtain ⟨fuel, rfl⟩ : ∃ f, fuel = f + 1 := ⟨fuel - 1, by simp at enough; omega⟩
    rw [List.cons_append, scan, if_pos (blank b List.mem_cons_self)]
    exact ih (fun c hc => blank c (List.mem_cons_of_mem b hc)) _ (Nat.le_of_succ_le_succ enough)

end Lexer

/-- **Texts that are the same when they are trimmed** have the same tokens. What they are trimmed of
stands in front and behind. -/
theorem related_tokenize {s s' : String} (same : Text.trim s = Text.trim s') :
    Related SameTokens (tokenize s) (tokenize s') := by
  have core : Text.trimChars s.toList = Text.trimChars s'.toList := String.ofList_injective same
  obtain ⟨front, back, frontBlank, backBlank, chars⟩ := Text.exists_margins s.toList
  obtain ⟨front', back', frontBlank', backBlank', chars'⟩ := Text.exists_margins s'.toList
  rw [← core] at chars'
  have long : (front ++ (Text.trimChars s.toList ++ back)).length ≤ s.toList.length :=
    Nat.le_of_eq (congrArg List.length chars.symm)
  have long' : (front' ++ (Text.trimChars s.toList ++ back')).length ≤ s'.toList.length :=
    Nat.le_of_eq (congrArg List.length chars'.symm)
  obtain ⟨fuel, position, enough, scanned⟩ := Lexer.exists_scan_of_front frontBlank 0 long
  obtain ⟨fuel', position', enough', scanned'⟩ := Lexer.exists_scan_of_front frontBlank' 0 long'
  rw [← chars] at scanned
  rw [← chars'] at scanned'
  rw [tokenize, tokenize, scanned, scanned']
  have fits {ds : List Char} {n : Nat} (h : (Text.trimChars s.toList ++ ds).length ≤ n) :
      (Text.trimChars s.toList).length ≤ n :=
    Nat.le_trans (List.sublist_append_left _ _).length_le h
  exact Lexer.related_scan backBlank backBlank' _ _ (fits enough) (fits enough')

/-- **Texts that are the same once they are trimmed have the same tokens**, or are both refused:
each is what is left when it is trimmed, with blanks around it, and blanks on either side go on in
no token. -/
theorem related_lexemes {s s' : String} (same : Text.trim s = Text.trim s') :
    Related SameTokens (lexemes s) (lexemes s') := by
  have core : Text.trimChars s.toList = Text.trimChars s'.toList := String.ofList_injective same
  rw [lexemes, lexemes, core]
  split
  · exact .error _ _
  · exact related_tokenize same

/-- **Texts that are the same when they are trimmed are read as the same expression,** or both are
refused. -/
theorem Expr.related_parse {s s' : String} (same : Text.trim s = Text.trim s') :
    Related Eq (Expr.parse s) (Expr.parse s') := by
  rw [Expr.parse, Expr.parse]
  refine (related_lexemes same).bind fun ls ls' tokens => ?_
  refine (Grammar.alike_expression _ _ tokens).bind ?_
  rintro ⟨e, rest⟩ ⟨_, rest'⟩ ⟨rfl, left⟩
  exact left.endOfText.bind fun _ _ _ => .ok rfl

/-- **Texts that are the same when they are trimmed are read as the same feature,** or both are
refused. The text itself is kept trimmed. -/
theorem FeatureText.related_parse {s s' : String} (same : Text.trim s = Text.trim s') :
    Related Eq (FeatureText.parse s) (FeatureText.parse s') := by
  rw [FeatureText.parse, FeatureText.parse, same]
  refine (related_lexemes same).bind fun ls ls' tokens => ?_
  refine (Grammar.alike_expression _ _ tokens).bind ?_
  rintro ⟨e, rest⟩ ⟨_, rest'⟩ ⟨rfl, left⟩
  refine (Grammar.alike_aliasClause _ _ left).bind ?_
  rintro ⟨name, rest⟩ ⟨_, rest'⟩ ⟨rfl, left⟩
  exact left.endOfText.bind fun _ _ _ => .ok rfl

end Hindsight
