import Hindsight.Text.Basic

/-!
# Scalar functions

The functions of single values, with their names and the number of arguments they take.
-/

namespace Hindsight

/-- A function of single values. -/
inductive ScalarFunction where
  | abs
  | round
  | floor
  | ceil
  | sqrt
  | ln
  | lower
  | upper
  | length
  | trim
  | concat
  | contains
  | startsWith
  | endsWith
  | substr
  | replace
  | regexMatch
  | regexExtract
  | regexReplace
  | regexSplit
  | regexCount
  | dateDiff
  | hour
  | extract
  | formatDate
  | coalesce
deriving DecidableEq, Repr

/-- How many arguments are accepted; without a greatest number any more are. -/
structure Arity where
  least : Nat
  greatest : Option Nat
deriving DecidableEq, Repr

namespace Arity

/-- Whether a number of arguments is accepted. -/
def accepts (a : Arity) (n : Nat) : Bool :=
  decide (a.least ≤ n) && a.greatest.all fun m => decide (n ≤ m)

/-- An arity in words. -/
def text (a : Arity) : String :=
  match a.greatest with
  | some m =>
    if m = a.least then toString a.least else toString a.least ++ ".." ++ toString m
  | none => "at least " ++ toString a.least

end Arity

namespace ScalarFunction

/-- The functions. -/
def all : List ScalarFunction :=
  [abs, round, floor, ceil, sqrt, ln, lower, upper, length, trim, concat, contains, startsWith,
   endsWith, substr, replace, regexMatch, regexExtract, regexReplace, regexSplit, regexCount,
   dateDiff, hour, extract, formatDate, coalesce]

/-- The name of a function. -/
def name : ScalarFunction → String
  | abs => "abs"
  | round => "round"
  | floor => "floor"
  | ceil => "ceil"
  | sqrt => "sqrt"
  | ln => "ln"
  | lower => "lower"
  | upper => "upper"
  | length => "length"
  | trim => "trim"
  | concat => "concat"
  | contains => "contains"
  | startsWith => "starts_with"
  | endsWith => "ends_with"
  | substr => "substr"
  | replace => "replace"
  | regexMatch => "regex_match"
  | regexExtract => "regex_extract"
  | regexReplace => "regex_replace"
  | regexSplit => "regex_split"
  | regexCount => "regex_count"
  | dateDiff => "date_diff"
  | hour => "hour"
  | extract => "extract"
  | formatDate => "format_date"
  | coalesce => "coalesce"

/-- The function of exactly that name. -/
def ofTag? (s : String) : Option ScalarFunction := all.find? fun f => f.name == s

/-- A function is read back from its name. -/
theorem ofTag?_name (f : ScalarFunction) : ofTag? f.name = some f := by cases f <;> rfl

/-- The function of a name without regard to case; some functions have a second name. -/
def ofName? (s : String) : Option ScalarFunction :=
  match Text.asciiLower s with
  | "len" => some length
  | "substring" => some substr
  | "date_part" => some extract
  | t => ofTag? t

/-- The number of arguments of a function. -/
def arity : ScalarFunction → Arity
  | coalesce => ⟨1, none⟩
  | concat => ⟨2, none⟩
  | substr => ⟨2, some 3⟩
  | replace | regexReplace => ⟨3, some 3⟩
  | contains | startsWith | endsWith | regexMatch | regexExtract | regexSplit | regexCount
  | dateDiff | extract | formatDate => ⟨2, some 2⟩
  | _ => ⟨1, some 1⟩

end ScalarFunction

end Hindsight
