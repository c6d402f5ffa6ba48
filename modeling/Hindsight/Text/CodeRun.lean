/-!
# Maps of characters

A map from characters to characters by runs of code points that are shifted alike.
-/

namespace Hindsight
namespace Text

/-- The code points `first`, `first + step`, up to `last`, each mapped to the one `shift` away. -/
structure CodeRun where
  first : Nat
  last : Nat
  step : Nat
  shift : Int
deriving DecidableEq, Repr

namespace CodeRun

/-- Whether a run maps a code point. -/
def contains (r : CodeRun) (n : Nat) : Bool :=
  r.first ≤ n && n ≤ r.last && (n - r.first) % r.step == 0

/-- What a run makes of a code point. -/
def image (r : CodeRun) (n : Nat) : Nat := ((n : Int) + r.shift).toNat

/-- The code points that a run maps, each with what becomes of it. -/
def pairs (r : CodeRun) : List (Nat × Nat) :=
  (List.range ((r.last - r.first) / r.step + 1)).map fun i =>
    let n := r.first + r.step * i
    (n, r.image n)

end CodeRun

/-- A code point under a map given by runs; one that no run maps stays. -/
def mapped (runs : List CodeRun) (n : Nat) : Nat :=
  match runs.find? fun r => r.contains n with
  | some r => r.image n
  | none => n

end Text
end Hindsight
