/-!
# Integers of 64 bits

Integer values are mathematical integers that fit a signed word of 64 bits. Arithmetic is done
without bounds and checked afterwards, so overflow is a case that a caller sees. A count is a word
without a sign; where counts are calculated with and nothing is checked, they begin again at zero.
-/

namespace Hindsight
namespace Number

/-- The least signed integer of 64 bits. -/
def minWord : Int := -9223372036854775808

/-- The greatest signed integer of 64 bits. -/
def maxWord : Int := 9223372036854775807

/-- Whether an integer fits a signed word. -/
def fitsWord (n : Int) : Bool := decide (minWord ≤ n) && decide (n ≤ maxWord)

/-- The integer if it fits a signed word. -/
def word? (n : Int) : Option Int := if fitsWord n then some n else none

/-- An integer is taken as a word just if it fits, and then as it is. -/
theorem word?_eq_some {n m : Int} : word? n = some m ↔ n = m ∧ fitsWord n = true := by
  unfold word?; split <;> simp_all

/-- What an unsigned word keeps of a number. -/
def wrap (n : Nat) : Nat := n % 18446744073709551616

/-- The float nearest to an integer. -/
def toFloat (n : Int) : Float := Float.ofInt n

end Number
end Hindsight
