import Hindsight.Regex.Basic
import Hindsight.Text.ByteRange

/-!
# The room that an expression takes

A regular expression is refused if the automaton for the bytes of its matches takes too much room,
read forwards or backwards. Every state takes a fixed number of bytes, and so does every further
way that leads out of it. Repetitions are written out. A class beyond ASCII is an automaton of its
own: forwards its states are shared where the bytes that may follow are the same, backwards where
the bytes before are.
-/

namespace Hindsight
namespace Regex

/-- The bytes that a state takes. -/
def stateSize : Nat := 32

/-- The bytes that a class of ASCII characters takes. -/
def asciiSize (s : CharSet) : Nat := 2 * stateSize + 8 * s.ranges.length

/-- The sequences that start with the same range, without it, under that range. -/
def grouped : List (List ByteRange) → List (ByteRange × List (List ByteRange))
  | [] => []
  | [] :: rest => grouped rest
  | (r :: tail) :: rest =>
    match grouped rest with
    | (r', tails) :: more => if r = r' then (r, tail :: tails) :: more
      else (r, [tail]) :: (r', tails) :: more
    | [] => [(r, [tail])]

/-- What may follow at the states that sequences of at most `n` ranges lead through: for every
state the sequences that go on from it. -/
def continuations : Nat → List (List ByteRange) → List (List (List ByteRange))
  | 0, _ => []
  | n + 1, seqs =>
    seqs :: (grouped seqs).flatMap fun (_, tails) =>
      if tails = [[]] then [] else continuations n tails

/-- The number of steps by which sequences of at most `n` ranges lead from one state to another,
where those with the same ranges before them are one. -/
def steps : Nat → List (List ByteRange) → Nat
  | 0, _ => 0
  | n + 1, seqs => (grouped seqs).foldl (fun k (_, tails) => k + 1 + steps n tails) 0

/-- The bytes that a class takes if matches are read forwards. -/
def forwardSize (s : CharSet) : Nat :=
  (continuations 4 s.byteRanges).eraseDups.foldl
    (fun n seqs => n + stateSize + 8 * (grouped seqs).length) stateSize

/-- The bytes that a class takes if matches are read backwards. -/
def backwardSize (s : CharSet) : Nat :=
  let seqs := s.byteRanges
  2 * stateSize + 4 * seqs.length + stateSize * steps 4 seqs

/-- More bytes than a class takes. -/
def roughSize (s : CharSet) : Nat :=
  2 * stateSize + 10 * (4 * (stateSize + 8) + 4) * s.ranges.length

/-- The bytes that a set takes, where `size` gives those of a class beyond ASCII. -/
def charSize (size : CharSet → Nat) (s : CharSet) : Nat :=
  match s.ranges with
  | [] => stateSize
  | r :: rest =>
    if rest.isEmpty && r.first == r.last then stateSize * (CodeRange.bytes r.first).length
    else if s.isAscii then asciiSize s
    else size s

namespace Node

/-- Whether a node is a choice. -/
def isChoice : Node → Bool
  | choice .. => true
  | _ => false

/-- The bytes that a node takes, where `size` gives those of a set and `mark` those of the ends of
a capture. -/
def size (setSize : CharSet → Nat) (mark : Nat) : Node → Nat
  | empty | look _ => stateSize
  | char s => setSize s
  | capture _ n => mark + n.size setSize mark
  | sequence a b => a.size setSize mark + b.size setSize mark
  | choice a b =>
    a.size setSize mark + 4 + b.size setSize mark + if b.isChoice then 0 else 2 * stateSize + 4
  | repetition least greatest _ n =>
    let part := n.size setSize mark
    let fork := stateSize + 8
    match greatest with
    | none =>
      if least = 0 then
        if n.needsChar then part + fork else part + 2 * fork + stateSize
      else least * part + fork
    | some greatest =>
      if least = greatest then least * part
      else if least = 0 ∧ greatest = 1 then fork + stateSize + part
      else (if least = 0 then stateSize else least * part) + stateSize +
        (greatest - least) * (part + fork)

/-- The bytes that an automaton may take. -/
def maxSize : Nat := 10485760

/-- The bytes that an automaton takes besides those of its expression: a search that may start
anywhere, the ends of the match, and the state of success. -/
def frameSize (mark : Nat) : Nat := 3 * stateSize + 16 + mark + stateSize

/-- Whether an expression takes no more room than there is. -/
def fits (n : Node) : Bool :=
  let mark := 2 * stateSize
  n.size (charSize roughSize) mark + frameSize mark ≤ maxSize ||
    (n.size (charSize forwardSize) mark + frameSize mark ≤ maxSize &&
      n.size (charSize backwardSize) 0 + frameSize 0 ≤ maxSize)

end Node
end Regex
end Hindsight
