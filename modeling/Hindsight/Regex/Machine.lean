import Hindsight.Regex.Basic

/-!
# Matching

A regular expression becomes a list of instructions for a machine with many threads. The threads
are kept in the order of preference: of two ways to match, the one that the expression prefers comes
first. Where two threads reach the same instruction at the same place the later one is dropped,
since whatever it could match the earlier one matches too. A thread at the end of the program is a
match, and only threads before it can replace it.

A repetition that may be left at once is compiled as an option of a repetition of at least one
round, which keeps the order of preference right for parts that match the empty text.
-/

namespace Hindsight
namespace Regex

/-- An instruction. -/
inductive Instruction where
  /-- Go past a character of the set. -/
  | char (s : CharSet) (next : Nat)
  /-- Go on in two places, of which the first is preferred. -/
  | fork (first second : Nat)
  /-- Remember the place under a number. -/
  | mark (slot next : Nat)
  | look (l : Look) (next : Nat)
  | accept
deriving DecidableEq

/-- Instructions, each at its place. -/
abbrev Program := Array Instruction

/-- The program with an instruction more, and the place of that one. -/
def Program.add (p : Program) (i : Instruction) : Program × Nat :=
  let place := p.size
  (p.push i, place)

/-- A fork that prefers going on with the part if it is greedy, and else leaving it. -/
def fork (greedy : Bool) (part leave : Nat) : Instruction :=
  if greedy then .fork part leave else .fork leave part

/-- Instructions put together by `f` as often as `n` says, each time in front of what is there. -/
def unrolled (f : Nat → Program → Program × Nat) : Nat → Nat → Program → Program × Nat
  | 0, next, p => (p, next)
  | n + 1, next, p =>
    let (p, next) := f next p
    unrolled f n next p

/-- Instructions for one or more rounds of what `f` compiles. -/
def looped (f : Nat → Program → Program × Nat) (greedy : Bool) (next : Nat) (p : Program) :
    Program × Nat :=
  let (p, again) := p.add .accept
  let (p, start) := f again p
  (p.setIfInBounds again (fork greedy start next), start)

/-- Instructions for no or one round of what `f` compiles, left for `leave`. -/
def optional (f : Nat → Program → Program × Nat) (greedy : Bool) (leave next : Nat)
    (p : Program) : Program × Nat :=
  let (p, start) := f next p
  p.add (fork greedy start leave)

namespace Node

/-- The program with the instructions of a node, which goes on at `next`, and where they start. -/
def compile : Node → Nat → Program → Program × Nat
  | empty, next, p => (p, next)
  | char s, next, p => p.add (.char s next)
  | look l, next, p => p.add (.look l next)
  | capture index n, next, p =>
    let (p, stop) := p.add (.mark (2 * index + 1) next)
    let (p, start) := n.compile stop p
    p.add (.mark (2 * index) start)
  | sequence a b, next, p =>
    let (p, next) := b.compile next p
    a.compile next p
  | choice a b, next, p =>
    let (p, second) := b.compile next p
    let (p, first) := a.compile next p
    p.add (.fork first second)
  | repetition least greatest greedy n, next, p =>
    match greatest with
    | none =>
      let (p, start) := looped n.compile greedy next p
      if least = 0 then p.add (fork greedy start next)
      else unrolled n.compile (least - 1) start p
    | some greatest =>
      let (p, start) := unrolled (optional n.compile greedy next) (greatest - least) next p
      unrolled n.compile least start p

end Node

/-- Where captures start and end, as numbers of characters from the start of the text. -/
abbrev Marks := List (Option Nat)

/-- A thread at an instruction. -/
structure Thread where
  place : Nat
  marks : Marks

/-- The threads at a place of the text, the last first, and for every instruction the stamp of the
last place of the text at which a thread came to it. -/
structure Threads where
  threads : List Thread
  visited : Array Nat

/-- Follow instructions from `threads` on, the first of them preferred, to those that need a
character, between the characters `before` and `after` at `position` of the text, which has a
`stamp` of its own. `fuel` bounds the number of instructions: no one is followed twice, and none
leads to more than two. -/
def follow (p : Program) (before after : Option Char) (position stamp : Nat) :
    Nat → List Thread → Threads → Threads
  | 0, _, ts => ts
  | _, [], ts => ts
  | fuel + 1, t :: rest, ts =>
    if ts.visited.getD t.place stamp = stamp then follow p before after position stamp fuel rest ts
    else
      let ts := { ts with visited := ts.visited.setIfInBounds t.place stamp }
      match p[t.place]? with
      | none => follow p before after position stamp fuel rest ts
      | some (.char ..) | some .accept =>
        follow p before after position stamp fuel rest { ts with threads := t :: ts.threads }
      | some (.fork a b) =>
        follow p before after position stamp fuel (⟨a, t.marks⟩ :: ⟨b, t.marks⟩ :: rest) ts
      | some (.mark slot next) =>
        let t := ⟨next, t.marks.set slot (some position)⟩
        follow p before after position stamp fuel (t :: rest) ts
      | some (.look l next) =>
        let more := if l.holds before after then ⟨next, t.marks⟩ :: rest else rest
        follow p before after position stamp fuel more ts

/-- A thread followed as far as it needs no character. -/
def Threads.add (ts : Threads) (p : Program) (before after : Option Char) (position stamp : Nat)
    (t : Thread) : Threads :=
  follow p before after position stamp (2 * p.size + 1) [t] ts

/-- The threads behind a character, and the marks of the first thread that is at the end. The
threads behind that one are dropped. -/
def step (p : Program) (c : Char) (after : Option Char) (position stamp : Nat) :
    List Thread → Threads → Threads × Option Marks
  | [], ts => (ts, none)
  | t :: rest, ts =>
    match p[t.place]? with
    | some .accept => (ts, some t.marks)
    | some (.char s next) =>
      if s.contains c then
        step p c after position stamp rest
          (ts.add p (some c) after position stamp ⟨next, t.marks⟩)
      else step p c after position stamp rest ts
    | _ => step p c after position stamp rest ts

/-- The marks of the first thread that is at the end. -/
def accepted (p : Program) (threads : List Thread) : Option Marks :=
  (threads.find? fun t => p[t.place]? == some .accept).map Thread.marks

/-- Run threads over the rest of a text; `found` are the marks of the match so far. While there is
none, a `fresh` thread starts at every place, behind those that started before it. -/
def run (p : Program) (fresh : Thread) :
    Option Char → Nat → Nat → List Char → Threads → Option Marks → Option Marks
  | before, position, stamp, [], ts, found =>
    let ts := if found.isSome then ts else ts.add p before none position stamp fresh
    (accepted p ts.threads.reverse).or found
  | before, position, stamp, c :: rest, ts, found =>
    let ts := if found.isSome then ts else ts.add p before (some c) position stamp fresh
    if ts.threads.isEmpty && found.isSome then found
    else
      let (next, now) := step p c rest.head? (position + 1) (stamp + 1) ts.threads.reverse
        ⟨[], ts.visited⟩
      run p fresh (some c) (position + 1) (stamp + 1) rest next (now.or found)

/-- The marks of the first match in the rest of a text, of which `captures` count. -/
def search (p : Program) (start captures : Nat) (before : Option Char) (position : Nat)
    (rest : List Char) : Option Marks :=
  run p ⟨start, List.replicate (2 * captures) none⟩ before position 1 rest
    ⟨[], Array.replicate p.size 0⟩ none

end Regex
end Hindsight
