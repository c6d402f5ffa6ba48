import Hindsight.Eval.Formula
import Hindsight.Proofs.Eval.Operation

/-!
# The parts of a formula

A formula has the formulas in it as its parts. Only those without parts of their own read from a
context, and the others go by the values of these: **a formula has one value in contexts in which
each of its leaves has** (`Formula.evaluate_congr`). What a leaf reads is null at worst, and a slot
is the only part that may be missing, so a formula whose slots all have values fails for its
operations only (`Formula.evaluate_meets`).
-/

namespace Hindsight
namespace Formula

mutual

/-- A formula and the formulas in it. -/
def parts : Formula → List Formula
  | list items => list items :: partsOfAll items
  | unary op operand => unary op operand :: parts operand
  | binary left op right => binary left op right :: (parts left ++ parts right)
  | call f args => call f args :: partsOfAll args
  | f => [f]

/-- The formulas and those in them. -/
def partsOfAll : List Formula → List Formula
  | [] => []
  | f :: rest => parts f ++ partsOfAll rest

end

/-- A formula is one of its own parts. -/
theorem mem_parts (f : Formula) : f ∈ f.parts := by
  cases f <;> exact List.mem_cons_self

/-- The parts of several formulas are the parts of each of them, so one may speak of each on its
own. -/
theorem mem_partsOfAll_iff {f : Formula} {fs : List Formula} :
    f ∈ partsOfAll fs ↔ ∃ g ∈ fs, f ∈ g.parts := by
  induction fs with
  | nil => simp [partsOfAll]
  | cons g fs ih => simp [partsOfAll, ih]

/-- Whether a formula has no parts but itself. -/
def isLeaf : Formula → Bool
  | list _ | unary _ _ | binary _ _ _ | call _ _ => false
  | _ => true

variable {c d : EvalContext}

mutual

/-- **A formula has one value in two contexts** in which each of its leaves has. Only leaves look at
the context, so this is proved once and used for every way in which contexts may agree. -/
theorem evaluate_congr :
    ∀ f : Formula, (∀ g ∈ f.parts, g.isLeaf = true → g.evaluate c = g.evaluate d) →
      f.evaluate c = f.evaluate d
  | literal _, h | attr _, h | sourceAttr _, h | field _, h | entity _ _, h | observationTime, h
  | wildcard, h | slot _, h => h _ (mem_parts _) rfl
  | list items, h => by
    rw [evaluate, evaluate, evaluateAll_congr items fun g hg => h g (List.mem_cons_of_mem _ hg)]
  | unary op operand, h => by
    rw [evaluate, evaluate, evaluate_congr operand fun g hg => h g (List.mem_cons_of_mem _ hg)]
  | binary left op right, h => by
    rw [parts, List.forall_mem_cons, List.forall_mem_append] at h
    rw [evaluate, evaluate, evaluate_congr left h.2.1, evaluate_congr right h.2.2]
  | call f args, h => by
    rw [evaluate, evaluate, evaluateAll_congr args fun g hg => h g (List.mem_cons_of_mem _ hg)]

/-- Formulas have the same values in contexts in which each of their leaves has, together with
single ones. -/
theorem evaluateAll_congr :
    ∀ fs : List Formula, (∀ g ∈ partsOfAll fs, g.isLeaf = true → g.evaluate c = g.evaluate d) →
      evaluateAll c fs = evaluateAll d fs
  | [], _ => rfl
  | f :: rest, h => by
    rw [partsOfAll, List.forall_mem_append] at h
    rw [evaluateAll, evaluateAll, evaluate_congr f h.1, evaluateAll_congr rest h.2]

end

mutual

/-- The slots that occur in a formula, from left to right. -/
def slots : Formula → List Nat
  | list items => slotsOfAll items
  | unary _ operand => slots operand
  | binary left _ right => slots left ++ slots right
  | call _ args => slotsOfAll args
  | slot n => [n]
  | _ => []

/-- The slots that occur in formulas, from left to right. -/
def slotsOfAll : List Formula → List Nat
  | [] => []
  | f :: rest => slots f ++ slotsOfAll rest

end

/-- Several formulas refer to no slot just if none of them does. -/
theorem slotsOfAll_eq_nil_iff {fs : List Formula} :
    slotsOfAll fs = [] ↔ ∀ f ∈ fs, f.slots = [] := by
  induction fs with
  | nil => simp [slotsOfAll]
  | cons f fs ih => simp [slotsOfAll, ih]

mutual

/-- **A formula whose slots all have values** fails for its operations only. The one other fault
would be that of a slot that is missing. -/
theorem evaluate_meets (ctx : EvalContext) :
    ∀ f : Formula, (∀ n ∈ f.slots, n < ctx.slots.length) →
      ComesTo (f.evaluate ctx) fun _ => True
  | literal _, _ | attr _, _ | sourceAttr _, _ | field _, _ | entity _ _, _
  | observationTime, _ | wildcard, _ => trivial
  | list items, covered => by
    rw [evaluate]
    exact (evaluateAll_meets ctx items covered).bind fun _ _ => trivial
  | unary op operand, covered => by
    rw [evaluate]
    exact (evaluate_meets ctx operand covered).bind fun v _ =>
      (op.apply_meets v).imp fun _ _ => trivial
  | binary left op right, covered => by
    simp only [slots, List.forall_mem_append] at covered
    rw [evaluate]
    refine (evaluate_meets ctx left covered.1).bind fun l _ => ?_
    cases op.shortCut? l with
    | some v => trivial
    | none =>
      exact (evaluate_meets ctx right covered.2).bind fun r _ =>
        (op.apply_meets l r).imp fun _ _ => trivial
  | call f args, covered => by
    rw [evaluate]
    exact (evaluateAll_meets ctx args covered).bind fun vs _ =>
      (f.apply_meets vs).imp fun _ _ => trivial
  | slot n, covered => by
    rw [evaluate, List.getElem?_eq_getElem (covered n (List.mem_singleton.2 rfl))]
    trivial

/-- Formulas whose slots all have values fail for their operations only, together with single
ones. -/
theorem evaluateAll_meets (ctx : EvalContext) :
    ∀ fs : List Formula, (∀ n ∈ slotsOfAll fs, n < ctx.slots.length) →
      ComesTo (evaluateAll ctx fs) fun _ => True
  | [], _ => trivial
  | f :: rest, covered => by
    simp only [slotsOfAll, List.forall_mem_append] at covered
    rw [evaluateAll]
    exact (evaluate_meets ctx f covered.1).bind fun _ _ =>
      (evaluateAll_meets ctx rest covered.2).bind fun _ _ => trivial

end

end Formula
end Hindsight
