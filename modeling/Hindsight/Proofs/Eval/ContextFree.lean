import Hindsight.Proofs.Eval.Contribution
import Hindsight.Query.Candidates

/-!
# What a formula that is free of context reads

Two points of one group differ in their instants and their source events only. With an event at
hand, a formula that is free of context does not see the difference
(`Formula.evaluate_eq_of_alike`), so an event gives the same to an aggregate at all points of a
group (`Aggregate.contribution_eq_of_group`).
-/

namespace Hindsight

/-- Contexts with the same event at hand, the same slots and the same observed entities. -/
structure EvalContext.Alike (c d : EvalContext) : Prop where
  event : c.event = d.event
  atHand : c.event.isSome = true
  slots : c.slots = d.slots
  observed : ∀ entityType, c.observed? entityType = d.observed? entityType

namespace Formula

open EvalContext (Alike)

variable {c d : EvalContext}

/-- An entity is found alike in contexts that are alike, in the observation as well as in the
event. -/
theorem entity?_eq_of_alike (h : c.Alike d) (scope : EntityScope) (entityType : String) :
    c.entity? scope entityType = d.entity? scope entityType := by
  obtain ⟨e, he⟩ := Option.isSome_iff_exists.1 h.atHand
  cases scope with
  | observation => exact h.observed entityType
  | event => rw [EvalContext.entity?, EvalContext.entity?, ← h.event, he]

mutual

/-- **A formula that is free of context has the same value in contexts that are alike.** By
recursion on formulas: the leaves in which the contexts may differ are excluded. -/
theorem evaluate_eq_of_alike (h : c.Alike d) :
    ∀ f : Formula, f.isContextFree = true → f.evaluate c = f.evaluate d
  | literal _, _ => rfl
  | attr _, _ => by rw [evaluate, evaluate, h.event]
  | sourceAttr _, free => absurd free Bool.false_ne_true
  | field _, _ => by rw [evaluate, evaluate, h.event]
  | entity scope entityType, _ => by rw [evaluate, evaluate, entity?_eq_of_alike h]
  | observationTime, free => absurd free Bool.false_ne_true
  | wildcard, _ => rfl
  | list items, free => by
    rw [isContextFree] at free
    rw [evaluate, evaluate, evaluateAll_eq_of_alike h items free]
  | unary op operand, free => by
    rw [isContextFree] at free
    rw [evaluate, evaluate, evaluate_eq_of_alike h operand free]
  | binary left op right, free => by
    rw [isContextFree, Bool.and_eq_true] at free
    rw [evaluate, evaluate, evaluate_eq_of_alike h left free.1,
      evaluate_eq_of_alike h right free.2]
  | call f args, free => by
    rw [isContextFree] at free
    rw [evaluate, evaluate, evaluateAll_eq_of_alike h args free]
  | slot _, _ => by rw [evaluate, evaluate, h.slots]

/-- Formulas that are free of context have the same values in contexts that are alike, together with
single ones. -/
theorem evaluateAll_eq_of_alike (h : c.Alike d) :
    ∀ fs : List Formula, areContextFree fs = true → evaluateAll c fs = evaluateAll d fs
  | [], _ => rfl
  | f :: rest, free => by
    rw [areContextFree, Bool.and_eq_true] at free
    rw [evaluateAll, evaluateAll, evaluate_eq_of_alike h f free.1,
      evaluateAll_eq_of_alike h rest free.2]

end

end Formula

/-- At two points of a group an event makes contexts that are alike: the entity is the same, and
only instants and source events differ. -/
theorem SourcedPoint.alike_of_group {p q : SourcedPoint}
    (h : PointGroup.of p.point = PointGroup.of q.point) (e : Event) :
    (p.context.withEvent e).Alike (q.context.withEvent e) where
  event := rfl
  atHand := rfl
  slots := rfl
  observed entityType :=
    congrArg (fun g : PointGroup => g.context.get? entityType) h

/-- **An event gives the same to an aggregate that is free of context at all points of a group.** So
it is enough to evaluate it once for the group. -/
theorem Aggregate.contribution_eq_of_group {a : Aggregate} (free : a.isContextFree = true)
    {p q : SourcedPoint} (h : PointGroup.of p.point = PointGroup.of q.point) (e : Event) :
    a.contribution p.context e = a.contribution q.context e := by
  have alike := SourcedPoint.alike_of_group h e
  rw [isContextFree, Bool.and_eq_true, List.all_eq_true] at free
  exact contribution_congr rfl (Formula.evaluate_eq_of_alike alike a.argument free.1)
    fun f hf => Formula.evaluate_eq_of_alike alike f (free.2 f hf)

end Hindsight
