import Hindsight.Proofs.Eval.Contribution
import Hindsight.Proofs.Query.Entries
import Mathlib.Data.List.Forall2

/-!
# What is read of a source event

A formula reads the entities of the event that its observation was taken from, and those of its
attributes that it names (`Formula.sourcePaths`). Two contexts that agree in these give it the same
value (`Formula.evaluate_eq_of_sources`), so points that agree in them give an aggregate the same
outcomes (`WindowedAggregate.evaluate_eq_of_sources`).
-/

namespace Hindsight

/-- An attribute of a source event, null if there is no event or it lacks the attribute. -/
def sourceAttrOf (source : Option Event) (path : String) : Value :=
  (source.map fun e => e.attr path).getD .null

/-- The entities of a source event. -/
def sourceEntity? (source : Option Event) (entityType : String) : Option String :=
  source.bind fun e => e.entities.get? entityType

/-- **Two contexts agree on some attributes of their source events,** and in all else but further
attributes of these events. -/
structure EvalContext.AgreeOn (paths : List String) (c d : EvalContext) : Prop where
  point : c.point = d.point
  event : c.event = d.event
  slots : c.slots = d.slots
  entities : ∀ entityType, sourceEntity? c.source entityType = sourceEntity? d.source entityType
  attributes : ∀ path ∈ paths, sourceAttrOf c.source path = sourceAttrOf d.source path

namespace EvalContext.AgreeOn

variable {c d : EvalContext} {paths paths' : List String}

/-- Contexts agree on fewer attributes as well. A part of a formula reads no more than the whole. -/
theorem mono (h : AgreeOn paths c d) (sub : paths' ⊆ paths) : AgreeOn paths' c d :=
  { h with attributes := fun path hp => h.attributes path (sub hp) }

/-- Contexts that agree still do when both take the same event. The source event is not that
event. -/
theorem withEvent (h : AgreeOn paths c d) (e : Event) :
    AgreeOn paths (c.withEvent e) (d.withEvent e) :=
  { h with event := rfl }

/-- Contexts that agree still do when both take the same values of slots. -/
theorem withSlots (h : AgreeOn paths c d) (vs : List Value) :
    AgreeOn paths (c.withSlots vs) (d.withSlots vs) :=
  { h with slots := rfl }

/-- An entity is found alike in both contexts, since the entities of the source events are the
same. -/
theorem entity?_eq (h : AgreeOn paths c d) (scope : EntityScope) (entityType : String) :
    c.entity? scope entityType = d.entity? scope entityType := by
  have observed : c.observed? entityType = d.observed? entityType := by
    rw [observed?, observed?, h.point]
  cases scope with
  | observation => exact observed
  | event =>
    have source := h.entities entityType
    rw [sourceEntity?, sourceEntity?] at source
    rw [entity?, entity?, h.event, source, observed]

end EvalContext.AgreeOn

namespace Formula

mutual

/-- The attributes of the source event that occur in a formula. -/
def sourcePaths : Formula → List String
  | sourceAttr path => [path]
  | list items => sourcePathsOfAll items
  | unary _ operand => sourcePaths operand
  | binary left _ right => sourcePaths left ++ sourcePaths right
  | call _ args => sourcePathsOfAll args
  | _ => []

/-- The attributes of the source event that occur in any of the formulas. -/
def sourcePathsOfAll : List Formula → List String
  | [] => []
  | f :: rest => sourcePaths f ++ sourcePathsOfAll rest

end

open EvalContext (AgreeOn)

variable {c d : EvalContext}

mutual

/-- **A formula has one value in contexts that agree** on the attributes that it reads of the source
event. -/
theorem evaluate_eq_of_sources :
    ∀ f : Formula, AgreeOn f.sourcePaths c d → f.evaluate c = f.evaluate d
  | literal _, _ | wildcard, _ => rfl
  | attr _, h | field _, h => by rw [evaluate, evaluate, h.event]
  | sourceAttr path, h => congrArg Except.ok (h.attributes path List.mem_cons_self)
  | entity scope entityType, h => by rw [evaluate, evaluate, h.entity?_eq]
  | observationTime, h => by rw [evaluate, evaluate, h.point]
  | list items, h => by
    rw [sourcePaths] at h
    rw [evaluate, evaluate, evaluateAll_eq_of_sources items h]
  | unary op operand, h => by
    rw [sourcePaths] at h
    rw [evaluate, evaluate, evaluate_eq_of_sources operand h]
  | binary left op right, h => by
    rw [sourcePaths] at h
    rw [evaluate, evaluate, evaluate_eq_of_sources left (h.mono (List.subset_append_left ..)),
      evaluate_eq_of_sources right (h.mono (List.subset_append_right ..))]
  | call f args, h => by
    rw [sourcePaths] at h
    rw [evaluate, evaluate, evaluateAll_eq_of_sources args h]
  | slot _, h => by rw [evaluate, evaluate, h.slots]

/-- Formulas have the same values in contexts that agree on the attributes that they read, together
with single ones. -/
theorem evaluateAll_eq_of_sources :
    ∀ fs : List Formula, AgreeOn (sourcePathsOfAll fs) c d → evaluateAll c fs = evaluateAll d fs
  | [], _ => rfl
  | f :: rest, h => by
    rw [sourcePathsOfAll] at h
    rw [evaluateAll, evaluateAll, evaluate_eq_of_sources f (h.mono (List.subset_append_left ..)),
      evaluateAll_eq_of_sources rest (h.mono (List.subset_append_right ..))]

end

end Formula

namespace Aggregate

open EvalContext (AgreeOn)

/-- The attributes of the source event that the argument or a clause reads. -/
def sourcePaths (a : Aggregate) : List String :=
  a.argument.sourcePaths ++ a.clauses.flatMap Formula.sourcePaths

variable {a : Aggregate} {c d : EvalContext}

/-- What a clause reads of the source event the aggregate reads as well, so the aggregate may be
asked instead. -/
theorem sourcePaths_clause {f : Formula} (h : f ∈ a.clauses) : f.sourcePaths ⊆ a.sourcePaths :=
  fun _ hp => List.mem_append_right _ (List.mem_flatMap.2 ⟨f, h, hp⟩)

/-- **An event gives the same** in contexts that agree on the attributes that the aggregate reads of
the source event. -/
theorem contribution_eq_of_sources (h : AgreeOn a.sourcePaths c d) (e : Event) :
    a.contribution c e = a.contribution d e := by
  have here := h.withEvent e
  exact contribution_congr rfl
    (a.argument.evaluate_eq_of_sources (here.mono (List.subset_append_left ..)))
    fun f hf => f.evaluate_eq_of_sources (here.mono (sourcePaths_clause hf))

end Aggregate

/-- Two points are the same and agree on some attributes of their source events. -/
structure SourcedPoint.AgreeOn (paths : List String) (p q : SourcedPoint) : Prop where
  point : p.point = q.point
  entities : ∀ entityType, sourceEntity? p.source entityType = sourceEntity? q.source entityType
  attributes : ∀ path ∈ paths, sourceAttrOf p.source path = sourceAttrOf q.source path

namespace SourcedPoint.AgreeOn

variable {p q : SourcedPoint} {paths paths' : List String}

/-- Points agree on fewer attributes as well. -/
theorem mono (h : AgreeOn paths p q) (sub : paths' ⊆ paths) : AgreeOn paths' p q :=
  { h with attributes := fun path hp => h.attributes path (sub hp) }

/-- Points that agree make contexts that do, since nothing but the source event may differ. -/
theorem context (h : AgreeOn paths p q) : EvalContext.AgreeOn paths p.context q.context where
  point := congrArg some h.point
  event := rfl
  slots := rfl
  entities := h.entities
  attributes := h.attributes

end SourcedPoint.AgreeOn

namespace WindowedAggregate

open SourcedPoint (AgreeOn)

variable {w : WindowedAggregate} {ps qs : List SourcedPoint}

/-- A window is read alike at two points at which every event contributes the same, by induction on
its events. -/
theorem read_congr {a : Aggregate} {c d : EvalContext}
    (h : ∀ e, a.contribution c e = a.contribution d e) (r : WindowReading) (xs : Timeline) :
    read a c r xs = read a d r xs := by
  induction xs generalizing r with
  | nil => rfl
  | cons x xs ih =>
    rw [read, read, h]
    refine bind_congr fun c => ?_
    cases c with
    | passed => exact ih r
    | filterFailed reason => rfl
    | counted s => exact bind_congr fun r' => ih r'

/-- **An aggregate comes to the same** at points that agree on the attributes that it reads of their
source events, by every strategy. -/
theorem evaluate_eq_of_sources (s : Strategy)
    (h : List.Forall₂ (AgreeOn w.aggregate.sourcePaths) ps qs) :
    w.evaluate s ps = w.evaluate s qs := by
  have rescans : w.rescan ps = w.rescan qs := by
    rw [rescan, rescan]
    induction h with
    | nil => rfl
    | @cons p q _ _ here _ ih =>
      have same : w.rescanAt p = w.rescanAt q := by
        rw [rescanAt, rescanAt, here.point]
        exact read_congr (fun e => Aggregate.contribution_eq_of_sources here.context e) _ _
      rw [List.mapM_cons, List.mapM_cons, same, ih]
  have slides (content : Sliding) : w.slide content ps = w.slide content qs := by
    have frames : ps.map (fun p => w.frame p.point) = qs.map fun p => w.frame p.point := by
      rw [← List.forall₂_eq_eq_eq, List.forall₂_map_left_iff, List.forall₂_map_right_iff]
      exact h.imp fun p q hpq => by rw [hpq.point]
    cases h with
    | nil => rfl
    | @cons p q _ _ here _ =>
      have entries : w.entries p = w.entries q :=
        entries_congr fun e => Aggregate.contribution_eq_of_sources here.context e
      rw [slide, slide, frames, entries]
  cases s with
  | rescan => rw [evaluate, evaluate, rescans]
  | incremental => exact slides _
  | deque => exact slides _

end WindowedAggregate
end Hindsight
