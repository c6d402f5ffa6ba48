import Hindsight.Proofs.Eval.Contribution
import Hindsight.Proofs.Eval.Pinned
import Hindsight.Proofs.Plan.Compile
import Hindsight.Proofs.Query.Visits

/-!
# Passing over events for their type

An aggregate carries the event types that its filter pins (`Feature.FromText.pinsByFilter`), and an
event of any other type is passed over without asking the filter. That costs nothing: an event that
the filter would accept gives what it has to give (`Aggregate.contribution_of_accepts`), and at each
event the two differ only where the filter fails (`Aggregate.contribution_unpinned`). So a window
whose reading comes to a value without the pins comes to the same value with them
(`WindowedAggregate.rescanAt_of_unpinned`).
-/

namespace Hindsight

/-- An aggregate pins the event types that its filter pins. -/
def Aggregate.PinsByFilter (a : Aggregate) : Prop :=
  a.eventTypes = a.filter.bind Formula.pinnedTypes

section Lowering

namespace Expr

mutual

/-- **Lowering pins by the filters.** If the aggregates before an expression pin what their filters
pin, then so do those behind it. -/
theorem pinsByFilter_of_lower {before after : List Aggregate}
    (old : ∀ a ∈ before, a.PinsByFilter) :
    ∀ (e : Expr) (f : Formula), e.lower before = .ok (f, after) → ∀ a ∈ after, a.PinsByFilter
  | literal _, _, ok | attr _, _, ok | sourceAttr _, _, ok | field _, _, ok | entity _ _, _, ok
  | observationTime, _, ok | wildcard, _, ok => by
    cases ok
    exact old
  | list items, _, ok => by
    rw [lower] at ok
    obtain ⟨⟨fs, s⟩, okItems, ok⟩ := bind_eq_ok_iff.1 ok
    cases ok
    exact pinsByFilter_of_lowerAll old items fs okItems
  | unary op operand, _, ok => by
    rw [lower] at ok
    obtain ⟨⟨g, s⟩, okOperand, ok⟩ := bind_eq_ok_iff.1 ok
    cases ok
    exact pinsByFilter_of_lower old operand g okOperand
  | binary left op right, _, ok => by
    rw [lower] at ok
    obtain ⟨⟨l, s⟩, okLeft, ok⟩ := bind_eq_ok_iff.1 ok
    obtain ⟨⟨r, t⟩, okRight, ok⟩ := bind_eq_ok_iff.1 ok
    cases ok
    exact pinsByFilter_of_lower (pinsByFilter_of_lower old left l okLeft) right r okRight
  | call name args, _, ok => by
    rw [lower] at ok
    obtain ⟨g, -, ok⟩ := bind_eq_ok_iff.1 ok
    obtain ⟨⟨fs, s⟩, okArgs, ok⟩ := bind_eq_ok_iff.1 ok
    cases ok
    exact pinsByFilter_of_lowerAll old args fs okArgs
  | aggregate name argument parameter window filter selection, _, ok => by
    rw [lower] at ok
    obtain ⟨g, -, ok⟩ := bind_eq_ok_iff.1 ok
    obtain ⟨⟨arg, s⟩, okArgument, ok⟩ := bind_eq_ok_iff.1 ok
    obtain ⟨⟨condition, t⟩, okFilter, ok⟩ := bind_eq_ok_iff.1 ok
    obtain ⟨⟨⟨key, ranking⟩, u⟩, okSelection, ok⟩ := bind_eq_ok_iff.1 ok
    cases ok
    have ofArgument := pinsByFilter_of_lower old argument arg okArgument
    have ofFilter := pinsByFilter_of_lowerOption ofArgument filter condition okFilter
    have ofSelection :=
      pinsByFilter_of_lowerSelection ofFilter selection (key, ranking) okSelection
    exact List.forall_mem_append.2 ⟨ofSelection, List.forall_mem_singleton.2 rfl⟩

/-- Lowering several expressions appends only aggregates whose pins come from their filter. -/
theorem pinsByFilter_of_lowerAll {before after : List Aggregate}
    (old : ∀ a ∈ before, a.PinsByFilter) :
    ∀ (es : List Expr) (fs : List Formula), lowerAll before es = .ok (fs, after) →
      ∀ a ∈ after, a.PinsByFilter
  | [], _, ok => by
    cases ok
    exact old
  | e :: rest, _, ok => by
    rw [lowerAll] at ok
    obtain ⟨⟨f, s⟩, okHead, ok⟩ := bind_eq_ok_iff.1 ok
    obtain ⟨⟨fs, t⟩, okRest, ok⟩ := bind_eq_ok_iff.1 ok
    cases ok
    exact pinsByFilter_of_lowerAll (pinsByFilter_of_lower old e f okHead) rest fs okRest

/-- Lowering a part that may be absent appends only such aggregates. -/
theorem pinsByFilter_of_lowerOption {before after : List Aggregate}
    (old : ∀ a ∈ before, a.PinsByFilter) :
    ∀ (e : Option Expr) (f : Option Formula), lowerOption before e = .ok (f, after) →
      ∀ a ∈ after, a.PinsByFilter
  | none, _, ok => by
    cases ok
    exact old
  | some e, _, ok => by
    rw [lowerOption] at ok
    obtain ⟨⟨f, s⟩, lowered, ok⟩ := bind_eq_ok_iff.1 ok
    cases ok
    exact pinsByFilter_of_lower old e f lowered

/-- Lowering a grouping or a selection appends only such aggregates. -/
theorem pinsByFilter_of_lowerSelection {before after : List Aggregate}
    (old : ∀ a ∈ before, a.PinsByFilter) :
    ∀ (s : Selection) (made : Option Formula × Option Ranking),
      lowerSelection before s = .ok (made, after) → ∀ a ∈ after, a.PinsByFilter
  | .all, _, ok => by
    cases ok
    exact old
  | .groupBy key, _, ok => by
    rw [lowerSelection] at ok
    obtain ⟨⟨f, s⟩, lowered, ok⟩ := bind_eq_ok_iff.1 ok
    cases ok
    exact pinsByFilter_of_lower old key f lowered
  | .having _ rank, _, ok => by
    rw [lowerSelection] at ok
    obtain ⟨⟨f, s⟩, lowered, ok⟩ := bind_eq_ok_iff.1 ok
    cases ok
    exact pinsByFilter_of_lower old rank f lowered

end

end Expr

/-- **The aggregates of a compiled feature** pin what their filters pin, because lowering takes the
pins from the filter and appends nothing else. -/
theorem Feature.FromText.pinsByFilter {f : Feature} (h : f.FromText) :
    ∀ a ∈ f.aggregates, a.PinsByFilter := by
  obtain ⟨-, t, -, -, lowered, -⟩ := Feature.exists_of_fromText h
  obtain ⟨formula, aggregates, walked, rfl⟩ := FeatureText.exists_of_lower lowered
  exact Expr.pinsByFilter_of_lower (List.forall_mem_nil _) t.expr formula walked

end Lowering

namespace Aggregate

variable {a : Aggregate} {point : EvalContext} {e : Event}

/-- The aggregate without its pins, whose filter is asked about every event. -/
def unpinned (a : Aggregate) : Aggregate := { a with eventTypes := none }

/-- **The filter accepts no event of a type that is not pinned.** Where the filter holds, the type
of the event is among those that the filter pins. -/
theorem permitsType_of_accepts (pins : a.PinsByFilter)
    (accepted : a.accepts (point.withEvent e) = .ok true) : a.permitsType e.type = true := by
  rw [PinsByFilter] at pins
  rw [permitsType, pins]
  cases hf : a.filter with
  | none => rfl
  | some f =>
    rw [Option.bind_some]
    cases hp : f.pinnedTypes with
    | none => rfl
    | some pinned =>
      rw [accepts, hf] at accepted
      exact Formula.contains_of_holds rfl hp accepted

/-- **An event that the filter accepts** gives what it has to give, whatever its type: looking at
the type first leaves it in. -/
theorem contribution_of_accepts (pins : a.PinsByFilter)
    (accepted : a.accepts (point.withEvent e) = .ok true) :
    a.contribution point e = (a.share (point.withEvent e)).map .counted :=
  contribution_of_accepted (permitsType_of_accepts pins accepted) accepted

/-- An event gives the same without the pins, or the filter fails on it. The second is why pins can
also keep a point from being dropped. -/
theorem contribution_unpinned (pins : a.PinsByFilter) (point : EvalContext) (e : Event) :
    a.unpinned.contribution point e = a.contribution point e ∨
      ∃ reason, a.unpinned.contribution point e = .ok (.filterFailed reason) := by
  have permitted : a.unpinned.permitsType e.type = true := rfl
  have asked : a.unpinned.accepts (point.withEvent e) = a.accepts (point.withEvent e) := rfl
  cases answer : a.accepts (point.withEvent e) with
  | error reason => exact .inr ⟨reason, contribution_of_failed permitted (asked.trans answer)⟩
  | ok accepted =>
    left
    cases accepted with
    | true =>
      rw [contribution_of_accepts pins answer]
      exact contribution_of_accepted permitted (asked.trans answer)
    | false =>
      rw [contribution_of_refused answer, contribution_of_refused (asked.trans answer)]

end Aggregate

namespace WindowedAggregate

/-- The aggregate without its pins, over the same candidates. -/
def unpinned (w : WindowedAggregate) : WindowedAggregate :=
  { w with aggregate := w.aggregate.unpinned }

/-- What is read to a value without the pins is read to it with them, by induction on the events. No
filter has failed on one of them, so each gives the same. -/
theorem read_of_unpinned {a : Aggregate} (pins : a.PinsByFilter) {point : EvalContext}
    {r : WindowReading} {xs : Timeline} {v : Value}
    (h : read a.unpinned point r xs = .ok (.value v)) : read a point r xs = .ok (.value v) := by
  induction xs generalizing r with
  | nil => exact h
  | cons x xs ih =>
    rw [read] at h ⊢
    rcases a.contribution_unpinned pins point x.event with same | ⟨reason, fails⟩
    · rw [same] at h
      obtain ⟨c, given, h⟩ := bind_eq_ok_iff.1 h
      rw [given, ok_bind]
      cases c with
      | passed => exact ih h
      | filterFailed reason => cases h
      | counted s =>
        obtain ⟨r', added, h⟩ := bind_eq_ok_iff.1 h
        exact bind_eq_ok_iff.2 ⟨r', added, ih h⟩
    · rw [fails] at h
      cases h

/-- **A window whose reading comes to a value** when the filter is asked about every event comes to
the same when events are passed over for their type. -/
theorem rescanAt_of_unpinned {w : WindowedAggregate} (pins : w.aggregate.PinsByFilter)
    {p : SourcedPoint} {v : Value} (h : w.unpinned.rescanAt p = .ok (.value v)) :
    w.rescanAt p = .ok (.value v) :=
  read_of_unpinned pins h

end WindowedAggregate

/-- **Pinned event types are sound.** Where a formula holds, the type of the event is among those
that it pins. So an aggregate that pins by its filter, as those of every compiled feature do, passes
over no event that the filter accepts, and what a window comes to when the filter is asked about
every event it comes to without asking about the others. -/
theorem pinned_types_sound :
    (∀ (f : Formula) (pinned : NameSet), f.pinnedTypes = some pinned →
      ∀ (ctx : EvalContext) (e : Event), ctx.event = some e → f.holds ctx = .ok true →
        pinned.contains e.type = true) ∧
    (∀ f : Feature, f.FromText → ∀ a ∈ f.aggregates, a.PinsByFilter) ∧
    (∀ a : Aggregate, a.PinsByFilter →
      (∀ (point : EvalContext) (e : Event), a.accepts (point.withEvent e) = .ok true →
        a.contribution point e = (a.share (point.withEvent e)).map .counted) ∧
      ∀ w : WindowedAggregate, w.aggregate = a → ∀ (p : SourcedPoint) (v : Value),
        w.unpinned.rescanAt p = .ok (.value v) → w.rescanAt p = .ok (.value v)) := by
  refine ⟨fun f pinned pins ctx e atHand holds => Formula.contains_of_holds atHand pins holds,
    fun f h => h.pinsByFilter, fun a pins =>
      ⟨fun point e accepted => Aggregate.contribution_of_accepts pins accepted, ?_⟩⟩
  rintro w rfl p v value
  exact WindowedAggregate.rescanAt_of_unpinned pins value

section Contacts

/-- A contact with the patient on a day. -/
def contactOn (day : Nat) (type : String) (size : Value) : StoredEvent where
  slot := day
  event :=
    { type
      time := midnightOf day
      entities := ⟨[("patient", "1")]⟩
      id := none
      experiment := none
      attributes := ⟨[("size", size)]⟩ }

/-- The sizes of the calls and visits that were worth answering. -/
def sizesAnsweredText : FeatureText where
  raw := "sum(size) over past where event_type in ('call', 'visit') and size > 2 as all"
  expr := .aggregate "sum" (.attr "size") none .past (some (.binary
    (.binary (.field .type) .isIn (.list [.literal (.text "call"), .literal (.text "visit")]))
    (.connect .and) (.binary (.attr "size") (.compare .gt) (.literal (.int 2))))) .all
  alias? := some "all"

/-- That a contact was worth answering. -/
def worthAnswering : Formula :=
  .binary
    (.binary (.field .type) .isIn (.list [.literal (.text "call"), .literal (.text "visit")]))
    (.connect .and) (.binary (.attr "size") (.compare .gt) (.literal (.int 2)))

/-- The sum of their sizes. -/
def sumAnswered : Aggregate :=
  ⟨.sum, .attr "size", .past, some worthAnswering, none, none, some ⟨["call", "visit"]⟩⟩

/-- What is compiled from the text. -/
def sizesAnswered : Feature where
  name := "all"
  raw := sizesAnsweredText.raw
  formula := .slot 0
  aggregates := [sumAnswered]

/-- The sum over four contacts, a note among them that has no size. -/
def answeredOfPast : WindowedAggregate where
  aggregate := sumAnswered
  candidates :=
    [contactOn 0 "call" (.int 1), contactOn 1 "note" .null, contactOn 2 "visit" (.int 7),
      contactOn 3 "call" (.int 4)]
  inclusive := false

/-- The note is passed over, and the first call is too short. -/
theorem pinned_types_sound_of_contacts :
    let ctx := (patientOn 4).context
    let visit := (contactOn 2 "visit" (.int 7)).event
    (worthAnswering.pinnedTypes = some ⟨["call", "visit"]⟩ ∧
      worthAnswering.holds (ctx.withEvent visit) = .ok true ∧
        (⟨["call", "visit"]⟩ : NameSet).contains visit.type = true) ∧
      (sizesAnswered.FromText ∧ sumAnswered.PinsByFilter) ∧
        (sumAnswered.accepts (ctx.withEvent visit) = .ok true ∧
          sumAnswered.contribution ctx visit =
            (sumAnswered.share (ctx.withEvent visit)).map .counted) ∧
          answeredOfPast.unpinned.rescanAt (patientOn 4) = .ok (.value (.int 11)) ∧
            answeredOfPast.rescanAt (patientOn 4) = .ok (.value (.int 11)) := by
  intro ctx visit
  have pins : worthAnswering.pinnedTypes = some ⟨["call", "visit"]⟩ := by decide
  have holds : worthAnswering.holds (ctx.withEvent visit) = .ok true := rfl
  have compiled : Feature.compile true [] sizesAnsweredText.raw = .ok sizesAnswered :=
    Feature.compile_eq_ok (t := sizesAnsweredText) rfl rfl rfl rfl rfl
  have fromText : sizesAnswered.FromText := ⟨_, _, _, compiled⟩
  have value : answeredOfPast.unpinned.rescanAt (patientOn 4) = .ok (.value (.int 11)) := rfl
  obtain ⟨types, features, aggregates⟩ := pinned_types_sound
  have byFilter := features sizesAnswered fromText sumAnswered List.mem_cons_self
  obtain ⟨contributes, comes_to⟩ := aggregates sumAnswered byFilter
  exact ⟨⟨pins, holds, types _ _ pins _ visit rfl holds⟩, ⟨fromText, byFilter⟩,
    ⟨holds, contributes ctx visit holds⟩, value, comes_to answeredOfPast rfl _ _ value⟩

end Contacts

end Hindsight
