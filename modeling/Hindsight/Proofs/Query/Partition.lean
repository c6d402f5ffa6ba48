import Hindsight.Proofs.Plan.Compile
import Hindsight.Proofs.Query.Agreement
import Hindsight.Proofs.Query.Extremes
import Hindsight.Proofs.Query.Rows

/-!
# The past and the future make up all time

What the past reaches at an instant is what the future leaves before it, whichever of the two takes
the instant itself, so the slices of a timeline for the two are the timeline
(`Timeline.slice_past_append_slice_future`). What a candidate counts with does not depend on the
window, so the values in the two windows are, one behind the other, the values of all candidates
(`WindowedAggregate.windowValues_past_append_future`).

Collecting the values of a window comes to their list and counting them to their number
(`WindowedAggregate.rescanAt_collected`), whether the window is rescanned or slides. Columns of one
function, argument and filter are compiled to aggregates that differ in their windows alone
(`Expr.exists_aggregate_of_overWindow`), hence in every row **the past followed by the future is all
time** (`QueryRun.past_and_future_make_all_time`).
-/

namespace Hindsight

open Time (Instant Window Bounds)

namespace Time.Window

/-- The future starts behind what the past reaches, with or without the instant itself: what is not
past is future, and nothing is both. -/
theorem isBefore_future (at_ s : Instant) (inclusive : Bool) :
    (future.bounds at_ inclusive).isBefore s = (past.bounds at_ inclusive).reaches s := by
  cases inclusive <;> rfl

end Time.Window

namespace Timeline

/-- The slices of bounds that meet, of which one has no lower end and the other no upper end, make
up the timeline. -/
theorem slice_append_slice {b c : Bounds} (lower : b.lower = .unbounded)
    (upper : c.upper = .unbounded) (meet : ∀ s, c.isBefore s = b.reaches s) (t : Timeline) :
    t.slice b ++ t.slice c = t := by
  have start : (t.frame b).start = 0 := by
    have never (s : Instant) : b.isBefore s = false := by rw [Bounds.isBefore, lower]
    cases t <;> simp [frame, leading, never]
  have border : (t.frame b).stop = (t.frame c).start := by
    show max (t.frame b).start _ = _
    rw [start, Nat.zero_max]
    simp only [frame, meet]
  have stop : (t.frame c).stop = t.length := by
    have always : leading (fun x => c.reaches x.event.time) t = t.length := by
      rw [leading_eq_length_takeWhile, List.takeWhile_eq_self_iff.2]
      intro x _
      rw [Bounds.reaches, upper]
    show max (leading _ t) (leading (fun x => c.reaches x.event.time) t) = _
    rw [always, Nat.max_eq_right (leading_le_length _ t)]
  rw [slice, slice, Frame.of, Frame.of, start, border, stop,
    segment_append (Nat.zero_le _) (stop ▸ (t.frame c).start_le_stop), segment, List.take_length,
    List.drop_zero]

/-- **The past and the future of an instant** make up a timeline, one behind the other, whichever of
the two takes the instant itself. -/
theorem slice_past_append_slice_future (t : Timeline) (at_ : Instant) (inclusive : Bool) :
    t.slice (Window.past.bounds at_ inclusive) ++ t.slice (Window.future.bounds at_ inclusive) =
      t :=
  slice_append_slice rfl rfl (fun s => Window.isBefore_future at_ s inclusive) t

/-- **Each event lies on one side** of an instant, also if it is stamped at the instant: it is in
the slice of the past just if it is not in that of the future. -/
theorem mem_slice_past_iff {t : Timeline} (ordered : t.InOrder) (at_ : Instant) (inclusive : Bool)
    {x : StoredEvent} (hx : x ∈ t) :
    x ∈ t.slice (Window.past.bounds at_ inclusive) ↔
      x ∉ t.slice (Window.future.bounds at_ inclusive) := by
  rw [slice_eq_filter ordered, slice_eq_filter ordered, List.mem_filter, List.mem_filter,
    Bounds.contains, Bounds.contains, Window.isBefore_future]
  have never : (Window.past.bounds at_ inclusive).isBefore x.event.time = false := rfl
  have always : (Window.future.bounds at_ inclusive).reaches x.event.time = true := rfl
  simp [hx, never, always]

end Timeline

namespace Aggregate

/-- The input that an event gives at a point, if it is counted. -/
def inputAt? (a : Aggregate) (point : EvalContext) (x : StoredEvent) : Option Input :=
  match a.contribution point x.event with
  | .ok (.counted s) => some ⟨x.event.time, s.value⟩
  | _ => none

end Aggregate

namespace WindowedAggregate

variable {w : WindowedAggregate} {p : SourcedPoint} {v : Value}

/-- **A window that is read to a value** is read to that of all its inputs, by induction on its
events. No filter has failed on one of them, and no value was refused. -/
theorem value_of_read {a : Aggregate} (plain : a.IsPlain) {point : EvalContext} {xs : Timeline}
    {r : WindowReading} {is : List Input} (hr : r.plain = .ofInputs a.function is)
    (h : read a point r xs = .ok (.value v)) :
    v = (Accumulator.ofInputs a.function (is ++ xs.filterMap (a.inputAt? point))).value := by
  induction xs generalizing r is with
  | nil =>
    rw [read, value_of_isPlain plain, hr] at h
    cases h
    rw [List.filterMap_nil, List.append_nil]
  | cons x xs ih =>
    obtain ⟨c, hc, h⟩ := bind_eq_ok_iff.1 h
    cases c with
    | passed =>
      have uncounted : a.inputAt? point x = none := by rw [Aggregate.inputAt?, hc]
      rw [List.filterMap_cons_none uncounted]
      exact ih hr h
    | filterFailed reason => cases h
    | counted s =>
      have counted : a.inputAt? point x = some ⟨x.event.time, s.value⟩ := by
        rw [Aggregate.inputAt?, hc]
      obtain ⟨r', hr', h⟩ := bind_eq_ok_iff.1 h
      rw [add_of_isPlain (plain.share (Aggregate.share_of_contribution hc))] at hr'
      obtain ⟨b, hb, rfl⟩ := map_eq_ok_iff.1 hr'
      have accepted : ¬Accumulator.Refuses r.plain.function s.value := fun refused =>
        not_fails_of_eq_ok hb (Accumulator.fails_add_iff.2 refused)
      have taken := Accumulator.add_of_not_refuses (i := ⟨x.event.time, s.value⟩) accepted
      rw [List.filterMap_cons_some counted, List.append_cons]
      refine ih ?_ h
      rw [Accumulator.ofInputs_concat, ← hr]
      exact Except.ok.inj (hb.symm.trans taken)

/-- The inputs of a window that are not null have the values in the window, in the order of the
events. -/
theorem map_value_inputs (w : WindowedAggregate) (p : SourcedPoint) :
    (Accumulator.counted (((w.frame p.point).of w.candidates).filterMap
      (w.aggregate.inputAt? p.context))).map Input.value = w.windowValues p := by
  rw [Accumulator.counted, List.filter_filterMap, List.map_filterMap, windowValues]
  refine List.filterMap_congr fun x _ => ?_
  rw [Aggregate.inputAt?, valueAt?]
  cases w.aggregate.contribution p.context x.event with
  | error reason => rfl
  | ok c =>
    cases c with
    | counted s => cases h : s.value.isNull <;> simp [h, Option.filter]
    | _ => rfl

/-- What a collecting function makes of the values in a window: their list or their number. -/
def collected (function : AggregateFunction) (vs : List Value) : Value :=
  match function with
  | .values => .list vs
  | _ => .int vs.length

/-- **Collecting at a point** comes to the list or the number of the values in the window, in the
order of time since the events are in it. -/
theorem rescanAt_collected (plain : w.aggregate.IsPlain)
    (collects : w.aggregate.function = .values ∨ w.aggregate.function = .count)
    (h : w.rescanAt p = .ok (.value v)) :
    v = collected w.aggregate.function (w.windowValues p) := by
  have value := value_of_read plain (Accumulator.ofInputs_nil _).symm h
  rw [List.nil_append, Accumulator.ofInputs] at value
  rcases collects with function | function
  · have all (is s : List Input) : is.foldl Accumulator.absorb (.values s) = .values (s ++ is) := by
      induction is generalizing s with
      | nil => rw [List.foldl_nil, List.append_nil]
      | cons i is ih => rw [List.foldl_cons, Accumulator.absorb, ih, List.append_cons s i is]
    rw [value, function, collected, Accumulator.empty, all, ← map_value_inputs]
    rfl
  · rw [value, function, Accumulator.empty, Accumulator.foldl_absorb_count, Int.zero_add,
      ← map_value_inputs]
    show Value.int _ = .int _
    rw [List.length_map]

/-- The aggregate over another window. -/
def overWindow (w : WindowedAggregate) (window : Window) : WindowedAggregate :=
  { w with aggregate := { w.aggregate with window := window } }

/-- **The values of the past and those of the future** are the values of all time: what a candidate
counts with does not depend on the window. -/
theorem windowValues_past_append_future (w : WindowedAggregate) (p : SourcedPoint) :
    (w.overWindow .past).windowValues p ++ (w.overWindow .future).windowValues p =
      (w.overWindow .allTime).windowValues p := by
  have value (window : Window) : (w.overWindow window).valueAt? p = w.valueAt? p := rfl
  have all : ((w.overWindow .allTime).frame p.point).of w.candidates = w.candidates :=
    Timeline.slice_all _
  have meet : ((w.overWindow .past).frame p.point).of w.candidates ++
      ((w.overWindow .future).frame p.point).of w.candidates = w.candidates :=
    Timeline.slice_past_append_slice_future w.candidates p.point.instant w.inclusive
  simp only [windowValues, value]
  show _ = (((w.overWindow .allTime).frame p.point).of w.candidates).filterMap _
  rw [all, ← List.filterMap_append]
  exact congrArg (List.filterMap _) meet

/-- Collecting rescans and counting slides exactly, so both come to what a rescan comes to. This is
all that has to be known of the way in which a window is evaluated. -/
theorem rescan_of_collects {ps : List SourcedPoint} {outs : List Outcome}
    (ordered : w.candidates.InOrder) (group : SourcedPoint.OneGroup ps)
    (collects : w.aggregate.function = .values ∨ w.aggregate.function = .count)
    (h : w.evaluate w.aggregate.strategy ps = .ok outs) : w.rescan ps = .ok outs := by
  rcases collects with function | function
  · have rescans : w.aggregate.strategy = .rescan := by
      rw [Aggregate.strategy, function]
      split <;> rfl
    rw [rescans, evaluate, mapError_eq_ok_iff] at h
    exact h
  · have exact : w.ExactOver ps := fun _ _ _ _ _ _ => by rw [function]; rfl
    rcases evaluate_agrees ordered group exact with ⟨reason, fails⟩ | ⟨outs', found, rescanned⟩
    · cases h.symm.trans fails
    · cases h.symm.trans found
      exact rescanned

end WindowedAggregate

/-- The expression of a function over a window under a filter: `function(x) over w where f`. -/
def Expr.overWindow (function : String) (x : Expr) (f : Option Expr) (w : Window) : Expr :=
  .aggregate function x none w f .all

/-- An expression is a column of some texts. -/
def IsColumn (texts : List String) (i : Nat) (e : Expr) : Prop :=
  ∃ s t, texts[i]? = some s ∧ FeatureText.parse s = .ok t ∧ t.expr = e

section Columns

variable {name : String} {function : AggregateFunction} {x e : Expr} {f : Option Expr}

/-- A function that takes no position is the one of its name, so two columns with one name have one
function. -/
theorem function_of_acceptAggregate {w : Window} {g : AggregateFunction}
    (known : AggregateFunction.ofName? name = some function)
    (h : acceptAggregate name x none w = .ok g) : g = function := by
  obtain ⟨g', found, h⟩ := bind_eq_ok_iff.1 h
  have resolved : g' = function := by
    rw [resolveAggregate, known] at found
    split at found
    · cases found
    · exact (Except.ok.inj found).symm
  dsimp only at h
  split at h
  · exact (Except.ok.inj (eq_ok_of_guard (eq_ok_of_guard h))).symm.trans resolved
  · exact (Except.ok.inj (eq_ok_of_guard h)).symm.trans resolved

/-- **Expressions that differ in their windows** are lowered to aggregates that differ in their
windows alone. -/
theorem Expr.exists_aggregate_of_overWindow (known : AggregateFunction.ofName? name = some function)
    {w₀ : Window} {made₀ : Formula × List Aggregate}
    (h₀ : (overWindow name x f w₀).lower [] = .ok made₀) :
    ∃ (n : Nat) (a : Aggregate), a.IsPlain ∧ a.function = function ∧
      ∀ (w : Window) (g : Formula) (slots : List Aggregate),
        (overWindow name x f w).lower [] = .ok (g, slots) →
          g = .slot n ∧ slots[n]? = some { a with window := w } := by
  have parts {w : Window} {made : Formula × List Aggregate}
      (h : (overWindow name x f w).lower [] = .ok made) :
      ∃ argument filter s s', x.lower [] = .ok (argument, s) ∧ lowerOption s f = .ok (filter, s') ∧
        made = (.slot s'.length, s' ++ [⟨function, argument, w, filter, none, none,
          filter.bind Formula.pinnedTypes⟩]) := by
    rw [overWindow, lower] at h
    obtain ⟨g, accepted, h⟩ := bind_eq_ok_iff.1 h
    obtain ⟨⟨argument, s⟩, hx, h⟩ := bind_eq_ok_iff.1 h
    obtain ⟨⟨filter, s'⟩, hf, h⟩ := bind_eq_ok_iff.1 h
    rw [function_of_acceptAggregate known accepted] at h
    cases h
    exact ⟨argument, filter, s, s', hx, hf, rfl⟩
  obtain ⟨argument, filter, s, s', hx, hf, -⟩ := parts h₀
  refine ⟨s'.length, ⟨function, argument, w₀, filter, none, none,
    filter.bind Formula.pinnedTypes⟩, ⟨rfl, rfl⟩, rfl, fun w g slots h => ?_⟩
  obtain ⟨argument', filter', t, t', hx', hf', made⟩ := parts h
  cases hx.symm.trans hx'
  cases hf.symm.trans hf'
  cases made
  exact ⟨rfl, by simp⟩

/-- The feature of a column is what its expression is lowered to, at the place of its text in the
query. -/
theorem exists_feature_of_isColumn {checkTypes : Bool} {texts : List String} {q : FeatureSet}
    (compiled : FeatureSet.compile checkTypes texts = .ok q) {i : Nat}
    (column : IsColumn texts i e) :
    ∃ g, q.features[i]? = some g ∧ e.lower [] = .ok (g.formula, g.aggregates) := by
  obtain ⟨fs, features, made⟩ := bind_eq_ok_iff.1 compiled
  cases made
  obtain ⟨s, t, text, parsed, rfl⟩ := column
  obtain ⟨g, hg, t', parsed', lowered⟩ :=
    exists_getElem?_of_forall₂ (compileFeatures_each features) text
  cases parsed.symm.trans parsed'
  obtain ⟨⟨formula, slots⟩, here, made⟩ := bind_eq_ok_iff.1 lowered
  cases made
  exact ⟨_, hg, here⟩

end Columns

namespace QueryRun

variable {r : QueryRun} {q : FeatureSet} {ps : List ObservationPoint} {t : FeatureTable}
  {row : FeatureRow}

/-- A feature that is one collecting aggregate shows what a rescan of its window comes to. In this
way a column of a table is tied to the events of the index. -/
theorem exists_rescanAt_of_slot (reachable : r.index.Reachable) (h : r.run q ps = .ok t)
    (hrow : row ∈ t.rows) {i n : Nat} {f : Feature} (hf : q.features[i]? = some f)
    (formula : f.formula = .slot n) {a : Aggregate} (ha : f.aggregates[n]? = some a)
    (collects : a.function = .values ∨ a.function = .count) :
    ∃ v, row.values[i]? = some v ∧
      (r.windowed (.of row.point) a).rescanAt (r.sourced row.point) = .ok (.value v) := by
  obtain ⟨v, outs, place, shown, evaluated, point_at, here⟩ :=
    exists_value_of_slot h hrow hf formula ha
  have ordered := (r.scope.lists_candidates (g := .of row.point) reachable.consistent
    r.options.experiment).inOrder
  have rescanned := WindowedAggregate.rescan_of_collects (w := r.windowed (.of row.point) a)
    ordered (oneGroup_pointsOf r ps _) collects evaluated
  have sourced_at : ((pointsOf ps (.of row.point)).map r.sourced)[place]? =
      some (r.sourced row.point) := by
    rw [List.getElem?_map, point_at]
    rfl
  obtain ⟨o, ho, found⟩ := exists_getElem?_of_forall₂ (mapM_eq_ok_iff.1 rescanned) sourced_at
  cases ho.symm.trans here
  exact ⟨v, shown, found⟩

/-- **Columns over the past, the future and all time** show what a collecting function makes of some
values, of others, and of both one behind the other. -/
theorem exists_collected_of_columns (reachable : r.index.Reachable) {checkTypes : Bool}
    {texts : List String} (compiled : FeatureSet.compile checkTypes texts = .ok q)
    (h : r.run q ps = .ok t) (hrow : row ∈ t.rows) {name : String} {x : Expr} {f : Option Expr}
    {function : AggregateFunction} (known : AggregateFunction.ofName? name = some function)
    (collects : function = .values ∨ function = .count) {i j k : Nat}
    (past : IsColumn texts i (.overWindow name x f .past))
    (future : IsColumn texts j (.overWindow name x f .future))
    (all : IsColumn texts k (.overWindow name x f .allTime)) :
    ∃ vs ws, row.values[i]? = some (WindowedAggregate.collected function vs) ∧
      row.values[j]? = some (WindowedAggregate.collected function ws) ∧
      row.values[k]? = some (WindowedAggregate.collected function (vs ++ ws)) := by
  obtain ⟨g₀, -, lowered₀⟩ := exists_feature_of_isColumn compiled all
  obtain ⟨n, a, plain, rfl, each⟩ := Expr.exists_aggregate_of_overWindow known lowered₀
  let w := r.windowed (.of row.point) a
  have shown {i : Nat} {window : Window} (column : IsColumn texts i (.overWindow name x f window)) :
      row.values[i]? = some (WindowedAggregate.collected a.function
        ((w.overWindow window).windowValues (r.sourced row.point))) := by
    obtain ⟨g, hg, lowered⟩ := exists_feature_of_isColumn compiled column
    obtain ⟨formula, slot⟩ := each window g.formula g.aggregates lowered
    obtain ⟨v, hv, rescanned⟩ :=
      exists_rescanAt_of_slot reachable h hrow hg formula slot collects
    have value := WindowedAggregate.rescanAt_collected (w := w.overWindow window)
      ⟨plain.groupBy, plain.having⟩ collects rescanned
    rw [hv, value]
    rfl
  refine ⟨_, _, shown past, shown future, ?_⟩
  rw [w.windowValues_past_append_future]
  exact shown all

/-- **The past followed by the future is all time.** In every row of a query that succeeds, the
values collected over the past and those collected over the future are, one behind the other, the
values collected over all time, and the counts of the past and of the future add up to that of all
time; each candidate, also one that is stamped at the instant, lies on exactly one side. -/
theorem past_and_future_make_all_time (reachable : r.index.Reachable) {checkTypes : Bool}
    {texts : List String} (compiled : FeatureSet.compile checkTypes texts = .ok q)
    (h : r.run q ps = .ok t) (hrow : row ∈ t.rows) {name : String} {x : Expr} {f : Option Expr}
    {i j k : Nat} (past : IsColumn texts i (.overWindow name x f .past))
    (future : IsColumn texts j (.overWindow name x f .future))
    (all : IsColumn texts k (.overWindow name x f .allTime)) :
    (AggregateFunction.ofName? name = some .values →
      ∃ vs ws, row.values[i]? = some (.list vs) ∧ row.values[j]? = some (.list ws) ∧
        row.values[k]? = some (.list (vs ++ ws))) ∧
    (AggregateFunction.ofName? name = some .count →
      ∃ m n : Nat, row.values[i]? = some (.int m) ∧ row.values[j]? = some (.int n) ∧
        row.values[k]? = some (.int (m + n))) ∧
    let candidates := r.scope.candidates r.index (.of row.point) r.options.experiment
    ∀ e ∈ candidates,
      (e ∈ candidates.slice (Window.past.bounds row.point.instant r.options.inclusive) ↔
        e ∉ candidates.slice (Window.future.bounds row.point.instant r.options.inclusive)) := by
  refine ⟨fun known => ?_, fun known => ?_, fun e he => ?_⟩
  · obtain ⟨vs, ws, before, behind, both⟩ :=
      exists_collected_of_columns reachable compiled h hrow known (.inl rfl) past future all
    exact ⟨vs, ws, before, behind, both⟩
  · obtain ⟨vs, ws, before, behind, both⟩ :=
      exists_collected_of_columns reachable compiled h hrow known (.inr rfl) past future all
    refine ⟨vs.length, ws.length, before, behind, ?_⟩
    rw [← Int.natCast_add, ← List.length_append]
    exact both
  · exact Timeline.mem_slice_past_iff (r.scope.lists_candidates reachable.consistent _).inOrder
      row.point.instant r.options.inclusive he

section Visits

/-- The column of a function over the visits whose value is above three. -/
def aboveThree (raw : String) (function : AggregateFunction) (window : Window) : FeatureText where
  raw
  expr := .overWindow function.name (.attr "value")
    (some (.binary (.attr "value") (.compare .gt) (.literal (.int 3)))) window
  alias? := none

/-- The columns of values and counts over the past, the future and all time. -/
def collectingTexts : List FeatureText :=
  [aboveThree "values(value) over past where value > 3" .values .past,
   aboveThree "values(value) over future where value > 3" .values .future,
   aboveThree "values(value) over all time where value > 3" .values .allTime,
   aboveThree "count(value) over past where value > 3" .count .past,
   aboveThree "count(value) over future where value > 3" .count .future,
   aboveThree "count(value) over all time where value > 3" .count .allTime]

/-- What a column is lowered to, nothing if it cannot be. -/
def loweredOf (t : FeatureText) : Feature :=
  t.lower.toOption.getD ⟨t.raw, t.raw, .wildcard, []⟩

/-- What the columns are compiled to. -/
def collectingQuery : FeatureSet := ⟨collectingTexts.map loweredOf⟩

/-- Visits of a patient, three of them on one day. -/
def tiedVisits : List Event :=
  [(0, 5), (1, 4), (1, 2), (1, 6), (2, 9)].map fun v =>
    { type := "visit"
      time := midnightOf v.1
      entities := ⟨[("patient", "1")]⟩
      id := none
      experiment := none
      attributes := ⟨[("value", .int v.2)]⟩ }

/-- A run over these visits, under which those at the instant belong to the past. -/
def tiedRun : QueryRun where
  index := ((EventIndex.empty true).insertMany tiedVisits).2
  scope := .related []
  options := { inclusive := true }

/-- The values and the counts on the day of the three visits. -/
def tiedRow : FeatureRow where
  point := (patientOn 1).point
  values :=
    [.list [.int 5, .int 4, .int 6], .list [.int 9], .list [.int 5, .int 4, .int 6, .int 9],
     .int 3, .int 1, .int 4]

/-- The columns are read from their texts. -/
theorem parse_collectingTexts : ∀ t ∈ collectingTexts, FeatureText.parse t.raw = .ok t := by
  simp only [collectingTexts, List.forall_mem_cons]
  exact ⟨rfl, rfl, rfl, rfl, rfl, rfl, fun t ht => absurd ht List.not_mem_nil⟩

/-- Each of the columns stands in the query at its place. -/
theorem isColumn_collectingTexts {i : Nat} {t : FeatureText} (ht : collectingTexts[i]? = some t) :
    IsColumn (collectingTexts.map FeatureText.raw) i t.expr := by
  refine ⟨t.raw, t, ?_, parse_collectingTexts t (List.mem_of_getElem? ht), rfl⟩
  rw [List.getElem?_map, ht]
  rfl

/-- The columns compile to the query that is run here. -/
theorem compile_collectingTexts :
    FeatureSet.compile true (collectingTexts.map FeatureText.raw) = .ok collectingQuery := by
  have each : ∀ t ∈ collectingTexts, FeatureText.parse t.raw = .ok t ∧
      t.expr.permit .projection = .ok () ∧ t.lower = .ok (loweredOf t) ∧
        discard ((loweredOf t).infer .empty) = .ok () := by
    intro t ht
    refine ⟨parse_collectingTexts t ht, ?_⟩
    simp only [collectingTexts, List.mem_cons, List.not_mem_nil, or_false] at ht
    rcases ht with rfl | rfl | rfl | rfl | rfl | rfl <;> exact ⟨rfl, rfl, rfl⟩
  have features : compileFeatures true [] (collectingTexts.map FeatureText.raw) =
      .ok collectingQuery.features :=
    compileFeatures_eq_ok (by simp) (by decide)
      (List.forall₂_map_right_iff.2 (List.forall₂_same.2 each))
  rw [FeatureSet.compile, features]
  rfl

/-- The query comes to one row, with the values of the past, those of the future and all of them,
and with the number of each. -/
theorem run_collectingQuery :
    tiedRun.run collectingQuery [tiedRow.point] =
      .ok ⟨collectingQuery.columns, [tiedRow], []⟩ := by
  let columns : List (Feature × List (List Outcome)) :=
    List.zip collectingQuery.features (tiedRow.values.map fun v => [[.value v]])
  have slots : collectingQuery.features.mapM (tiedRun.slots
      (tiedRun.scope.candidates tiedRun.index (.of tiedRow.point) tiedRun.options.experiment)
      [patientOn 1]) = .ok columns := rfl
  have outcomes : PointOutcome.ofColumns [patientOn 1] columns = .ok [.row tiedRow.values] := rfl
  have one : ∀ p ∈ [tiedRow.point], PointGroup.of p = PointGroup.of tiedRow.point := by decide
  exact run_of_inOrder (List.cons_ne_nil _ _) one (List.pairwise_singleton _ _) rfl slots outcomes

/-- Three visits at the instant, of which two count, lie on the side of the past. The one before
them and the one behind them do not change sides. -/
theorem past_and_future_of_visits :
    (tiedRun.index.Reachable ∧
      FeatureSet.compile true (collectingTexts.map FeatureText.raw) = .ok collectingQuery ∧
        tiedRun.run collectingQuery [tiedRow.point] =
          .ok ⟨collectingQuery.columns, [tiedRow], []⟩) ∧
      (∃ vs ws, tiedRow.values[0]? = some (.list vs) ∧ tiedRow.values[1]? = some (.list ws) ∧
        tiedRow.values[2]? = some (.list (vs ++ ws))) ∧
      ∃ m n : Nat, tiedRow.values[3]? = some (.int m) ∧ tiedRow.values[4]? = some (.int n) ∧
        tiedRow.values[5]? = some (.int (m + n)) := by
  have reachable : tiedRun.index.Reachable := (EventIndex.Reachable.empty true).insertMany _
  have shown : tiedRow ∈ [tiedRow] := List.mem_cons_self
  have column {i : Nat} {raw : String} {function : AggregateFunction} {window : Window}
      (h : collectingTexts[i]? = some (aboveThree raw function window)) :=
    isColumn_collectingTexts h
  have values := past_and_future_make_all_time reachable compile_collectingTexts
    run_collectingQuery shown (column (i := 0) rfl) (column (i := 1) rfl) (column (i := 2) rfl)
  have counts := past_and_future_make_all_time reachable compile_collectingTexts
    run_collectingQuery shown (column (i := 3) rfl) (column (i := 4) rfl) (column (i := 5) rfl)
  exact ⟨⟨reachable, compile_collectingTexts, run_collectingQuery⟩, values.1 rfl, counts.2.1 rfl⟩

end Visits

end QueryRun
end Hindsight
