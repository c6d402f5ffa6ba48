import Hindsight.Proofs.Eval.Sources
import Hindsight.Proofs.Query.Candidates
import Hindsight.Proofs.Query.Pointwise
import Hindsight.Proofs.Query.Visits
import Hindsight.Proofs.Store.Redaction

/-!
# What hidden events can show

Over indexes that a query sees alike, the candidates of every group are the same
(`EventScope.candidates_eq_of_seenAlike`) and so are the points of every sampling
(`Sampling.points_eq_of_seenAlike`). The event of a point, however, is found by its id whether the
query sees it or not. Its entities are the same in both indexes, its attributes need not be, so a
query comes to the same if the attributes that it reads of these events are the same
(`QueryRun.run_eq_of_sources`), and reading one such attribute tells two indexes apart where it
differs (`QueryRun.run_ofSourceAttr`).
-/

namespace Hindsight

variable {experiment : Option String} {x y : EventIndex}

namespace EventScope

/-- The events that a group looks at are the same in both indexes, up to attributes that the query
does not see. -/
theorem redacted_events (h : x.SeenAlike experiment y) (s : EventScope) (g : PointGroup) :
    (s.events x g).redacted experiment = (s.events y g).redacted experiment := by
  cases s with
  | allEvents => exact h.timeline
  | related types =>
    rw [events, events, Timeline.redacted_foldl_union, Timeline.redacted_foldl_union]
    simp only [EventIndex.entityEvents_eq, h.entity]

/-- **The candidates of a group** are the same in indexes that are seen alike. They are visible, and
of visible events nothing was struck out. -/
theorem candidates_eq_of_seenAlike (h : x.SeenAlike experiment y) (s : EventScope)
    (g : PointGroup) : s.candidates x g experiment = s.candidates y g experiment :=
  Timeline.filter_eq_of_redacted (redacted_events h s g)

/-- Whether a scope names an unknown type of entity is told by the catalogue, which is the same in
both. -/
theorem unknownType?_eq_of_seenAlike (h : x.SeenAlike experiment y) (s : EventScope) :
    s.unknownType? x = s.unknownType? y := by
  cases s with
  | allEvents => rfl
  | related types =>
    rw [unknownType?, unknownType?]
    simp only [EventIndex.knowsEntityType, h.catalogue]

end EventScope

namespace IndexView

variable (h : x.SeenAlike experiment y)
include h

/-- The visible events are the same in both indexes, in the same order. -/
theorem timeline_eq_of_seenAlike : timeline ⟨x, experiment⟩ = timeline ⟨y, experiment⟩ :=
  congrArg (List.map StoredEvent.event) (Timeline.filter_eq_of_redacted h.timeline)

/-- The visible events of an entity are the same in both indexes, in the same order. -/
theorem entityEvents_eq_of_seenAlike (type id : String) :
    entityEvents ⟨x, experiment⟩ type id = entityEvents ⟨y, experiment⟩ type id := by
  rw [entityEvents, entityEvents, x.entityEvents_eq, y.entityEvents_eq]
  exact congrArg (List.map StoredEvent.event) (Timeline.filter_eq_of_redacted (h.entity type id))

/-- A date is given the same point in both indexes, because a visible event with its id is the same
event. -/
theorem dated_eq_of_seenAlike (entityType entityId : String) (d : EventDate) :
    dated ⟨x, experiment⟩ entityType entityId d = dated ⟨y, experiment⟩ entityType entityId d := by
  have found : find? ⟨x, experiment⟩ = find? ⟨y, experiment⟩ := funext h.filter_find?
  rw [dated, dated, found]

end IndexView

namespace Sampling

/-- **The points that a sampling comes to first are the same in both indexes**, by the cases of
sampling: each reads the catalogue, visible events, or an event by its id if it is visible. -/
theorem candidates_eq_of_seenAlike (h : x.SeenAlike experiment y) (s : Sampling) :
    s.candidates ⟨x, experiment⟩ = s.candidates ⟨y, experiment⟩ := by
  have ids (type : String) : x.entityIds type = y.entityIds type := by
    rw [EventIndex.entityIds, EventIndex.entityIds, h.catalogue]
  have timeline := IndexView.timeline_eq_of_seenAlike h
  have dated (type id : String) :
      IndexView.dated ⟨x, experiment⟩ type id = IndexView.dated ⟨y, experiment⟩ type id :=
    funext fun d => IndexView.dated_eq_of_seenAlike h type id d
  cases s with
  | even steps =>
    have ofEntity (step : Option { ms : Int // 0 < ms }) (type id : String) :
        EvenSteps.ofEntity ⟨x, experiment⟩ step type id =
          EvenSteps.ofEntity ⟨y, experiment⟩ step type id := by
      rw [EvenSteps.ofEntity, EvenSteps.ofEntity, IndexView.entityEvents_eq_of_seenAlike h]
    simp only [candidates, EvenSteps.sample, ids, ofEntity]
  | fixed dates => simp only [candidates, FixedDates.sample, ids]
  | listed entities => simp only [candidates, EntityDates.sample, dated]
  | allEvents | allEventsOf types => simp only [candidates, timeline]
  | matching events => simp only [candidates, MatchingEvents.sample, timeline, h.schema]
  | withScopes dates => simp only [candidates, ScopedDates.sample, dated]

/-- **The points of a sampling** are the same in indexes that are seen alike, as they are put in
order and made different after they were found. -/
theorem points_eq_of_seenAlike (h : x.SeenAlike experiment y) (s : Sampling) :
    s.points ⟨x, experiment⟩ = s.points ⟨y, experiment⟩ := by
  have known (type : String) : x.knowsEntityType type = y.knowsEntityType type := by
    rw [EventIndex.knowsEntityType, EventIndex.knowsEntityType, h.catalogue]
  have checked : s.check x = s.check y := by
    unfold check
    simp only [known]
  simp only [points, checked, candidates_eq_of_seenAlike h]

end Sampling

/-- The attributes of the event of a point that a feature reads. -/
def Feature.sourcePaths (f : Feature) : List String :=
  f.formula.sourcePaths ++ f.aggregates.flatMap Aggregate.sourcePaths

/-- The attributes of the event of a point that the features read. -/
def FeatureSet.sourcePaths (q : FeatureSet) : List String := q.features.flatMap Feature.sourcePaths

/-- The feature that is an attribute of the event of a point. -/
def FeatureSet.ofSourceAttr (path : String) : FeatureSet where
  features :=
    [{ name := "@" ++ path, raw := "@" ++ path, formula := .sourceAttr path, aggregates := [] }]

section Points

open SourcedPoint (AgreeOn)

variable {paths : List String}

/-- What a point comes to, if it agrees with another on what the formulas read. Slots are the same
on both sides, so only the source event could make a difference. -/
theorem PointOutcome.ofSlots_eq_of_sources {p q : SourcedPoint} (h : AgreeOn paths p q)
    {columns : List (Feature × List Outcome)}
    (reads : ∀ c ∈ columns, c.1.formula.sourcePaths ⊆ paths) :
    ofSlots p.context columns = ofSlots q.context columns := by
  induction columns with
  | nil => rfl
  | cons c columns ih =>
    obtain ⟨f, slots⟩ := c
    obtain ⟨here, rest⟩ := List.forall_mem_cons.1 reads
    rw [ofSlots, ofSlots, ih rest]
    cases Outcome.values slots with
    | error reason => rfl
    | ok vs =>
      dsimp only
      rw [f.formula.evaluate_eq_of_sources ((h.mono here).context.withSlots vs)]

/-- **Columns come to the same at points whose source events agree on the attributes that are
read**, by induction along the points. -/
theorem PointOutcome.ofColumns_eq_of_sources {ps qs : List SourcedPoint}
    (h : List.Forall₂ (AgreeOn paths) ps qs) {columns : List (Feature × List (List Outcome))}
    (reads : ∀ c ∈ columns, c.1.formula.sourcePaths ⊆ paths) :
    ofColumns ps columns = ofColumns qs columns := by
  induction h generalizing columns with
  | nil => rfl
  | @cons p q _ _ here _ ih =>
    have heads : ∀ c ∈ columns.map fun c => (c.1, c.2.filterMap List.head?),
        c.1.formula.sourcePaths ⊆ paths := List.forall_mem_map.2 reads
    have tails : ∀ c ∈ columns.map fun c => (c.1, c.2.map List.tail),
        c.1.formula.sourcePaths ⊆ paths := List.forall_mem_map.2 reads
    rw [ofColumns, ofColumns, ofSlots_eq_of_sources here heads, ih tails]

end Points

namespace QueryRun

variable {scope : EventScope} {options : QueryOptions} {q : FeatureSet}
  {ps : List ObservationPoint}

/-- The event of a point has the same entities in indexes that are seen alike, visible or not, for
only attributes are struck out. -/
theorem sourceEntity?_eq_of_seenAlike (h : x.SeenAlike options.experiment y)
    (p : ObservationPoint) (entityType : String) :
    sourceEntity? (sourced ⟨x, scope, options⟩ p).source entityType =
      sourceEntity? (sourced ⟨y, scope, options⟩ p).source entityType := by
  rw [sourced, sourced]
  cases p.eventId with
  | none => rfl
  | some id =>
    have same := congrArg (fun es => es.bind fun e : Entities => e.get? entityType)
      (h.find?_entities id)
    simpa [sourceEntity?, Option.bind_map, Function.comp_def] using same

/-- A visible event of a point has the same attributes in indexes that are seen alike, as it is the
same event. -/
theorem sourceAttrOf_eq_of_visible (h : x.SeenAlike options.experiment y) {p : ObservationPoint}
    (visible : ∀ e ∈ (sourced ⟨x, scope, options⟩ p).source,
      e.visibleIn options.experiment = true) (path : String) :
    sourceAttrOf (sourced ⟨x, scope, options⟩ p).source path =
      sourceAttrOf (sourced ⟨y, scope, options⟩ p).source path := by
  rw [sourced] at visible
  rw [sourced, sourced]
  cases named : p.eventId with
  | none => rfl
  | some id =>
    rw [named] at visible
    have same := h.find? id
    generalize found : x.find? id = o at same
    generalize found' : y.find? id = o' at same
    rw [Option.bind_some, Option.bind_some, found, found']
    cases o with
    | none =>
      cases o' with
      | none => rfl
      | some e' => cases same
    | some e =>
      cases o' with
      | none => cases same
      | some e' => rw [Event.eq_of_redacted (Option.some.inj same) (visible e found)]

/-- A query is refused over both indexes or over neither. -/
theorem check_eq_of_seenAlike (h : x.SeenAlike options.experiment y) (q : FeatureSet) :
    check ⟨x, scope, options⟩ q = check ⟨y, scope, options⟩ q := by
  simp only [check, EventScope.unknownType?_eq_of_seenAlike h, h.schema]

/-- A group comes to the same over indexes that are seen alike, if its points agree on what the
features read of their events. -/
theorem runGroup_eq_of_sources (h : x.SeenAlike options.experiment y)
    (agree : ∀ p ∈ ps, (sourced ⟨x, scope, options⟩ p).AgreeOn q.sourcePaths
      (sourced ⟨y, scope, options⟩ p)) {g : PointGroup} {l : List PlacedPoint}
    (member : (g, l) ∈ pointGroups (placed ps)) :
    runGroup ⟨x, scope, options⟩ q (g, l) = runGroup ⟨y, scope, options⟩ q (g, l) := by
  have points : List.Forall₂ (SourcedPoint.AgreeOn q.sourcePaths)
      ((pointsOf ps g).map (sourced ⟨x, scope, options⟩))
      ((pointsOf ps g).map (sourced ⟨y, scope, options⟩)) := by
    rw [List.forall₂_map_left_iff, List.forall₂_map_right_iff, List.forall₂_same]
    exact fun p hp => agree p (mem_pointsOf.1 hp).1
  have columns : ∀ f ∈ q.features,
      slots ⟨x, scope, options⟩ (scope.candidates x g options.experiment)
          ((pointsOf ps g).map (sourced ⟨x, scope, options⟩)) f =
        slots ⟨y, scope, options⟩ (scope.candidates y g options.experiment)
          ((pointsOf ps g).map (sourced ⟨y, scope, options⟩)) f := by
    intro f hf
    have each : ∀ a ∈ f.aggregates,
        (windowed ⟨x, scope, options⟩ g a).evaluate a.strategy
            ((pointsOf ps g).map (sourced ⟨x, scope, options⟩)) =
          (windowed ⟨y, scope, options⟩ g a).evaluate a.strategy
            ((pointsOf ps g).map (sourced ⟨y, scope, options⟩)) := by
      intro a ha
      have reads : a.sourcePaths ⊆ q.sourcePaths := fun path hp =>
        List.mem_flatMap.2 ⟨f, hf, List.mem_append_right _ (List.mem_flatMap.2 ⟨a, ha, hp⟩)⟩
      rw [windowed, windowed, EventScope.candidates_eq_of_seenAlike h]
      exact WindowedAggregate.evaluate_eq_of_sources _ (points.imp fun _ _ same => same.mono reads)
    rw [slots_eq, slots_eq, mapM_congr each]
  rw [runGroup_eq member, runGroup_eq member, mapM_congr columns]
  cases found : q.features.mapM (slots ⟨y, scope, options⟩
      (scope.candidates y g options.experiment)
      ((pointsOf ps g).map (sourced ⟨y, scope, options⟩))) with
  | error fault => rfl
  | ok columns =>
    have reads : ∀ c ∈ columns, c.1.formula.sourcePaths ⊆ q.sourcePaths := by
      intro c hc
      obtain ⟨f, hf, slotted⟩ := exists_mem_of_forall₂ (mapM_eq_ok_iff.1 found).flip hc
      obtain ⟨_, -, made⟩ := bind_eq_ok_iff.1 slotted
      cases made
      exact fun path hp => List.mem_flatMap.2 ⟨f, hf, List.mem_append_left _ hp⟩
    rw [ok_bind, ok_bind, PointOutcome.ofColumns_eq_of_sources points reads]

/-- **A query comes to the same over indexes that are seen alike,** if its points agree on the
attributes that it reads of their events. -/
theorem run_eq_of_sources (h : x.SeenAlike options.experiment y)
    (agree : ∀ p ∈ ps, ∀ path ∈ q.sourcePaths,
      sourceAttrOf (sourced ⟨x, scope, options⟩ p).source path =
        sourceAttrOf (sourced ⟨y, scope, options⟩ p).source path) :
    run ⟨x, scope, options⟩ q ps = run ⟨y, scope, options⟩ q ps := by
  have points : ∀ p ∈ ps, (sourced ⟨x, scope, options⟩ p).AgreeOn q.sourcePaths
      (sourced ⟨y, scope, options⟩ p) := fun p hp =>
    ⟨rfl, sourceEntity?_eq_of_seenAlike h p, agree p hp⟩
  have groups : ∀ g ∈ pointGroups (placed ps),
      runGroup ⟨x, scope, options⟩ q g = runGroup ⟨y, scope, options⟩ q g := fun _ hg =>
    runGroup_eq_of_sources h points hg
  rw [run, run, outcomes, outcomes, check_eq_of_seenAlike h, mapM_congr groups]

/-- The feature that is an attribute of the event of a point comes to the attribute. So for each
attribute there is a query that shows it. -/
theorem run_ofSourceAttr {r : QueryRun} (known : r.scope.unknownType? r.index = none)
    (path : String) (ps : List ObservationPoint) :
    r.run (.ofSourceAttr path) ps = .ok (.tabulate ["@" ++ path]
      (fun p => .row [sourceAttrOf (r.sourced p).source path]) ps) := by
  have bare : ∀ f ∈ (FeatureSet.ofSourceAttr path).features, f.aggregates = [] := by
    intro f hf
    obtain rfl := List.mem_singleton.1 hf
    rfl
  have checked : r.check (.ofSourceAttr path) = .ok () := by
    rw [check, known]
    rfl
  rw [run_of_bare bare fun _ _ => rfl, checked]
  rfl

/-- A query follows its sampling to the points of it, and is then a query at these points. -/
theorem runSampling_of_points {r : QueryRun} {s : Sampling}
    (h : s.points ⟨r.index, r.options.experiment⟩ = .ok ps) (q : FeatureSet) :
    r.runSampling q s = r.run q ps := by
  rw [runSampling, h]
  rfl

/-- If a query for an attribute of the events of its points comes to the same, so does the
attribute. -/
theorem sourceAttrOf_eq_of_run {r r' : QueryRun} (known : r.scope.unknownType? r.index = none)
    (known' : r'.scope.unknownType? r'.index = none) {path : String}
    (same : r.run (.ofSourceAttr path) ps = r'.run (.ofSourceAttr path) ps) :
    ∀ p ∈ ps, sourceAttrOf (r.sourced p).source path = sourceAttrOf (r'.sourced p).source path := by
  rw [run_ofSourceAttr known, run_ofSourceAttr known'] at same
  have rows := congrArg FeatureTable.rows (Except.ok.inj same)
  simp only [FeatureTable.tabulate, List.filterMap_eq_map'] at rows
  intro p hp
  have row := List.map_inj_left.1 rows p hp
  simpa using row

/-- **A hidden event shows only where a point is taken from it.** Of two histories that differ in
the attributes of hidden events, by values of the same shapes, a query has the same points. It comes
to the same if the attributes that it reads of the events of its points are the same, in particular
if these events are visible; and every query does so just if all those attributes are the same. -/
theorem hidden_shows_at_own_points {calls calls' : List EventIndex.Call}
    (alike : List.Forall₂ (EventIndex.Call.SeenAlike options.experiment) calls calls')
    (validates : Bool) (scope : EventScope) (s : Sampling) :
    let x := (EventIndex.empty validates).after calls
    let y := (EventIndex.empty validates).after calls'
    let r : QueryRun := ⟨x, scope, options⟩
    let r' : QueryRun := ⟨y, scope, options⟩
    let Same (p : ObservationPoint) (path : String) : Prop :=
      sourceAttrOf (r.sourced p).source path = sourceAttrOf (r'.sourced p).source path
    s.points ⟨x, options.experiment⟩ = s.points ⟨y, options.experiment⟩ ∧
    ∀ ps, s.points ⟨x, options.experiment⟩ = .ok ps →
      (∀ q, (∀ p ∈ ps, ∀ path ∈ q.sourcePaths, Same p path) →
        r.runSampling q s = r'.runSampling q s) ∧
      ((∀ p ∈ ps, ∀ e ∈ (r.sourced p).source, e.visibleIn options.experiment = true) →
        ∀ texts, r.query texts s = r'.query texts s) ∧
      (scope.unknownType? x = none →
        ((∀ q, r.runSampling q s = r'.runSampling q s) ↔ ∀ p ∈ ps, ∀ path, Same p path)) := by
  intro x y r r' Same
  have seen : x.SeenAlike options.experiment y := EventIndex.seenAlike_after alike (.refl _)
  have points := Sampling.points_eq_of_seenAlike seen s
  refine ⟨points, fun ps sampled => ?_⟩
  have sampled' : s.points ⟨y, options.experiment⟩ = .ok ps := points ▸ sampled
  have agree (q : FeatureSet) (h : ∀ p ∈ ps, ∀ path ∈ q.sourcePaths, Same p path) :
      r.runSampling q s = r'.runSampling q s := by
    rw [runSampling_of_points (r := r) sampled, runSampling_of_points (r := r') sampled']
    exact run_eq_of_sources seen h
  refine ⟨agree, fun visible texts => ?_, fun known => ⟨fun all p hp path => ?_, ?_⟩⟩
  · rw [query, query]
    exact bind_congr fun q => agree q fun p hp path _ =>
      sourceAttrOf_eq_of_visible seen (visible p hp) path
  · have known' : scope.unknownType? y = none := by
      rw [← EventScope.unknownType?_eq_of_seenAlike seen, known]
    have same := all (.ofSourceAttr path)
    rw [runSampling_of_points (r := r) sampled, runSampling_of_points (r := r') sampled'] at same
    exact sourceAttrOf_eq_of_run known known' same p hp
  · exact fun same q => agree q fun p hp path _ => same p hp path

/-- A visit that belongs to a trial. -/
def trialVisit (value : Int) : Event where
  type := "visit"
  time := midnightOf 0
  entities := ⟨[("patient", "1")]⟩
  id := some "v"
  experiment := some "trial"
  attributes := ⟨[("value", .int value)]⟩

/-- A date for the patient that names the visit of the trial. -/
def dateOfTrialVisit : Sampling := .listed [⟨"patient", "1", [⟨midnightOf 1, some "v"⟩]⟩]

/-- Two visits of one trial that differ in a value only are seen alike by a query outside of the
trial. -/
theorem trialVisit_seenAlike (m n : Int) : (trialVisit m).SeenAlike none (trialVisit n) where
  redacted := rfl
  attributes := .cons ⟨rfl, rfl, rfl⟩ .nil

/-- An index that holds one visit of a trial, for queries that see no trial. -/
def trialRun (value : Int) : QueryRun :=
  ⟨(EventIndex.empty true).after [.insert (trialVisit value)], .allEvents, {}⟩

/-- The point of a date that names the visit of the trial. -/
def pointOfTrialVisit : ObservationPoint :=
  (ObservationPoint.create "patient" "1" (midnightOf 1)).withEventId "v"

/-- Where a point is taken from the visit of a trial, a query that does not read it sees no
difference, but not every query does so. -/
theorem trial_shows_at_its_date :
    List.Forall₂ (EventIndex.Call.SeenAlike none) [.insert (trialVisit 1)]
      [.insert (trialVisit 2)] ∧
    dateOfTrialVisit.points ⟨(trialRun 1).index, none⟩ = .ok [pointOfTrialVisit] ∧
    (trialRun 1).runSampling sumOfPast dateOfTrialVisit =
      (trialRun 2).runSampling sumOfPast dateOfTrialVisit ∧
    ¬∀ q, (trialRun 1).runSampling q dateOfTrialVisit =
      (trialRun 2).runSampling q dateOfTrialVisit := by
  have alike : List.Forall₂ (EventIndex.Call.SeenAlike none) [.insert (trialVisit 1)]
      [.insert (trialVisit 2)] := .cons (.insert (trialVisit_seenAlike 1 2)) .nil
  have sampled : dateOfTrialVisit.points ⟨(trialRun 1).index, none⟩ =
      .ok [pointOfTrialVisit] := rfl
  obtain ⟨-, both⟩ := @hidden_shows_at_own_points {} _ _ alike true .allEvents dateOfTrialVisit
  obtain ⟨agree, -, exactly⟩ := both _ sampled
  have nothing_read : sumOfPast.sourcePaths = [] := rfl
  refine ⟨alike, sampled, agree sumOfPast ?_, fun all => ?_⟩
  · rw [nothing_read]
    exact fun _ _ _ none => absurd none List.not_mem_nil
  · have values := (exactly rfl).1 all pointOfTrialVisit List.mem_cons_self "value"
    have differ : Value.int 1 = Value.int 2 := values
    cases differ

/-- **A query that sees no trial** reads the value of a visit of one, if a date names the visit. Two
histories that differ in this value alone give two tables. -/
theorem query_reads_hidden_visit :
    (trialVisit 1).visibleIn none = false ∧
    List.Forall₂ (EventIndex.Call.SeenAlike none) [.insert (trialVisit 1)]
      [.insert (trialVisit 2)] ∧
    (trialRun 1).query ["@value"] dateOfTrialVisit =
      .ok ⟨["@value"], [⟨pointOfTrialVisit, [.int 1]⟩], []⟩ ∧
    (trialRun 2).query ["@value"] dateOfTrialVisit =
      .ok ⟨["@value"], [⟨pointOfTrialVisit, [.int 2]⟩], []⟩ := by
  have reads (value : Int) : (trialRun value).query ["@value"] dateOfTrialVisit =
      .ok ⟨["@value"], [⟨pointOfTrialVisit, [.int value]⟩], []⟩ := by
    have compiled : FeatureSet.compile true ["@value"] = .ok (.ofSourceAttr "value") := rfl
    have sampled : dateOfTrialVisit.points
        ⟨(trialRun value).index, (trialRun value).options.experiment⟩ =
        .ok [pointOfTrialVisit] := rfl
    have ran := run_ofSourceAttr (r := trialRun value) rfl "value" [pointOfTrialVisit]
    rw [query, compiled]
    exact (runSampling_of_points sampled _).trans ran
  exact ⟨rfl, .cons (.insert (trialVisit_seenAlike 1 2)) .nil, reads 1, reads 2⟩

end QueryRun
end Hindsight
