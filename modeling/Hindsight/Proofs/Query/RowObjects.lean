import Hindsight.Proofs.Json.Path
import Hindsight.Proofs.Plan.Compile
import Hindsight.Proofs.Query.Hidden
import Hindsight.Proofs.Query.Rows

/-!
# Rows as objects

The object of a row is written in sequence: first the members that tell the point, then the columns,
each under its name. A row has a value for every column (`QueryRun.length_values_of_row`) and the
columns of a query have different names, so the object has the value of every column under its name
(`FeatureTable.get?_members_of_column`), and under any other name what tells the point
(`FeatureTable.get?_members_of_not_mem`). It tells the point as well if the columns that bear the
name of one of those members happen to hold the same (`FeatureTable.tells_iff`).

Only a feature that is given such a name holds something else. A feature named by its text can bear
only the name of the instant, and then it is the instant
(`Feature.FromText.observationTime_of_raw`).
-/

namespace Hindsight
namespace FeatureTable

/-- The members that tell a point. -/
def pointMembers (p : ObservationPoint) : List (String × Json) :=
  [("entity_type", .string p.entityType), ("entity_id", .string p.entityId),
   ("obs_dt", (Value.instant p.instant).toJson)]

/-- The names of the members that tell a point. -/
def pointNames : List String := ["entity_type", "entity_id", "obs_dt"]

/-- **An object tells a row:** it has the members of the point, and the value of every column under
the name of the column. -/
structure Tells (columns : List String) (row : FeatureRow) (j : Json) : Prop where
  point : ∀ m ∈ pointMembers row.point, j.get? m.1 = some m.2
  values : ∀ (n : Nat) column, columns[n]? = some column →
    ∃ v : Value, row.values[n]? = some v ∧ j.get? column = some v.toJson

/-- The members that each point has of its own stand under fixed names. -/
theorem map_fst_pointMembers (p : ObservationPoint) :
    (pointMembers p).map Prod.fst = pointNames := rfl

/-- Each of these members is found under its name, as the names are different. -/
theorem get?_pointMembers {p : ObservationPoint} {m : String × Json} (h : m ∈ pointMembers p) :
    (Json.object (pointMembers p)).get? m.1 = some m.2 :=
  Json.get?_eq_some_of_mem (by rw [map_fst_pointMembers]; decide) h

variable {columns : List String} {row : FeatureRow} {column name : String} {n : Nat} {v : Value}

/-- What the object of a row has under a name is what a column has, or else what tells the point.
The columns are written after the members of the point, so they win. -/
theorem get?_members (columns : List String) (row : FeatureRow) (name : String) :
    (Json.object (members columns row).entries).get? name =
      ((Json.object (columns.zip (row.values.map Value.toJson))).get? name).or
        ((Json.object (pointMembers row.point)).get? name) :=
  (Json.get?_ofList _ name).trans (Json.get?_append _ _ name)

/-- **The object of a row** has the value of a column under its name, if no other column has the
same name. -/
theorem get?_members_of_column (nodup : columns.Nodup) (length : columns.length = row.values.length)
    (named : columns[n]? = some column) (value : row.values[n]? = some v) :
    (Json.object (members columns row).entries).get? column = some v.toJson := by
  have names : (columns.zip (row.values.map Value.toJson)).map Prod.fst = columns :=
    List.map_fst_zip (by rw [List.length_map, length])
  have member : (column, v.toJson) ∈ columns.zip (row.values.map Value.toJson) := by
    refine List.mem_of_getElem? (i := n) (List.getElem?_zip_eq_some.2 ⟨named, ?_⟩)
    rw [List.getElem?_map, value, Option.map_some]
  rw [get?_members, Json.get?_eq_some_of_mem (by rwa [names]) member, Option.some_or]

/-- Under the name of no column stands what tells the point, and under any other name nothing at
all. -/
theorem get?_members_of_not_mem (h : name ∉ columns) :
    (Json.object (members columns row).entries).get? name =
      (Json.object (pointMembers row.point)).get? name := by
  have absent : (Json.object (columns.zip (row.values.map Value.toJson))).get? name = none := by
    refine Json.get?_eq_none_iff.2 fun member => h ?_
    obtain ⟨m, hm, rfl⟩ := List.mem_map.1 member
    exact (List.of_mem_zip hm).1
  rw [get?_members, absent, Option.none_or]

/-- **The object of a row tells it** just if the columns that bear the name of a member of the point
hold that member. -/
theorem tells_iff (nodup : columns.Nodup) (length : columns.length = row.values.length) :
    Tells columns row (.object (members columns row).entries) ↔
      ∀ m ∈ pointMembers row.point, ∀ (n : Nat) (v : Value), columns[n]? = some m.1 →
        row.values[n]? = some v → v.toJson = m.2 := by
  constructor
  · intro tells m hm n v named value
    have written := get?_members_of_column nodup length named value
    exact Option.some.inj (written.symm.trans (tells.point m hm))
  · intro agree
    have value (n : Nat) (column : String) (named : columns[n]? = some column) :
        ∃ v, row.values[n]? = some v := by
      have inside := (List.getElem?_eq_some_iff.1 named).1
      exact ⟨_, List.getElem?_eq_getElem (length ▸ inside)⟩
    refine ⟨fun m hm => ?_, fun n column named => ?_⟩
    · rcases Classical.em (m.1 ∈ columns) with member | absent
      · obtain ⟨n, named⟩ := List.mem_iff_getElem?.1 member
        obtain ⟨v, hv⟩ := value n m.1 named
        rw [get?_members_of_column nodup length named hv, agree m hm n v named hv]
      · rw [get?_members_of_not_mem absent, get?_pointMembers hm]
    · obtain ⟨v, hv⟩ := value n column named
      exact ⟨v, hv, get?_members_of_column nodup length named hv⟩

end FeatureTable

open FeatureTable (pointMembers pointNames Tells)

/-- **A feature whose text is the name of a member of the point** is the instant of the point. The
other two names are read as attributes of an event, and a feature has no event at hand. -/
theorem Feature.FromText.observationTime_of_raw {f : Feature} (h : f.FromText)
    (raw : f.raw ∈ pointNames) : f.raw = "obs_dt" ∧ f.formula = .observationTime := by
  obtain ⟨text, t, parsed, placed, lowered, trimmed⟩ := Feature.exists_of_fromText h
  obtain ⟨formula, aggregates, found, rfl⟩ := FeatureText.exists_of_lower lowered
  have read (s : String) (blankless : Text.trim s = s) (named : t.raw = s) :
      Related Eq (.ok t) (FeatureText.parse s) := by
    rw [← parsed]
    exact FeatureText.related_parse (by rw [← trimmed, blankless]; exact named)
  simp only [pointNames, List.mem_cons, List.not_mem_nil, or_false] at raw
  rcases raw with named | named | named
  · cases read "entity_type" rfl named with
    | ok same => subst same; cases placed
  · cases read "entity_id" rfl named with
    | ok same => subst same; cases placed
  · refine ⟨named, ?_⟩
    cases read "obs_dt" rfl named with
    | ok same => subst same; cases found; rfl

namespace QueryRun

variable {r : QueryRun} {q : FeatureSet} {ps : List ObservationPoint} {t : FeatureTable}
  {row : FeatureRow} {checkTypes : Bool} {texts : List String}

/-- A row has a value for every column, also where the value is null. -/
theorem length_values_of_row (ran : r.run q ps = .ok t) (hrow : row ∈ t.rows) :
    t.columns.length = row.values.length := by
  rw [columns_of_run ran, FeatureSet.columns, List.length_map]
  exact (forall₂_values_of_row ran hrow).length_eq

/-- Columns that are named by their texts hold the members of the point whose names they bear. Only
a name that was given can take the place of a member. -/
theorem toJson_of_named_by_text (compiled : FeatureSet.compile checkTypes texts = .ok q)
    (ran : r.run q ps = .ok t)
    (unaliased : ∀ f ∈ q.features, f.name ≠ f.raw → f.name ∉ pointNames) (hrow : row ∈ t.rows)
    {m : String × Json} (hm : m ∈ pointMembers row.point) {n : Nat} {v : Value}
    (named : t.columns[n]? = some m.1) (value : row.values[n]? = some v) : v.toJson = m.2 := by
  rw [columns_of_run ran, FeatureSet.columns, List.getElem?_map, Option.map_eq_some_iff] at named
  obtain ⟨f, hf, name⟩ := named
  have member := List.mem_of_getElem? hf
  have fixed : f.name ∈ pointNames := by
    rw [name, ← FeatureTable.map_fst_pointMembers row.point]
    exact List.mem_map_of_mem hm
  have by_text : f.name = f.raw := Classical.not_not.1 fun other => unaliased f member other fixed
  obtain ⟨raw, formula⟩ := (FeatureSet.FromTexts.fromText ⟨_, _, compiled⟩ f
    member).observationTime_of_raw (by_text ▸ fixed)
  obtain ⟨v', hv', vs, shown⟩ := exists_getElem?_of_forall₂ (forall₂_values_of_row ran hrow) hf
  obtain rfl := Option.some.inj (value.symm.trans hv')
  rw [formula] at shown
  cases shown
  have instant := FeatureTable.get?_pointMembers hm
  rw [← name, by_text, raw] at instant
  exact Option.some.inj instant

/-- **The objects of the rows** of a query that succeeds have the value of every column under its
name, and under the name of no column just what tells the point. So an object tells its row just if
each column that bears the name of a member of the point holds that member, and all objects tell
their rows if no feature is given such a name. -/
theorem toJsonRows_tell (compiled : FeatureSet.compile checkTypes texts = .ok q)
    (ran : r.run q ps = .ok t) :
    List.Forall₂ (fun row j =>
      (∀ (n : Nat) column, t.columns[n]? = some column →
        ∃ v : Value, row.values[n]? = some v ∧ j.get? column = some v.toJson) ∧
      (∀ name, name ∉ t.columns →
        j.get? name = (Json.object (pointMembers row.point)).get? name) ∧
      (Tells t.columns row j ↔
        ∀ m ∈ pointMembers row.point, ∀ (n : Nat) (v : Value), t.columns[n]? = some m.1 →
          row.values[n]? = some v → v.toJson = m.2)) t.rows t.toJsonRows ∧
    ((∀ f ∈ q.features, f.name ≠ f.raw → f.name ∉ pointNames) →
      List.Forall₂ (Tells t.columns) t.rows t.toJsonRows) := by
  have nodup : t.columns.Nodup := by
    rw [columns_of_run ran]
    exact FeatureSet.FromTexts.nodup_names ⟨_, _, compiled⟩
  rw [FeatureTable.toJsonRows, List.forall₂_map_right_iff, List.forall₂_map_right_iff,
    List.forall₂_same, List.forall₂_same]
  refine ⟨fun row hrow => ?_, fun unaliased row hrow => ?_⟩
  · have length := length_values_of_row ran hrow
    refine ⟨fun n column named => ?_, fun name absent => ?_, FeatureTable.tells_iff nodup length⟩
    · have inside := (List.getElem?_eq_some_iff.1 named).1
      have value := List.getElem?_eq_getElem (length ▸ inside)
      exact ⟨_, value, FeatureTable.get?_members_of_column nodup length named value⟩
    · exact FeatureTable.get?_members_of_not_mem absent
  · refine (FeatureTable.tells_iff nodup (length_values_of_row ran hrow)).2 fun m hm n v => ?_
    exact toJson_of_named_by_text compiled ran unaliased hrow hm

/-- An index that holds one event, in Sydney. -/
def sydneyRun : QueryRun :=
  ⟨(EventIndex.empty true).after [.insert {
    type := "weather", time := midnightOf 0, entities := ⟨[("city", "Sydney")]⟩,
    id := none, experiment := none, attributes := ⟨[]⟩ }], .allEvents, {}⟩

/-- A date for Sydney. -/
def dateInSydney : Sampling := .listed [⟨"city", "Sydney", [⟨midnightOf 3, none⟩]⟩]

/-- The point of that date. -/
def pointInSydney : ObservationPoint := .create "city" "Sydney" (midnightOf 3)

/-- The city of the point under a name of its own, and the instant under its text. -/
def cityAs (name : String) : FeatureSet :=
  ⟨[⟨name, "@entities.city as " ++ name, .entity .observation "city", []⟩,
    ⟨"obs_dt", "obs_dt", .observationTime, []⟩]⟩

/-- The city of the point comes out in a column of any name, beside a column that is called as the
instant of a point is. -/
theorem run_cityAs (name : String) : sydneyRun.run (cityAs name) [pointInSydney] =
    .ok ⟨[name, "obs_dt"], [⟨pointInSydney, [.text "Sydney", .instant (midnightOf 3)]⟩], []⟩ := by
  have bare : ∀ f ∈ (cityAs name).features, f.aggregates = [] := by
    simp [cityAs]
  have each : ∀ p ∈ [pointInSydney],
      PointOutcome.ofSlots (sydneyRun.sourced p).context ((cityAs name).features.map (·, [])) =
        .ok (.row [.text "Sydney", .instant (midnightOf 3)]) := by
    intro p hp
    obtain rfl := List.mem_singleton.1 hp
    rfl
  rw [run_of_bare bare each]
  rfl

/-- The city told as a place, and the instant told twice over. -/
theorem toJsonRows_tell_sydney :
    FeatureSet.compile true ["@entities.city as place", "obs_dt"] = .ok (cityAs "place") ∧
    ∃ t, sydneyRun.run (cityAs "place") [pointInSydney] = .ok t ∧
      (∀ f ∈ (cityAs "place").features, f.name ≠ f.raw → f.name ∉ pointNames) ∧
      List.Forall₂ (Tells t.columns) t.rows t.toJsonRows := by
  have compiled : FeatureSet.compile true ["@entities.city as place", "obs_dt"] =
      .ok (cityAs "place") := rfl
  have unaliased : ∀ f ∈ (cityAs "place").features, f.name ≠ f.raw → f.name ∉ pointNames := by
    decide
  exact ⟨compiled, _, run_cityAs "place", unaliased,
    (toJsonRows_tell compiled (run_cityAs "place")).2 unaliased⟩

/-- **A city that is named like the entity type** takes its place: the object does not tell that the
point is one of a city. -/
theorem entityType_overwritten :
    ∃ t, sydneyRun.query ["@entities.city as entity_type", "obs_dt"] dateInSydney = .ok t ∧
      t.rows.map FeatureRow.point = [pointInSydney] ∧ pointInSydney.entityType = "city" ∧
      t.toJsonRows.map (·.get? "entity_type") = [some (.string "Sydney")] ∧
      ¬List.Forall₂ (Tells t.columns) t.rows t.toJsonRows := by
  have compiled : FeatureSet.compile true ["@entities.city as entity_type", "obs_dt"] =
      .ok (cityAs "entity_type") := rfl
  have ran : sydneyRun.query ["@entities.city as entity_type", "obs_dt"] dateInSydney =
      .ok ⟨["entity_type", "obs_dt"],
        [⟨pointInSydney, [.text "Sydney", .instant (midnightOf 3)]⟩], []⟩ := by
    have sampled : dateInSydney.points ⟨sydneyRun.index, sydneyRun.options.experiment⟩ =
        .ok [pointInSydney] := rfl
    rw [query, compiled]
    exact (runSampling_of_points sampled _).trans (run_cityAs "entity_type")
  refine ⟨_, ran, rfl, rfl, rfl, fun told => ?_⟩
  cases told with
  | cons here _ =>
    have city : some (Json.string "Sydney") = some (.string "city") :=
      here.point ("entity_type", .string "city") List.mem_cons_self
    simp at city

end QueryRun
end Hindsight
