import Hindsight.Plan.Binding
import Hindsight.Proofs.Dict
import Hindsight.Proofs.Eval.Parts
import Hindsight.Query.Rescan

/-!
# What decides a contribution

What becomes of an event at an aggregate is decided by its type and by what the filter comes to
(`Aggregate.contribution_cases`), and what it gives by the argument, the key and the rank. So two
events of one type give the same, at whichever points, where the argument and the clauses come to
the same (`Aggregate.contribution_congr`).

The attributes of an aggregate are all those that are read in this
(`Aggregate.contains_attributes`). So two events that agree on them, and in their types, times, ids
and entities, give the same (`Aggregate.contribution_eq_of_agreeOn`).
-/

namespace Hindsight
namespace Aggregate

variable {a : Aggregate} {c d : EvalContext}

section Filter

variable {e : Event}

/-- An event of a permitted type that the filter accepts gives what it has to give. Whether this can
be computed is another matter. -/
theorem contribution_of_accepted (permitted : a.permitsType e.type = true)
    (accepted : a.accepts (c.withEvent e) = .ok true) :
    a.contribution c e = (a.share (c.withEvent e)).map .counted := by
  rw [contribution, if_pos permitted]
  dsimp only
  rw [accepted]

/-- An event of a permitted type on which the filter fails shows the failure. The failure is kept,
and counts at the points whose windows hold the event. -/
theorem contribution_of_failed (permitted : a.permitsType e.type = true) {reason : EvalError}
    (failed : a.accepts (c.withEvent e) = .error reason) :
    a.contribution c e = .ok (.filterFailed reason) := by
  rw [contribution, if_pos permitted]
  dsimp only
  rw [failed]

/-- An event that the filter refuses is passed over, whatever its type. The argument is not
evaluated then. -/
theorem contribution_of_refused (refused : a.accepts (c.withEvent e) = .ok false) :
    a.contribution c e = .ok .passed := by
  rw [contribution]
  split
  · dsimp only
    rw [refused]
  · rfl

/-- **What becomes of an event,** and why. There is one case for each way through the function, so
what is proved of contributions is proved by these. -/
theorem contribution_cases (a : Aggregate) (c : EvalContext) (e : Event) :
    a.permitsType e.type = false ∧ a.contribution c e = .ok .passed ∨
      a.permitsType e.type = true ∧
        (a.accepts (c.withEvent e) = .ok false ∧ a.contribution c e = .ok .passed ∨
          a.accepts (c.withEvent e) = .ok true ∧
            a.contribution c e = (a.share (c.withEvent e)).map .counted ∨
          ∃ reason, a.accepts (c.withEvent e) = .error reason ∧
            a.contribution c e = .ok (.filterFailed reason)) := by
  cases permitted : a.permitsType e.type with
  | false => exact .inl ⟨rfl, by rw [contribution, permitted]; rfl⟩
  | true =>
    refine .inr ⟨rfl, ?_⟩
    cases answer : a.accepts (c.withEvent e) with
    | error reason => exact .inr (.inr ⟨reason, rfl, contribution_of_failed permitted answer⟩)
    | ok accepted =>
      cases accepted with
      | false => exact .inl ⟨rfl, contribution_of_refused answer⟩
      | true => exact .inr (.inl ⟨rfl, contribution_of_accepted permitted answer⟩)

end Filter

/-- The clauses of an aggregate are its filter, its key and its rank, as far as it has them. The
argument is not one of them, as it is always there. -/
theorem mem_clauses_iff {f : Formula} :
    f ∈ a.clauses ↔ f ∈ a.filter ∨ f ∈ a.groupBy ∨ f ∈ a.having.map Ranking.rank := by
  simp [clauses]

/-- Whether an event is accepted is decided by the value of the filter alone, and without a filter
by nothing. -/
theorem accepts_congr (same : ∀ f ∈ a.filter, f.evaluate c = f.evaluate d) :
    a.accepts c = a.accepts d := by
  rw [accepts, accepts]
  cases hf : a.filter with
  | none => rfl
  | some f =>
    dsimp only
    rw [Formula.holds, Formula.holds, same f hf]

/-- What a clause comes to is decided by the value of its formula alone, and a clause that is absent
comes to nothing. -/
theorem clause_congr {f : Option Formula} (same : ∀ g ∈ f, g.evaluate c = g.evaluate d) :
    clause c f = clause d f := by
  cases f with
  | none => rfl
  | some g => rw [clause, clause, same g rfl]

/-- **An event gives what the argument and the clauses come to.** Apart from these only its type is
looked at, so two events that agree in all of this give the same. -/
theorem contribution_congr {e e' : Event} (type : e.type = e'.type)
    (argument : a.argument.evaluate (c.withEvent e) = a.argument.evaluate (d.withEvent e'))
    (clauses : ∀ f ∈ a.clauses, f.evaluate (c.withEvent e) = f.evaluate (d.withEvent e')) :
    a.contribution c e = a.contribution d e' := by
  have accepts : a.accepts (c.withEvent e) = a.accepts (d.withEvent e') :=
    accepts_congr fun f hf => clauses f (mem_clauses_iff.2 (.inl hf))
  have key : clause (c.withEvent e) a.groupBy = clause (d.withEvent e') a.groupBy :=
    clause_congr fun f hf => clauses f (mem_clauses_iff.2 (.inr (.inl hf)))
  have rank : clause (c.withEvent e) (a.having.map Ranking.rank) =
      clause (d.withEvent e') (a.having.map Ranking.rank) :=
    clause_congr fun f hf => clauses f (mem_clauses_iff.2 (.inr (.inr hf)))
  have share : a.share (c.withEvent e) = a.share (d.withEvent e') := by
    rw [Aggregate.share, Aggregate.share, argument, key, rank]
  rw [contribution, contribution, type]
  dsimp only
  rw [accepts, share]

end Aggregate

namespace Formula

mutual

/-- What is collected from a formula is added to what was found before, by recursion on formulas. -/
theorem contains_attributesInto {name : String} :
    ∀ (f : Formula) (found : NameSet), (attributesInto found f).contains name = true ↔
      found.contains name = true ∨ attr name ∈ f.parts
  | attr path, found => by
    rw [attributesInto, NameSet.contains_insert, or_comm]
    simp [parts]
  | literal _, _ | sourceAttr _, _ | field _, _ | entity _ _, _ | observationTime, _
  | wildcard, _ | slot _, _ => by simp [attributesInto, parts]
  | list items, found => by
    simp [attributesInto, parts, contains_attributesOfAll items]
  | unary op operand, found => by
    simp [attributesInto, parts, contains_attributesInto operand]
  | binary left op right, found => by
    simp [attributesInto, parts, contains_attributesInto left, contains_attributesInto right,
      or_assoc]
  | call g args, found => by
    simp [attributesInto, parts, contains_attributesOfAll args]

/-- What is collected from formulas is added to what was found before, together with single ones. -/
theorem contains_attributesOfAll {name : String} :
    ∀ (fs : List Formula) (found : NameSet), (attributesOfAll found fs).contains name = true ↔
      found.contains name = true ∨ attr name ∈ partsOfAll fs
  | [], found => by simp [attributesOfAll, partsOfAll]
  | f :: rest, found => by
    rw [attributesOfAll, contains_attributesOfAll rest, contains_attributesInto f, partsOfAll,
      List.mem_append, or_assoc]

end

/-- **The attributes of a formula** are those that occur in it, at whatever depth. -/
theorem contains_attributes {f : Formula} {name : String} :
    f.attributes.contains name = true ↔ attr name ∈ f.parts := by
  rw [attributes, contains_attributesInto]
  simp [NameSet.contains_iff, NameSet.empty]

end Formula

/-- **Two events agree on some attributes,** and in their types, times, ids and entities. -/
structure Event.AgreeOn (P : String → Prop) (d e : Event) : Prop where
  type : d.type = e.type
  time : d.time = e.time
  id : d.id = e.id
  entities : d.entities = e.entities
  attributes : ∀ name, P name → d.attr name = e.attr name

section Agreement

variable {P : String → Prop} {d e : Event} {point : EvalContext}

/-- Events agree on fewer attributes as well. A part of an aggregate reads no more than the
whole. -/
theorem Event.AgreeOn.mono {Q : String → Prop} (h : d.AgreeOn P e) (sub : ∀ name, Q name → P name) :
    d.AgreeOn Q e :=
  { h with attributes := fun name q => h.attributes name (sub name q) }

/-- An event agrees with itself on all but the attribute that it is given, whatever value that
has. -/
theorem Event.agreeOn_withAttribute {name : String} (other : ¬P name) (v : Value) :
    (e.withAttribute name v).AgreeOn P e where
  type := rfl
  time := rfl
  id := rfl
  entities := rfl
  attributes := fun n hn => by
    have ne : n ≠ name := fun same => other (same ▸ hn)
    rw [Event.attr, Event.attr, Event.withAttribute, Dict.get?_insert_of_ne ne]

/-- The fields of an event are not attributes, so events that agree on some attributes have the same
fields. -/
theorem EventField.read_eq_of_agreeOn (h : d.AgreeOn P e) (f : EventField) :
    f.read d = f.read e := by
  cases f with
  | type => rw [read, read, h.type]
  | time => rw [read, read, h.time]
  | id => rw [read, read, h.id]

/-- **A formula has one value on events that agree** on the attributes that occur in it. The leaves
read nothing else of an event but what the two have in common: type, time, id and entities. -/
theorem Formula.evaluate_eq_of_agreeOn {f : Formula}
    (h : d.AgreeOn (fun name => f.attributes.contains name = true) e) :
    f.evaluate (point.withEvent d) = f.evaluate (point.withEvent e) := by
  refine evaluate_congr f fun g occurs leaf => ?_
  cases g with
  | attr name => exact congrArg Except.ok (h.attributes name (contains_attributes.2 occurs))
  | field g => exact congrArg Except.ok (EventField.read_eq_of_agreeOn h g)
  | entity scope entityType =>
    cases scope with
    | observation => rfl
    | event =>
      show Except.ok (Value.ofText? (d.entities.get? entityType)) = _
      rw [h.entities]
      rfl
  | literal _ | sourceAttr _ | observationTime | wildcard | slot _ => rfl
  | list _ | unary _ _ | binary _ _ _ | call _ _ => cases leaf

end Agreement

namespace Aggregate

variable {a : Aggregate} {d e : Event} {name : String}

/-- **The attributes of an aggregate** are those of its argument and of its clauses, since these are
all the formulas that are evaluated on an event. -/
theorem contains_attributes :
    a.attributes.contains name = true ↔
      ∃ f ∈ a.argument :: a.clauses, f.attributes.contains name = true := by
  rw [attributes, NameSet.contains_foldl_union]
  simp

/-- **Two events give the same** if they agree on the attributes of the aggregate, at every
point. -/
theorem contribution_eq_of_agreeOn (h : d.AgreeOn (fun name => a.attributes.contains name = true) e)
    (point : EvalContext) : a.contribution point d = a.contribution point e := by
  have each : ∀ f ∈ a.argument :: a.clauses,
      f.evaluate (point.withEvent d) = f.evaluate (point.withEvent e) := fun f hf =>
    Formula.evaluate_eq_of_agreeOn (h.mono fun name found => contains_attributes.2 ⟨f, hf, found⟩)
  exact contribution_congr h.type (each _ List.mem_cons_self) fun f hf =>
    each f (List.mem_cons_of_mem _ hf)

/-- **The attributes of an aggregate cover what it reads.** Events that agree on them give the same
at every point. So if each of them is known for some candidate type, then so is each attribute that
occurs in the argument or in a clause, and events that agree on the known attributes give the
same. -/
theorem attributes_cover_reads (a : Aggregate) :
    (∀ d e : Event, d.AgreeOn (fun name => a.attributes.contains name = true) e →
      ∀ point : EvalContext, a.contribution point d = a.contribution point e) ∧
    ∀ (s : Schema) (cs : List String),
      (∀ name, a.attributes.contains name = true → Binder.isKnown s cs name = true) →
        (∀ f ∈ a.argument :: a.clauses, ∀ name, .attr name ∈ f.parts →
          Binder.isKnown s cs name = true) ∧
        ∀ d e : Event, d.AgreeOn (fun name => Binder.isKnown s cs name = true) e →
          ∀ point : EvalContext, a.contribution point d = a.contribution point e := by
  refine ⟨fun d e h point => contribution_eq_of_agreeOn h point, fun s cs known => ⟨?_, ?_⟩⟩
  · intro f hf name occurs
    exact known name (contains_attributes.2 ⟨f, hf, Formula.contains_attributes.2 occurs⟩)
  · intro d e h point
    exact contribution_eq_of_agreeOn (h.mono known) point

end Aggregate

section Readings

/-- A reading on a ward. -/
def wardReading : Event where
  type := "reading"
  time := .zero
  entities := .empty
  id := none
  experiment := none
  attributes := ⟨[("level", .int 3), ("site", .text "ward"), ("unit", .text "mg")]⟩

/-- What is on record of readings. -/
def readingSchema : Schema :=
  ⟨[("reading", ⟨[("level", .int), ("site", .text), ("unit", .text)]⟩)]⟩

/-- The sum of the levels on the ward, by unit. -/
def levelsByUnit : Aggregate :=
  ⟨.sum, .attr "level", .past,
    some (.binary (.attr "site") (.compare .eq) (.literal (.text "ward"))), some (.attr "unit"),
    none, none⟩

/-- A note on the reading is not on record, and changes nothing, at whatever point the levels are
read. -/
theorem Aggregate.attributes_cover_reads_of_readings :
    let noted := wardReading.withAttribute "note" (.text "calm")
    let known := fun name => Binder.isKnown readingSchema ["reading"] name = true
    levelsByUnit.attributes = ⟨["level", "site", "unit"]⟩ ∧
      (noted.AgreeOn (fun name => levelsByUnit.attributes.contains name = true) wardReading ∧
        ∀ point, levelsByUnit.contribution point noted =
          levelsByUnit.contribution point wardReading) ∧
        (∀ name, levelsByUnit.attributes.contains name = true → known name) ∧
          known "unit" ∧ noted.AgreeOn known wardReading ∧
            ∀ point, levelsByUnit.contribution point noted =
              levelsByUnit.contribution point wardReading := by
  intro noted known
  have covers := attributes_cover_reads levelsByUnit
  have agree : noted.AgreeOn (fun name => levelsByUnit.attributes.contains name = true)
      wardReading := Event.agreeOn_withAttribute (by decide) _
  have agreeKnown : noted.AgreeOn known wardReading := Event.agreeOn_withAttribute (by decide) _
  have all : ∀ name ∈ levelsByUnit.attributes.toList, known name := by decide
  have allKnown : ∀ name, levelsByUnit.attributes.contains name = true → known name :=
    fun name h => all name (NameSet.contains_iff.1 h)
  obtain ⟨parts, same⟩ := covers.2 readingSchema ["reading"] allKnown
  have unit := parts (.attr "unit") (by simp [levelsByUnit, clauses]) "unit" (Formula.mem_parts _)
  exact ⟨by decide, ⟨agree, covers.1 noted wardReading agree⟩, allKnown, unit, agreeKnown,
    same noted wardReading agreeKnown⟩

end Readings

end Hindsight
