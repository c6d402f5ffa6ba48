import Hindsight.Proofs.Eval.Parts
import Hindsight.Proofs.Plan.Compile

/-!
# What a condition sees

Where a condition stands, the placement of references lets through neither an aggregate nor anything
of an observation, so no part of the formula that the condition is lowered to reads more than the
event at hand (`Expr.readsEventAlone_of_lower`). An entity of the event is looked up in the event
and nowhere else as long as there is one. So **a condition is the same of an event wherever the
event is looked at** (`Condition.evaluate_eq_of_event`).
-/

namespace Hindsight

/-- Whether a formula reads nothing but the event at hand, apart from what its parts read. -/
def Formula.readsEventAlone : Formula → Bool
  | .sourceAttr _ | .entity .observation _ | .observationTime | .slot _ => false
  | _ => true

/-- A leaf that reads the event at hand alone has one value wherever that event is at hand. This is
where the two contexts are looked at. Above the leaves the induction only passes it on. -/
theorem Formula.evaluate_eq_of_readsEventAlone {c d : EvalContext} {e : Event}
    (hc : c.event = some e) (hd : d.event = some e) {g : Formula} (leaf : g.isLeaf = true)
    (own : g.readsEventAlone = true) : g.evaluate c = g.evaluate d := by
  cases g with
  | literal _ | wildcard => rfl
  | attr _ | field _ => rw [evaluate, evaluate, hc, hd]
  | entity scope entityType =>
    cases scope with
    | observation => cases own
    | event => rw [evaluate, evaluate, EvalContext.entity?, EvalContext.entity?, hc, hd]
  | sourceAttr _ | observationTime | slot _ => cases own
  | list _ | unary _ _ | binary _ _ _ | call _ _ => cases leaf

namespace Expr

mutual

/-- **An expression that may stand in a condition** is lowered to a formula that reads the event at
hand alone. -/
theorem readsEventAlone_of_lower {before after : List Aggregate} :
    ∀ (e : Expr) (f : Formula), e.permit .condition = .ok () → e.lower before = .ok (f, after) →
      ∀ g ∈ f.parts, g.readsEventAlone = true
  | literal _, _, _, ok | attr _, _, _, ok | field _, _, _, ok | entity .event _, _, _, ok => by
    cases ok
    simp [Formula.parts, Formula.readsEventAlone]
  | sourceAttr _, _, placed, _ | observationTime, _, placed, _
  | entity .observation _, _, placed, _ | wildcard, _, placed, _ | aggregate .., _, placed, _ => by
    cases placed
  | list items, _, placed, ok => by
    rw [lower] at ok
    obtain ⟨⟨fs, s⟩, okItems, ok⟩ := bind_eq_ok_iff.1 ok
    cases ok
    exact List.forall_mem_cons.2 ⟨rfl, readsEventAlone_of_lowerAll items fs placed okItems⟩
  | unary op operand, _, placed, ok => by
    rw [lower] at ok
    obtain ⟨⟨g, s⟩, okOperand, ok⟩ := bind_eq_ok_iff.1 ok
    cases ok
    exact List.forall_mem_cons.2 ⟨rfl, readsEventAlone_of_lower operand g placed okOperand⟩
  | binary left op right, _, placed, ok => by
    rw [permit] at placed
    obtain ⟨⟨⟩, placedLeft, placedRight⟩ := bind_eq_ok_iff.1 placed
    rw [lower] at ok
    obtain ⟨⟨l, s⟩, okLeft, ok⟩ := bind_eq_ok_iff.1 ok
    obtain ⟨⟨r, t⟩, okRight, ok⟩ := bind_eq_ok_iff.1 ok
    cases ok
    exact List.forall_mem_cons.2 ⟨rfl, List.forall_mem_append.2
      ⟨readsEventAlone_of_lower left l placedLeft okLeft,
        readsEventAlone_of_lower right r placedRight okRight⟩⟩
  | call name args, _, placed, ok => by
    rw [lower] at ok
    obtain ⟨g, -, ok⟩ := bind_eq_ok_iff.1 ok
    obtain ⟨⟨fs, s⟩, okArgs, ok⟩ := bind_eq_ok_iff.1 ok
    cases ok
    exact List.forall_mem_cons.2 ⟨rfl, readsEventAlone_of_lowerAll args fs placed okArgs⟩

/-- Expressions that may stand in a condition are lowered to formulas that read the event at hand
alone. -/
theorem readsEventAlone_of_lowerAll {before after : List Aggregate} :
    ∀ (es : List Expr) (fs : List Formula), permitAll .condition es = .ok () →
      lowerAll before es = .ok (fs, after) →
      ∀ g ∈ Formula.partsOfAll fs, g.readsEventAlone = true
  | [], _, _, ok => by
    cases ok
    exact fun _ hg => absurd hg List.not_mem_nil
  | e :: rest, _, placed, ok => by
    rw [permitAll] at placed
    obtain ⟨⟨⟩, placedHead, placedRest⟩ := bind_eq_ok_iff.1 placed
    rw [lowerAll] at ok
    obtain ⟨⟨f, s⟩, okHead, ok⟩ := bind_eq_ok_iff.1 ok
    obtain ⟨⟨fs, t⟩, okRest, ok⟩ := bind_eq_ok_iff.1 ok
    cases ok
    exact List.forall_mem_append.2 ⟨readsEventAlone_of_lower e f placedHead okHead,
      readsEventAlone_of_lowerAll rest fs placedRest okRest⟩

end

end Expr

namespace Condition

/-- **A condition is the same of an event wherever the event is looked at.** Two contexts with the
event at hand may differ in the observation, the event that this was taken from and the values of
aggregates; a compiled condition comes to the same value or the same error in both. Where a
condition is placed nothing else can be read, and lowering reads nothing more. -/
theorem evaluate_eq_of_event {checkTypes : Bool} {text : String} {c : Condition}
    (compiled : compile checkTypes text = .ok c) {ctx ctx' : EvalContext} {e : Event}
    (here : ctx.event = some e) (there : ctx'.event = some e) :
    c.formula.evaluate ctx = c.formula.evaluate ctx' ∧
      c.formula.holds ctx = c.formula.holds ctx' := by
  obtain ⟨tree, -, placed, made⟩ := exists_of_compile compiled
  obtain ⟨⟨f, slots⟩, lowered, made⟩ := bind_eq_ok_iff.1 made
  cases made
  have same : f.evaluate ctx = f.evaluate ctx' := Formula.evaluate_congr f fun g part leaf =>
    Formula.evaluate_eq_of_readsEventAlone here there leaf
      (Expr.readsEventAlone_of_lower tree f placed lowered g part)
  refine ⟨same, ?_⟩
  rw [Formula.holds, Formula.holds, same]

section Gale

/-- A report of the wind in a city. -/
def windIn (city : String) (speed : Int) : Event where
  type := "wind"
  time := .zero
  entities := ⟨[("city", city)]⟩
  id := none
  experiment := none
  attributes := ⟨[("speed", .int speed)]⟩

/-- That it blows a gale in Sydney, as it is compiled. -/
def galeInSydney : Condition where
  raw := "entities.city == 'Sydney' and speed > 62"
  formula :=
    .binary (.binary (.entity .event "city") (.compare .eq) (.literal (.text "Sydney")))
      (.connect .and) (.binary (.attr "speed") (.compare .gt) (.literal (.int 62)))
  eventTypes := none

/-- A gale in Sydney is one also where it is looked at from Perth, on a calm day there. The two
points have different events of their own, and the condition asks for neither. -/
theorem evaluate_galeInSydney :
    let gale := windIn "Sydney" 80
    let perth : EvalContext :=
      ⟨some (.create "city" "Perth" .zero), some (windIn "Perth" 3), some gale, [.int 0]⟩
    compile true galeInSydney.raw = .ok galeInSydney ∧
      galeInSydney.formula.evaluate (.ofEvent gale) = .ok (.bool true) ∧
        galeInSydney.formula.evaluate (.ofEvent gale) = galeInSydney.formula.evaluate perth ∧
          galeInSydney.formula.holds (.ofEvent gale) = galeInSydney.formula.holds perth := by
  have compiled : compile true galeInSydney.raw = .ok galeInSydney := rfl
  exact ⟨compiled, rfl, evaluate_eq_of_event compiled rfl rfl⟩

end Gale

end Condition

end Hindsight
