import Hindsight.Expr.Parser
import Hindsight.Plan.Placement
import Hindsight.Plan.Lowering
import Hindsight.Plan.Typing

/-!
# Compiling features and conditions

A text is parsed, its references are checked, it is lowered, and its types are checked without
knowledge of attributes. The features of a query are compiled in order and need different names;
the first fault counts.
-/

namespace Hindsight

/-- A text as the source of a compiled thing. -/
def parsedAs {α : Type} (text : String) (r : Except ParseError α) : Except CompileError α :=
  r.mapError (.parse text)

/-- The feature of a text whose name is not among `taken`. -/
def Feature.compile (checkTypes : Bool) (taken : List String) (text : String) :
    Except CompileError Feature := do
  let t ← parsedAs text (FeatureText.parse text)
  if taken.contains t.name then throw (.duplicateName t.name)
  t.expr.permit .projection
  let f ← t.lower
  if checkTypes then discard (f.infer .empty)
  return f

/-- The features of texts, none of them named like one of `taken`. -/
def compileFeatures (checkTypes : Bool) (taken : List String) :
    List String → Except CompileError (List Feature)
  | [] => .ok []
  | text :: rest => do
    let f ← Feature.compile checkTypes taken text
    return f :: (← compileFeatures checkTypes (f.name :: taken) rest)

/-- The features of a query. -/
def FeatureSet.compile (checkTypes : Bool) (texts : List String) :
    Except CompileError FeatureSet := do
  return ⟨← compileFeatures checkTypes [] texts⟩

/-- The condition of a text. -/
def Condition.compile (checkTypes : Bool) (text : String) : Except CompileError Condition := do
  let e ← parsedAs text (Expr.parse text)
  e.permit .condition
  let c ← Condition.ofExpr text e
  if checkTypes then c.expectBoolean (← c.formula.infer .empty [])
  return c

end Hindsight
