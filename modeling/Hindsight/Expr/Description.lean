import Hindsight.Expr.Basic
import Hindsight.Expr.Json
import Hindsight.Unicode.Recent

/-!
# Descriptions of syntax trees

A message that refuses an expression describes its syntax tree: the names of the nodes with their
parts in parentheses or braces, and texts between quotes with escapes for what would not show.
-/

namespace Hindsight
namespace Expr

/-- One character of a described text. -/
def describedChar (c : Char) : String :=
  if c = '"' then "\\\""
  else if c = '\\' then "\\\\"
  else if c = '\n' then "\\n"
  else if c = '\r' then "\\r"
  else if c = '\t' then "\\t"
  else if c.toNat = 0 then "\\0"
  else if Text.isVisible c then String.ofList [c]
  else "\\u\x7b" ++ String.ofList (Nat.toDigits 16 c.toNat) ++ "\x7d"

/-- A text between quotes. -/
def describedText (s : String) : String :=
  "\"" ++ String.join (s.toList.map describedChar) ++ "\""

/-- A node with one part. -/
def describedNode (name part : String) : String := name ++ "(" ++ part ++ ")"

/-- The named parts of a node. -/
def describedParts (parts : List (String × String)) : String :=
  " \x7b " ++ ", ".intercalate (parts.map fun p => p.1 ++ ": " ++ p.2) ++ " \x7d"

mutual

/-- The description of a value. -/
def describedValue : Value → String
  | .null => "Null"
  | .bool b => describedNode "Bool" (if b then "true" else "false")
  | .int n => describedNode "Int" (toString n)
  | .float x => describedNode "Float" (Number.Layout.described.text x)
  | .negativeNaN => describedNode "Float" (Number.Layout.described.text Number.nan)
  | .text s => describedNode "String" (describedText s)
  | .instant t => describedNode "DateTime" t.text
  | .list items => describedNode "List" ("[" ++ ", ".intercalate (describedValues items) ++ "]")
  | .map entries =>
    describedNode "Map" ("\x7b" ++ ", ".intercalate (describedEntries entries) ++ "\x7d")

/-- The descriptions of values. -/
def describedValues : List Value → List String
  | [] => []
  | v :: rest => describedValue v :: describedValues rest

/-- The descriptions of entries. -/
def describedEntries : List (String × Value) → List String
  | [] => []
  | (k, v) :: rest => (describedText k ++ ": " ++ describedValue v) :: describedEntries rest

end

/-- A name with its first letter capital. -/
def capitalized (s : String) : String :=
  match s.toList with
  | [] => ""
  | c :: rest => String.ofList (c.toUpper :: rest)

/-- The description of a window. -/
def describedWindow : Time.Window → String
  | .last n unit =>
    "Last" ++ describedParts [("n", toString n), ("unit", capitalized unit.name)]
  | .next n unit =>
    "Next" ++ describedParts [("n", toString n), ("unit", capitalized unit.name)]
  | .past => "Past"
  | .future => "Future"
  | .allTime => "AllTime"
  | .yearToDate => "YearToDate"
  | .monthToDate => "MonthToDate"

mutual

/-- The description of an expression. -/
def description : Expr → String
  | literal v => describedNode "Literal" (describedValue v)
  | attr path => describedNode "Attribute" (describedText path)
  | sourceAttr path => describedNode "SourceAttribute" (describedText path)
  | field f => describedNode "EventField" f.tag
  | entity scope entityType =>
    "EntityRef" ++
      describedParts [("scope", scope.tag), ("entity_type", describedText entityType)]
  | observationTime => "ObservationDate"
  | wildcard => "Wildcard"
  | list items => describedNode "List" ("[" ++ ", ".intercalate (descriptions items) ++ "]")
  | unary op operand =>
    "Unary" ++ describedParts [("op", op.tag), ("operand", description operand)]
  | binary left op right =>
    "Binary" ++
      describedParts [("left", description left), ("op", op.tag), ("right", description right)]
  | call name args =>
    "FunctionCall" ++
      describedParts [("name", describedText name),
        ("args", "[" ++ ", ".intercalate (descriptions args) ++ "]")]
  | aggregate function argument parameter window filter selection =>
    describedNode "Aggregate" ("AggregateCall" ++
      describedParts ([("function", describedText function),
        ("argument", description argument), ("parameter", optionalDescription parameter),
        ("window", describedWindow window), ("filter", optionalDescription filter)] ++
        describedSelection selection))

/-- The descriptions of expressions. -/
def descriptions : List Expr → List String
  | [] => []
  | e :: rest => description e :: descriptions rest

/-- The description of an optional expression. -/
def optionalDescription : Option Expr → String
  | none => "None"
  | some e => describedNode "Some" (description e)

/-- The two parts of an aggregate that describe its selection. -/
def describedSelection : Selection → List (String × String)
  | .all => [("group_by", "None"), ("having", "None")]
  | .groupBy key => [("group_by", describedNode "Some" (description key)), ("having", "None")]
  | .having extreme rank =>
    [("group_by", "None"),
     ("having", describedNode "Some" ("Having" ++
       describedParts [("kind", capitalized extreme.name), ("expr", description rank)]))]

end

end Expr
end Hindsight
