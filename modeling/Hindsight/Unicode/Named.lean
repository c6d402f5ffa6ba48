import Hindsight.Unicode.AgeTable
import Hindsight.Unicode.Break
import Hindsight.Unicode.ScriptTable

/-!
# Characters by the name of what they have in common

A class of characters may be named by itself, as a property, a general category or a script, or as
the value of a property. Case, spaces, hyphens, low lines and the word is in front do not count in
a name.

A version of Unicode knows the characters that are new in it and those of all versions before. A
script has characters that belong to it and characters that are used with it. A character that is
common to all scripts, or takes the script of the character before it, is used with those that the
table names, if it names any.
-/

namespace Hindsight
namespace Unicode

namespace Version

/-- Whether a version has a name: its number, or the letter v before the digits of the number. -/
def hasName (v : Version) (name : String) : Bool :=
  name == v.number || name.toList == 'v' :: v.number.toList.filter (· != '.')

/-- The versions up to the first one that passes a test, that one among them. -/
def upTo (p : Version → Bool) : List Version → List Version
  | [] => []
  | v :: rest => if p v then [v] else v :: upTo p rest

/-- The characters of a version by its name. -/
def chars? (name : String) : Option CharSet :=
  if versions.any fun v => v.hasName name then
    some (.unionAll ((upTo (fun v => v.hasName name) versions).map fun v => .ofListing v.added))
  else none

end Version
namespace Script

/-- The script of a name. -/
def ofName? (name : String) : Option Script := scripts.find? fun s => s.names.contains name

/-- The characters that belong to a script. -/
def chars (s : Script) : CharSet := .ofListing s.own

/-- The characters of several scripts that the table names. -/
def allShared : CharSet := .unionAll (scripts.map fun s => .ofListing s.shared)

/-- The characters that are used with a script. -/
def charsUsed (s : Script) : CharSet :=
  if s.names.contains "common" || s.names.contains "inherited" then s.chars.diff allShared
  else s.chars.union (.ofListing s.shared)

end Script
/-- The characters of a name that count, the letters small. -/
def countedChars (cs : List Char) : List Char :=
  (cs.filter fun c => c.toNat < 128 && c != ' ' && c != '_' && c != '-').map Char.toLower

/-- A name in the form in which tables have it. The word is in front is dropped, save in the one
name that would become a single c. -/
def tableName (name : List Char) : String :=
  match name with
  | i :: s :: rest =>
    if i.toLower == 'i' && s.toLower == 's' then
      if countedChars rest == ['c'] then "isc" else String.ofList (countedChars rest)
    else String.ofList (countedChars name)
  | _ => String.ofList (countedChars name)

/-- The characters of a property, a general category or a script. -/
def named? (name : List Char) : Option CharSet :=
  let name := tableName name
  match property? name with
  | some s => some s
  | none =>
    match Category.named? name with
    | some s => some s
    | none => (Script.ofName? name).map Script.chars

/-- The characters for which a property has a value. -/
def withValue? (property value : List Char) : Option CharSet :=
  let value := tableName value
  match tableName property with
  | "gc" | "generalcategory" => Category.named? value
  | "sc" | "script" => (Script.ofName? value).map Script.chars
  | "scx" | "scriptextensions" => (Script.ofName? value).map Script.charsUsed
  | "age" => Version.chars? value
  | "gcb" | "graphemeclusterbreak" => GraphemeBreak.named? value
  | "wb" | "wordbreak" => WordBreak.named? value
  | "sb" | "sentencebreak" => SentenceBreak.named? value
  | _ => none

end Unicode
end Hindsight
