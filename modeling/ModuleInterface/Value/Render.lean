import ModuleInterface.Bytes.Hex
import ModuleInterface.Number.Shortest
import ModuleInterface.Text.Quoted
import ModuleInterface.Value

/-!
# Values as they are printed

A message shows a value with the name of what it is: a member with its
enumeration and its number, a range and a record with the names of their fields,
a text between quotes. `display` shows a text without them.
-/

namespace ModuleInterface
namespace Value

/-- Items between brackets. -/
def bracketed (items : List String) : String :=
  "[" ++ ", ".intercalate items ++ "]"

/-- Items between braces. -/
def braced (items : List String) : String :=
  "\x7b" ++ ", ".intercalate items ++ "\x7d"

/-- The name of something with its fields. -/
def constructed (name : String) (fields : List String) : String :=
  name ++ "(" ++ ", ".intercalate fields ++ ")"

mutual

/-- A value as it is printed. -/
def render : Value → String
  | .null => "None"
  | .integer number => toString number
  | .boolean flag => if flag then "True" else "False"
  | .float64 bits => Binary64.text bits
  | .nan => Binary64.text Binary64.nan
  | .text content => Quoted.render content
  | .bytes content => Hex.encode content
  | .enumerator enumeration number => enumeration.describe number
  | .flags set number => set.describe number
  | .tagged index => index.render
  | .floating index => index.render
  | .plain index => index.render
  | .sequence start cardinality =>
      constructed "Sequence" ["start=" ++ start.render, "cardinality=" ++ cardinality.render]
  | .location line column =>
      constructed "SourceLocation" ["line=" ++ line.render, "column=" ++ column.render]
  | .moduleReference reference =>
      constructed "ModuleReference" [
        "owner=" ++ (PlainIndex.text reference.owner).render,
        "partition=" ++ (PlainIndex.text reference.partition).render]
  | .list items => bracketed (renderItems items)
  | .entries items => braced (renderEntries items)
  | .record name fields => constructed name (renderFields fields)

/-- Some values as they are printed. -/
def renderItems : List Value → List String
  | [] => []
  | item :: rest => item.render :: renderItems rest

/-- The fields of a record as they are printed. -/
def renderFields : List (String × Value) → List String
  | [] => []
  | field :: rest => renderField field :: renderFields rest

/-- A field with its name as it is printed. -/
def renderField : String × Value → String
  | (name, value) => name ++ "=" ++ value.render

/-- Values under names as they are printed. -/
def renderEntries : List (String × Value) → List String
  | [] => []
  | entry :: rest => renderEntry entry :: renderEntries rest

/-- A value under a name as it is printed. -/
def renderEntry : String × Value → String
  | (name, value) => Quoted.render name ++ ": " ++ value.render

end

/-- A value as it stands in a text of its own: a text as it is. -/
def display : Value → String
  | .text content => content
  | value => value.render

end Value
end ModuleInterface
