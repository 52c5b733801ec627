import RelationQuery.Text.Age
import RelationQuery.Text.BinaryProperty
import RelationQuery.Text.Break
import RelationQuery.Text.Script

/-!
# Characters by the names of their properties

A set of characters is named by a binary property, a category or a script, or by a property and one
of its values. Names are compared loosely.
-/

namespace RelationQuery.Text

/-- A name in small letters without blanks, low lines, hyphens, what is not ASCII, and the word `is`
in front. That word is not taken from the name `isc`, which would leave the name of a category. -/
def looseName (name : List Char) : String :=
  let loosened (name : List Char) : List Char :=
    (name.filter fun c => c.toNat < 128 && c != ' ' && c != '_' && c != '-').map Char.toLower
  match name with
  | i :: s :: rest =>
      if i.toLower == 'i' && s.toLower == 's' then
        if loosened rest == ['c'] then "isc" else String.ofList (loosened rest)
      else String.ofList (loosened name)
  | _ => String.ofList (loosened name)

/-- A category by its loose name, or one of three sets that go with the categories. -/
def categorySet? (name : String) : Option CharSet :=
  if name == "any" then some .any
  else if name == "assigned" then some (.complement (Category.setOf [.unassigned]))
  else if name == "ascii" then some (.range '\x00' '\x7f')
  else Category.setOfName? name

def setOfName? (name : List Char) : Option CharSet :=
  let loose := looseName name
  binarySet? loose <|> categorySet? loose <|> (Script.codeOf? loose).map Script.set

def setOfValue? (property value : List Char) : Option CharSet :=
  let loose := looseName value
  match looseName property with
  | "gc" => categorySet? loose
  | "generalcategory" => categorySet? loose
  | "sc" => (Script.codeOf? loose).map Script.set
  | "script" => (Script.codeOf? loose).map Script.set
  | "scx" => (Script.codeOf? loose).map Script.extendedSet
  | "scriptextensions" => (Script.codeOf? loose).map Script.extendedSet
  | "age" => Age.set? loose
  | "gcb" => graphemeBreak.set? loose
  | "graphemeclusterbreak" => graphemeBreak.set? loose
  | "wb" => wordBreak.set? loose
  | "wordbreak" => wordBreak.set? loose
  | "sb" => sentenceBreak.set? loose
  | "sentencebreak" => sentenceBreak.set? loose
  | _ => none

end RelationQuery.Text
