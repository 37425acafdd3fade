import GrammarAtlas.Pattern.Fault
import GrammarAtlas.Pattern.Node
import GrammarAtlas.Pattern.PropertyNames

/-!
# Classes named by properties

A class of characters may be named by a property, a general category or a script, or by a property
together with a value. Names match loosely. `Query.fault?` says whether there is such a class.
-/

namespace GrammarAtlas.Pattern

/-- A name without the characters in which names may differ, and in small letters. -/
def looseChars (text : List Char) : List Char :=
  (text.filter fun char => char.toNat < 128 && char ≠ ' ' && char ≠ '_' && char ≠ '-').map
    Char.toLower

/-- A name in the form in which names are compared. A prefix `is` does not count, except in the
one name that would otherwise become that of a category. -/
def looseName (text : String) : String :=
  match text.toList with
  | first :: second :: rest =>
    if first.toLower = 'i' ∧ second.toLower = 's' then
      let name := looseChars rest
      if name = ['c'] then "isc" else String.ofList name
    else String.ofList (looseChars (first :: second :: rest))
  | text => String.ofList (looseChars text)

/-- The names of properties with values that a class can be named by, and these values. -/
def valuedProperties : List (List String × List String) :=
  [(["generalcategory", "gc"], categoryNames), (["script", "sc"], scriptNames),
    (["scriptextensions", "scx"], scriptNames), (["age"], ageNames),
    (["graphemeclusterbreak", "gcb"], graphemeBreakNames),
    (["wordbreak", "wb"], wordBreakNames), (["sentencebreak", "sb"], sentenceBreakNames)]

/-- The names that stand for a category although they are short for a property, too. -/
def categoriesFirst : List String := ["cf", "sc", "lc"]

/-- Whether a name is that of a property of any kind. -/
def isProperty (name : String) : Bool :=
  binaryNames.contains name || otherPropertyNames.contains name ||
    valuedProperties.any fun property => property.1.contains name

/-- What is wrong with a name alone. -/
def nameFault? (name : String) : Option Fault :=
  if !categoriesFirst.contains name && isProperty name then
    if binaryNames.contains name then none else some .propertyUnknown
  else if categoryNames.contains name || scriptNames.contains name then none
  else if emptyCategoryNames.contains name || emptyScriptNames.contains name then
    some .propertyValueUnknown
  else some .propertyUnknown

/-- What is wrong with a property and a value. -/
def valueFault? (property value : String) : Option Fault :=
  match valuedProperties.find? fun known => known.1.contains property with
  | some (_, values) => if values.contains value then none else some .propertyValueUnknown
  | none => if isProperty property then some .propertyValueUnknown else some .propertyUnknown

/-- What is wrong with a class named by a property, if anything is. -/
def Query.fault? : Query → Option Fault
  | name text => nameFault? (looseName text)
  | value property text => valueFault? (looseName property) (looseName text)

end GrammarAtlas.Pattern
