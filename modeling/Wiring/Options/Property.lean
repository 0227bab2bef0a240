/-
  Wiring.Options.Property

  Build properties: values by key from several sources, of which the first that knows a key wins.
  A source is a table, or the variables of the environment under names made from the keys.
-/

import Wiring.Text.UpperCase

namespace Wiring

/-- What every key of a property starts with. -/
def propertyScope : String := "ferrous_di."

/-- The variables of the environment. -/
abbrev Environment := List (String × String)

/-- Sets a variable, in place of its old value. -/
def Environment.set (env : Environment) (name value : String) : Environment :=
  (name, value) :: env.filter fun entry => entry.1 != name

/-- What follows `start` in a text that starts with it. -/
def Text.behind? (start text : String) : Option String :=
  if start.toList.isPrefixOf text.toList then
    some (String.ofList (text.toList.drop start.toList.length))
  else none

/-- The value of a variable. Name and value are one text with an equals sign in between, and a
    value is what follows the wanted name and such a sign: a name that holds an equals sign finds
    the rest of the value of a variable with a shorter name. -/
def Environment.get? (env : Environment) (name : String) : Option String :=
  env.findSome? fun entry => Text.behind? (name ++ "=") (entry.1 ++ "=" ++ entry.2)

/-- A source of properties. -/
inductive PropertySource where
  | table (entries : List (String × String))
  /-- The environment, with the first part of the names where it is not the usual one. -/
  | environment (stem : Option String)

namespace PropertySource

/-- The name of the variable that holds a property: the stem and the key without its scope, in
    upper case. -/
def variableName (stem : Option String) (key : String) : String :=
  let short := (Text.behind? propertyScope key).getD key
  Text.upper (stem.getD "FERROUS_DI") ++ "_" ++ Text.upper short

/-- The value of a key. -/
def get (env : Environment) (key : String) : PropertySource → Option String
  | .table entries => entries.lookup key
  | .environment stem => env.get? (variableName stem key)

end PropertySource

/-- The value of a key in the first source that has one. -/
def lookupProperty (env : Environment) (sources : List PropertySource) (key : String) :
    Option String :=
  sources.findSome? (PropertySource.get env key)

end Wiring
