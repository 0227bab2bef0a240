/-
  Wiring.Text.QualifiedName

  Qualified names: segments joined by dots. The last segment is the simple name of a type, the
  text before the last dot is its namespace (empty for a name without a dot).
-/

namespace Wiring.QualifiedName

/-- The characters before the last dot and those after it; `none` for a name without a dot. -/
def splitLastDot : List Char → Option (List Char × List Char)
  | [] => none
  | c :: rest =>
    match splitLastDot rest with
    | some (before, after) => some (c :: before, after)
    | none => if c = '.' then some ([], rest) else none

/-- The last segment of a qualified name. -/
def simple (name : String) : String :=
  match splitLastDot name.toList with
  | some (_, after) => String.ofList after
  | none => name

/-- Everything before the last dot of a qualified name, empty where there is none. -/
def parent (name : String) : String :=
  match splitLastDot name.toList with
  | some (before, _) => String.ofList before
  | none => ""

/-- The name of something generated beside `name`: the same namespace, and the simple name
    followed by `suffix`. -/
def beside (name suffix : String) : String :=
  if parent name = "" then simple name ++ suffix
  else parent name ++ "." ++ simple name ++ suffix

/-- Whether `name` is `scope` itself or lies in the namespace `scope`, judged on the text. -/
def isWithin (scope name : String) : Bool :=
  name == scope || (scope.toList ++ ['.']).isPrefixOf name.toList

end Wiring.QualifiedName
