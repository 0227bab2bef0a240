/-
  Wiring.Failure

  Why a pass cannot be carried out. Problems of the declarations themselves are diagnostics; a
  failure means that there is nothing to diagnose, or that the caller wants errors to count.
-/

import Wiring.Diagnostic.Basic
import Wiring.Json.Fault

namespace Wiring

/-- What is wrong with the value of a build property. -/
inductive PropertyProblem where
  | noLevel
  | noBoolean
deriving DecidableEq

/-- A problem in words. -/
def PropertyProblem.text : PropertyProblem → String
  | .noLevel => "expected none, minimal or verbose"
  | .noBoolean => "expected a boolean"

/-- Why a pass cannot be carried out. -/
inductive Failure where
  /-- The current module is not among the modules. -/
  | unknownModule (name : String)
  | duplicateModule (name : String)
  | duplicateType (moduleName typeName : String)
  /-- A type is listed under another module than the one it names. -/
  | moduleMismatch (typeName listed declared : String)
  | invalidProperty (key value : String) (problem : PropertyProblem)
  | duplicateArtifact (name : String)
  /-- There are errors among the diagnostics; these are they. -/
  | errorsReported (errors : List Diagnostic)
  /-- A text is not the JSON form of what is wanted. -/
  | unreadable (fault : Json.Fault)
  /-- A file or directory cannot be written. -/
  | unwritable (path : String)
deriving DecidableEq

/-- A failure in words. -/
def Failure.message : Failure → String
  | .unknownModule name => "Current module not found in graph: " ++ name
  | .duplicateModule name => "Module declared more than once: " ++ name
  | .duplicateType moduleName typeName =>
    "Type " ++ typeName ++ " declared more than once in module " ++ moduleName
  | .moduleMismatch typeName listed declared =>
    "Type " ++ typeName ++ " is listed under module " ++ listed ++ " but declares module " ++
      declared
  | .invalidProperty key value problem =>
    "Invalid value for build property " ++ key ++ ": " ++ Text.literal value ++ " (" ++
      problem.text ++ ")"
  | .duplicateArtifact name => "Artifact published more than once: " ++ name
  | .errorsReported errors =>
    toString errors.length ++ " error diagnostic(s) reported; first: " ++
      (errors.head?.map Diagnostic.message).getD ""
  | .unreadable fault => "JSON serialization failed: " ++ fault.message
  | .unwritable path => "Artifact I/O failed for " ++ path

end Wiring
