/-
  Wiring.Diagnostic.Json

  The JSON form of diagnostics.
-/

import Wiring.Diagnostic.Basic
import Wiring.Declaration.Json

namespace Wiring

open Json.Read (record choice variant list)

/-- The name of a severity. -/
def Severity.name : Severity → String
  | .error => "Error"
  | .warning => "Warning"
  | .info => "Info"

/-- Reads a severity. -/
def Severity.read (scope : Json.Scope) : Json.Reader Severity :=
  choice scope name [.error, .warning, .info]

/-- The name of a problem. -/
def Problem.name : Problem → String
  | .inaccessibleCandidate => "InaccessibleCandidate"
  | .moduleNotParticipating => "ModuleNotParticipating"
  | .decoratorMissingInner => "DecoratorMissingInner"
  | .configurationTypeNotExtensible => "ConfigurationTypeNotExtensible"
  | .validatorUnused => "ValidatorUnused"
  | .openDecoratorTargetClosed => "OpenDecoratorTargetClosed"
  | .interceptedWithoutInterface => "InterceptedWithoutInterface"
  | .factoryUnnecessary => "FactoryUnnecessary"
  | .decoratorNotConstructible => "DecoratorNotConstructible"

/-- Reads a problem. -/
def Problem.read (scope : Json.Scope) : Json.Reader Problem := choice scope name all

namespace DiagnosticPlace

/-- A place as JSON. -/
def toJson : DiagnosticPlace → Json
  | .source location => .object [("Source", location.toJson)]
  | .codeModule name => .object [("Module", .text name)]

/-- Reads a place. -/
def read (scope : Json.Scope) : Json.Reader DiagnosticPlace :=
  variant scope
    [("Source", .single fun draft => (SourceLocation.read scope.inner draft).map .source),
     ("Module", .single fun draft => (Json.Read.text draft).map .codeModule)]

end DiagnosticPlace

namespace Diagnostic

/-- A diagnostic as JSON. -/
def toJson (d : Diagnostic) : Json :=
  .object [("id", .text d.problem.name), ("severity", .text d.severity.name),
    ("args", .texts d.args), ("location", d.place.toJson)]

/-- Reads a diagnostic. -/
def read (scope : Json.Scope) : Json.Reader Diagnostic :=
  record scope "struct Diagnostic" ["id", "severity", "args", "location"] fun r =>
    Diagnostic.mk <$> r.required "id" (Problem.read scope.inner)
      <*> r.required "severity" (Severity.read scope.inner)
      <*> r.required "args" (list scope.inner Json.Read.text)
      <*> r.required "location" (DiagnosticPlace.read scope.inner)

end Diagnostic
end Wiring
