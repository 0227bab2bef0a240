/-
  Wiring.Diagnostic.Basic

  Diagnostics: problems of a build with their arguments and the place they point at, their
  messages, and the order in which they are reported.
-/

import Wiring.Diagnostic.Problem
import Wiring.Declaration.Basic
import Wiring.Listing.Distinct
import Wiring.Text.Replace

namespace Wiring

/-- Where a diagnostic points. -/
inductive DiagnosticPlace where
  | source (location : SourceLocation)
  | codeModule (name : String)
deriving DecidableEq

namespace DiagnosticPlace

/-- The place of a declaration: its location where that is known, otherwise its module. -/
def of (location : Option SourceLocation) (moduleName : String) : DiagnosticPlace :=
  match location with
  | some location => .source location
  | none => .codeModule moduleName

/-- A place in words. -/
def text : DiagnosticPlace → String
  | .source l => l.file ++ ":" ++ toString l.line.toNat ++ ":" ++ toString l.column.toNat
  | .codeModule name => "module " ++ name

/-- Locations come before modules; the file or the name counts next. -/
def rank : DiagnosticPlace → Nat
  | .source _ => 0
  | .codeModule _ => 1

/-- The name of the file or module. -/
def name : DiagnosticPlace → String
  | .source l => l.file
  | .codeModule name => name

/-- The line of a location. -/
def line : DiagnosticPlace → Nat
  | .source l => l.line.toNat
  | .codeModule _ => 0

/-- The column of a location. -/
def column : DiagnosticPlace → Nat
  | .source l => l.column.toNat
  | .codeModule _ => 0

/-- The order of places. -/
def order : DiagnosticPlace → DiagnosticPlace → Ordering :=
  compareLex (compareOn rank) <| compareLex (compareOn name) <|
    compareLex (compareOn line) (compareOn column)

end DiagnosticPlace

/-- A problem of the build. -/
structure Diagnostic where
  problem : Problem
  severity : Severity
  /-- What the message says in the places of its template. -/
  args : List String
  place : DiagnosticPlace
deriving DecidableEq

namespace Diagnostic

/-- A diagnostic with the severity of its problem. -/
def of (problem : Problem) (args : List String) (place : DiagnosticPlace) : Diagnostic :=
  { problem, severity := problem.severity, args, place }

/-- A diagnostic that points at a declaration. -/
def about (declaration : Declaration) (problem : Problem) (args : List String) : Diagnostic :=
  .of problem args (.of declaration.location declaration.moduleName)

/-- Whether the diagnostic makes the build fail. -/
def isError (d : Diagnostic) : Bool := d.severity == .error

/-- Puts arguments into a text, the argument in each place one after the other: what an argument
    brings in is subject to the arguments behind it. -/
def fillFrom (index : Nat) (text : String) : List String → String
  | [] => text
  | arg :: rest => fillFrom (index + 1) (Text.replaceAll (placeholder index) arg text) rest

/-- The message. -/
def message (d : Diagnostic) : String := fillFrom 0 d.problem.template.text d.args

/-- The diagnostic on one line. -/
def text (d : Diagnostic) : String :=
  d.severity.word ++ " " ++ d.problem.code ++ ": " ++ d.message ++ " [" ++ d.place.text ++ "]"

/-- The most severe first, then by problem, place and arguments. -/
def order : Diagnostic → Diagnostic → Ordering :=
  compareLex (compareOn (·.severity.rank)) <| compareLex (compareOn (·.problem.rank)) <|
    compareLex (fun a b => DiagnosticPlace.order a.place b.place) (compareOn (·.args))

/-- Diagnostics in the order in which they are reported, each once. -/
def inOrder (diagnostics : List Diagnostic) : List Diagnostic := diagnostics.sortDistinct order

end Diagnostic
end Wiring
