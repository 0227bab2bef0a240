/-
  Wiring.Report

  The report of a build for people and tools: the services, the chains of decorators, how often
  each lifetime occurs, and the diagnostics.
-/

import Wiring.Options.Basic
import Wiring.Plan.Basic

namespace Wiring

open Json.Read (record list entries orNull)

/-- A service in a report. -/
structure ReportService where
  name : String
  moduleName : String
  lifetime : Lifetime
  interfaces : List String
  keys : List String
  /-- The number of arguments of its constructor. -/
  arity : Nat
  /-- The proxy through which it is registered. -/
  proxy : Option String := none
deriving DecidableEq

/-- A chain of decorators in a report. -/
structure ReportChain where
  target : String
  /-- Outermost first. -/
  decorators : List String
  implementations : List String
deriving DecidableEq

/-- A report. -/
structure Report where
  moduleName : String
  services : List ReportService
  chains : List ReportChain
  /-- The number of services of each lifetime, by the name of the lifetime. -/
  lifetimes : List (String × Nat)
  diagnostics : List String
deriving DecidableEq

namespace Report

/-! ## Reporting on a plan -/

/-- Orders counts by what they count. -/
def byName (counts : List (String × Nat)) : List (String × Nat) :=
  counts.sortBy (compareOn (·.1))

/-- How often each lifetime occurs, in the order of their names. -/
def countLifetimes (lifetimes : List Lifetime) : List (String × Nat) :=
  byName ((Lifetime.histogram lifetimes).map fun entry => (entry.1.name, entry.2))

/-- A service of a plan. -/
def serviceOf (p : Plan) (s : Service) : ReportService where
  name := s.name
  moduleName := s.moduleName
  lifetime := s.lifetime
  interfaces := s.interfaces.map TypeRef.text
  keys := s.keys
  arity := s.construction.arguments.length
  proxy := (p.proxyFor? s.name).map (·.name)

/-- A chain of a plan. -/
def chainOf (c : Chain) : ReportChain where
  target := c.target.text
  decorators := c.outermostFirst.map TypeRef.text
  implementations := c.implementations

/-- The report on a plan: of the services and chains, those whose names the options let through. -/
def ofPlan (o : Options) (p : Plan) : Report where
  moduleName := p.current
  services := (p.services.filter fun s => o.reportsName s.name).map (serviceOf p)
  chains := (p.chains.filter fun c => o.reportsName c.target.name).map chainOf
  lifetimes :=
    countLifetimes ((p.services.filter fun s => o.reportsName s.name).map (·.lifetime))
  diagnostics := p.diagnostics.map Diagnostic.text

/-! ## Text -/

/-- A part of a line that is left out where it would list nothing. -/
def clause (word : String) (names : List String) : String :=
  if names.isEmpty then "" else " " ++ word ++ " " ++ ", ".intercalate names

/-- The line of a service. -/
def serviceLine (s : ReportService) : String :=
  "  " ++ s.name ++ " [" ++ s.lifetime.name ++ "]" ++ clause "as" s.interfaces ++
    clause "keys" s.keys ++ clause "via" s.proxy.toList ++
    " (" ++ toString s.arity ++ " args, module " ++ s.moduleName ++ ")"

/-- The lines of a chain. -/
def chainLines (c : ReportChain) : List String :=
  ("  " ++ c.target ++ ": " ++ " -> ".intercalate c.decorators) ::
    c.implementations.map ("    wraps " ++ ·)

/-- A heading with the number of entries below it. -/
def heading (title : String) (count : Nat) : String :=
  title ++ " (" ++ toString count ++ "):"

/-- The lines of a report; those of the diagnostics are left out where there are none. -/
def textLines (r : Report) : List String :=
  ["Dependency graph report for " ++ r.moduleName, "", heading "Services" r.services.length] ++
  r.services.map serviceLine ++
  ["", heading "Decorator chains" r.chains.length] ++
  r.chains.flatMap chainLines ++
  ["", "Lifetimes:"] ++
  r.lifetimes.map (fun entry => "  " ++ entry.1 ++ ": " ++ toString entry.2) ++
  if r.diagnostics.isEmpty then []
  else
    ["", heading "Diagnostics" r.diagnostics.length] ++ r.diagnostics.map ("  " ++ ·)

/-- A report as text. -/
def toText (r : Report) : String := Text.unlines r.textLines

end Report

/-! ## JSON -/

namespace ReportService

/-- A service of a report as JSON. -/
def toJson (s : ReportService) : Json :=
  .object <|
    [("name", .text s.name), ("module", .text s.moduleName), ("lifetime", s.lifetime.toJson),
      ("interfaces", .texts s.interfaces), ("keys", .texts s.keys), ("arity", .number s.arity)] ++
    Json.fieldOf "proxy" .text s.proxy

/-- Reads a service of a report. -/
def read (scope : Json.Scope) : Json.Reader ReportService :=
  record scope "struct ReportEntry"
      ["name", "module", "lifetime", "interfaces", "keys", "arity", "proxy"] fun r =>
    ReportService.mk <$> r.required "name" Json.Read.text
      <*> r.required "module" Json.Read.text
      <*> r.required "lifetime" (Lifetime.read scope.inner)
      <*> r.required "interfaces" (list scope.inner Json.Read.text)
      <*> r.required "keys" (list scope.inner Json.Read.text)
      <*> r.required "arity" Json.Read.size
      <*> r.optional "proxy" none (orNull Json.Read.text)

end ReportService

namespace ReportChain

/-- A chain of a report as JSON. -/
def toJson (c : ReportChain) : Json :=
  .object [("target", .text c.target), ("decorators", .texts c.decorators),
    ("implementations", .texts c.implementations)]

/-- Reads a chain of a report. -/
def read (scope : Json.Scope) : Json.Reader ReportChain :=
  record scope "struct ReportChain" ["target", "decorators", "implementations"] fun r =>
    ReportChain.mk <$> r.required "target" Json.Read.text
      <*> r.required "decorators" (list scope.inner Json.Read.text)
      <*> r.required "implementations" (list scope.inner Json.Read.text)

end ReportChain

namespace Report

/-- A report as JSON. -/
def toJson (r : Report) : Json :=
  .object
    [("module", .text r.moduleName),
     ("services", .array (r.services.map ReportService.toJson)),
     ("decorator_chains", .array (r.chains.map ReportChain.toJson)),
     ("lifetimes", .object (r.lifetimes.map fun entry => (entry.1, .number entry.2))),
     ("diagnostics", .texts r.diagnostics)]

/-- Reads counts; of several for one name the last is taken. -/
def readCounts (scope : Json.Scope) : Json.Reader (List (String × Nat)) := fun draft =>
  (entries scope Json.Read.size draft).map fun counts =>
    byName (counts.reverse.distinctOn (·.1))

/-- Reads a report. -/
def read (scope : Json.Scope) : Json.Reader Report :=
  record scope "struct DiagnosticReport"
      ["module", "services", "decorator_chains", "lifetimes", "diagnostics"] fun r =>
    Report.mk <$> r.required "module" Json.Read.text
      <*> r.required "services" (list scope.inner (ReportService.read scope.inner.inner))
      <*> r.required "decorator_chains" (list scope.inner (ReportChain.read scope.inner.inner))
      <*> r.required "lifetimes" (readCounts scope.inner)
      <*> r.required "diagnostics" (list scope.inner Json.Read.text)

end Report
end Wiring
