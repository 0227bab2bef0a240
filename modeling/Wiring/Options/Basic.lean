/-
  Wiring.Options.Basic

  The options of a pass, and reading them from build properties.
-/

import Wiring.Failure
import Wiring.Options.Property

namespace Wiring

/-- How much provenance is written beside each registration of generated source. -/
inductive BreadcrumbLevel where
  | none
  /-- Module and type. -/
  | minimal
  /-- Module, type, location and constructor. -/
  | verbose
deriving DecidableEq

/-- The options of a pass. -/
structure Options where
  breadcrumbs : BreadcrumbLevel := .minimal
  /-- Render the report. -/
  diagnostics : Bool := false
  /-- Also write the report to this file. -/
  diagnosticsPath : Option String := none
  /-- The beginnings of the names that the report lists; all where there are none. -/
  diagnosticsFilter : List String := []
  /-- Generate binders for the configuration. -/
  aot : Bool := false
  /-- The namespaces that are planned; all where there are none. -/
  namespaces : List String := []
  /-- Interfaces whose implementations are plugins, besides those marked as contracts. -/
  pluginInterfaces : List String := []
  /-- Interfaces under which nothing is registered. -/
  ignoredInterfaces : List String := []
deriving DecidableEq

namespace Options

/-! ## Values of properties -/

/-- Reads a level; blanks around it and the case of ASCII letters do not count. -/
def readLevel (key value : String) : Except Failure BreadcrumbLevel :=
  let word := Text.lowerAscii (Text.trim value)
  if word = "none" ∨ word = "off" then .ok .none
  else if word = "minimal" then .ok .minimal
  else if word = "verbose" then .ok .verbose
  else .error (.invalidProperty key value .noLevel)

/-- Reads a yes or no; blanks around it and the case of ASCII letters do not count, and an empty
    value is a no. -/
def readBool (key value : String) : Except Failure Bool :=
  let word := Text.lowerAscii (Text.trim value)
  if ["true", "1", "yes", "on"].contains word then .ok true
  else if ["false", "0", "no", "off", ""].contains word then .ok false
  else .error (.invalidProperty key value .noBoolean)

/-- Reads a list: entries between commas or semicolons, without the blanks around them; empty
    entries are left out. -/
def readList (value : String) : List String :=
  (((Text.splitAtMarks (fun c => c = ',' || c = ';') value.toList).map Text.trimChars).filter
    fun entry => !entry.isEmpty).map String.ofList

/-- Reads a path; a blank value is none. -/
def readPath (value : String) : Option String :=
  let path := Text.trim value
  if path.isEmpty then none else some path

/-- Reads an optional property under its full key. -/
def readProperty {α : Type} (lookup : String → Option String) (name : String) (absent : α)
    (read : String → String → Except Failure α) : Except Failure α :=
  let key := propertyScope ++ name
  match lookup key with
  | some value => read key value
  | none => .ok absent

/-- The options that properties ask for. The first invalid value in the order of the options is
    the failure. -/
def ofProperties (lookup : String → Option String) : Except Failure Options := do
  let list (name : String) : Except Failure (List String) :=
    readProperty lookup name [] fun _ value => .ok (readList value)
  return {
    breadcrumbs := ← readProperty lookup "breadcrumbs" .minimal readLevel
    diagnostics := ← readProperty lookup "diagnostics" false readBool
    diagnosticsPath := ← readProperty lookup "diagnostics_path" none fun _ value =>
      .ok (readPath value)
    diagnosticsFilter := ← list "diagnostics_filter"
    aot := ← readProperty lookup "aot" false readBool
    namespaces := ← list "namespace_prefixes"
    pluginInterfaces := ← list "plugin_interfaces"
    ignoredInterfaces := ← list "ignored_interfaces" }

/-! ## Filters -/

/-- Whether a name lies in one of the namespaces that are planned. -/
def coversName (o : Options) (name : String) : Bool :=
  o.namespaces.isEmpty || o.namespaces.any fun scope => QualifiedName.isWithin scope name

/-- Whether the report lists a name. -/
def reportsName (o : Options) (name : String) : Bool :=
  o.diagnosticsFilter.isEmpty ||
    o.diagnosticsFilter.any fun start => start.toList.isPrefixOf name.toList

end Options
end Wiring
