/-
  Wiring.Configuration.Binding

  Bindings: which section of the configuration fills which type, with its properties and its
  validator.
-/

import Wiring.Configuration.Coercion

namespace Wiring

/-- What validates the values of a binding. -/
inductive Validator where
  | external (type : TypeRef)
  /-- A method of the bound type. -/
  | method (name : String)
deriving DecidableEq

/-- A validator in words. -/
def Validator.text : Validator → String
  | .external type => type.text
  | .method name => name ++ "()"

/-- A section that is bound to a type, or to one of its named instances. -/
structure Binding where
  boundType : String
  moduleName : String
  /-- The path of the section. -/
  path : String
  instanceName : Option String
  validateOnStart : Bool
  validator : Option Validator
  properties : List BoundProperty
  /-- The type needs a parameterless constructor to be generated. -/
  needsConstructor : Bool
  /-- The types of all settable properties, whether they are bound or not. -/
  propertyTypes : List String
  location : Option SourceLocation

/-! ## Planning -/

/-- The endings that the name of a configuration type may have besides the name of its section. -/
def sectionSuffixes : List String := ["Options", "Settings", "Configuration"]

/-- A text without an ending, where something is left of it. -/
def dropSuffix? (name suffix : String) : Option String :=
  let rest := name.toList.take (name.toList.length - suffix.toList.length)
  if rest.isEmpty || rest ++ suffix.toList != name.toList then none
  else some (String.ofList rest)

/-- The section of a type by its name: the simple name without the first ending that fits. -/
def inferSection (typeName : String) : String :=
  let simple := QualifiedName.simple typeName
  (sectionSuffixes.findSome? (dropSuffix? simple)).getD simple

namespace SectionRequest

/-- The path that is asked for; a blank one counts as none. -/
def pathFor (request : SectionRequest) (typeName : String) : String :=
  match request.path with
  | some path => if Text.isBlankText path then inferSection typeName else path
  | none => inferSection typeName

/-- The binding in words: the path, and the name of the instance where it has one. -/
def labelFor (request : SectionRequest) (typeName : String) : String :=
  match request.instanceName with
  | some name => request.pathFor typeName ++ " (" ++ name ++ ")"
  | none => request.pathFor typeName

end SectionRequest

namespace Declaration

/-- The validator that a request finds: the type it names, or else the instance method without
    parameters that it names or that is called `Validate`. -/
def validator? (d : Declaration) (request : SectionRequest) : Option Validator :=
  match request.validator with
  | some type => some (.external type)
  | none =>
    (d.methods.find? fun m =>
      m.name == request.validateMethod.getD "Validate" && !m.isStatic && m.parameters.isEmpty).map
      fun m => .method m.name

/-- The types of the settable properties, without the declared type itself, in order. -/
def settableTypes (d : Declaration) : List String :=
  ((d.settableProperties.map fun p => p.type.unwrapped.1.name).filter
    fun name => name != d.name).sortDistinct compare

/-- The binding for one request. -/
def binding (d : Declaration) (g : Graph) (request : SectionRequest) : Binding where
  boundType := d.name
  moduleName := d.moduleName
  path := request.pathFor d.name
  instanceName := request.instanceName
  validateOnStart := request.validateOnStart
  validator := if request.validateOnStart then d.validator? request else none
  properties := g.boundProperties [d.name] d
  needsConstructor := !d.hasParameterlessConstructor && d.isExtensible
  propertyTypes := d.settableTypes
  location := d.location

/-- The diagnostic for a validator that a request leaves unused. -/
def unusedValidator (d : Declaration) (request : SectionRequest) : List Diagnostic :=
  if request.validateOnStart then []
  else
    match d.validator? request with
    | some validator =>
      [.about d .validatorUnused [d.name, validator.text, request.labelFor d.name]]
    | none => []

/-- The requests for sections among the markers. -/
def sectionRequests (d : Declaration) : List SectionRequest := d.markers.filterMap Marker.section?

/-- One binding for each request. -/
def bindings (d : Declaration) (g : Graph) : List Binding := d.sectionRequests.map (d.binding g)

/-- The diagnostics of the bindings: the type cannot be made, or a validator is unused. -/
def bindingDiagnostics (d : Declaration) : List Diagnostic :=
  if d.sectionRequests.isEmpty then []
  else
    (if d.hasParameterlessConstructor || d.isExtensible then []
      else [.about d .configurationTypeNotExtensible [d.name]]) ++
    d.sectionRequests.flatMap d.unusedValidator

end Declaration

/-! ## Nested types -/

namespace Binding

/-- The types that a binding covers besides its own: those of its properties, and those bound as
    sections inside of them. -/
def covered (b : Binding) : List String :=
  (b.propertyTypes ++ BoundProperty.nestedTypes b.properties).filter fun type =>
    type != b.boundType

/-- Removes the bindings of types that another binding covers. -/
def removeNested (bindings : List Binding) : List Binding :=
  bindings.filter fun b => !bindings.any fun other => other.covered.contains b.boundType

end Binding
end Wiring
