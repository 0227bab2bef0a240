/-
  Wiring.Artifact.Source

  Artifacts as registration source: static tables of what the container registers, and two small
  routines that bind the configuration and load modules. The source is made line by line; every
  text of the plan stands in a string literal or in a comment.
-/

import Wiring.Artifact.Basic
import Wiring.Report
import Wiring.Text.Literal

namespace Wiring.Artifact.Source

open Text (literal)

/-! ## Values -/

/-- A list of literals. -/
def literals (items : List String) : String :=
  "&[" ++ ", ".intercalate (items.map literal) ++ "]"

/-- A list of references, by their texts. -/
def references (refs : List TypeRef) : String := literals (refs.map TypeRef.text)

/-- An optional value. -/
def optional (render : α → String) : Option α → String
  | some value => "Some(" ++ render value ++ ")"
  | none => "None"

/-- Yes or no. -/
def flag (value : Bool) : String := if value then "true" else "false"

/-- Where an argument comes from. -/
def argument (a : Argument) : String :=
  match a.source with
  | .service => "Arg::Service(" ++ literal a.type.text ++ ")"
  | .keyed key => "Arg::Keyed(" ++ literal a.type.text ++ ", " ++ literal key ++ ")"
  | .caller => "Arg::Runtime(" ++ literal a.name ++ ", " ++ literal a.type.text ++ ")"
  | .inner => "Arg::Inner(" ++ literal a.type.text ++ ")"

/-- The arguments of a constructor. -/
def arguments (c : Construction) : String :=
  "&[" ++ ", ".intercalate (c.arguments.map argument) ++ "]"

/-- A record on one line. -/
def inlineRecord (name : String) (fields : List (String × String)) : String :=
  name ++ " \x7b " ++ ", ".intercalate (fields.map fun field => field.1 ++ ": " ++ field.2) ++
    " \x7d"

/-! ## Lines -/

/-- The indentation of a level. -/
def indent (level : Nat) : String := String.ofList (List.replicate (4 * level) ' ')

/-- A line at a level. -/
def line (level : Nat) (text : String) : String := indent level ++ text

/-- A field of a record, on a line of its own. -/
def field (level : Nat) (name value : String) : String :=
  line level (name ++ ": " ++ value ++ ",")

/-- A record over several lines. -/
def recordLines (level : Nat) (name : String) (fields : List String) : List String :=
  line level (name ++ " \x7b") :: fields ++ [line level "\x7d,"]

/-- A table of records. -/
def table (name type : String) (entries : List String) : List String :=
  ("pub static " ++ name ++ ": &[" ++ type ++ "] = &[") :: entries ++ ["];"]

/-- The comments on where an entry comes from. -/
def breadcrumbs (level : BreadcrumbLevel) (moduleName name : String)
    (location : Option SourceLocation) (construction : Option Construction) : List String :=
  match level with
  | .none => []
  | .minimal => [line 1 ("// " ++ moduleName ++ " :: " ++ name)]
  | .verbose =>
    [line 1 ("// " ++ moduleName ++ " :: " ++ name)] ++
    (location.map fun l =>
      line 1 ("// declared at " ++ (DiagnosticPlace.source l).text)).toList ++
    (construction.map fun c =>
      line 1 ("// constructor #" ++ toString c.index ++ " with " ++
        toString c.arguments.length ++ " argument(s)")).toList

/-! ## Services, factories and proxies -/

/-- The entry of a service. -/
def serviceLines (o : Options) (p : Plan) (s : Service) : List String :=
  breadcrumbs o.breadcrumbs s.moduleName s.name s.location (some s.construction) ++
  recordLines 1 "Registration"
    [field 2 "implementation" (literal s.name),
     field 2 "lifetime" ("Lifetime::" ++ s.lifetime.name),
     field 2 "interfaces" (references s.interfaces),
     field 2 "keys" (literals s.keys),
     field 2 "arguments" (arguments s.construction),
     field 2 "proxy" (optional literal ((p.proxyFor? s.name).map (·.name)))]

/-- The entry of a factory. -/
def factoryLines (o : Options) (f : Factory) : List String :=
  breadcrumbs o.breadcrumbs f.moduleName f.product f.location (some f.construction) ++
  recordLines 1 "FactoryRegistration"
    [field 2 "factory" (literal f.name),
     field 2 "product" (literal f.product),
     field 2 "lifetime" ("Lifetime::" ++ f.lifetime.name),
     field 2 "interfaces" (references f.interfaces),
     field 2 "arguments" (arguments f.construction)]

/-- The line of an intercepted method. -/
def methodLine (m : ProxiedMethod) : String :=
  line 3 <|
    inlineRecord "ProxiedMethod"
      [("name", literal m.name),
       ("interceptors", references (m.interceptors.map (·.interceptor)))] ++ ","

/-- The entry of a proxy. -/
def proxyLines (o : Options) (p : Proxy) : List String :=
  breadcrumbs o.breadcrumbs p.moduleName p.service p.location none ++
  recordLines 1 "ProxyRegistration"
    ([field 2 "proxy" (literal p.name),
      field 2 "service" (literal p.service),
      field 2 "interfaces" (references p.interfaces),
      line 2 "methods: &["] ++
     p.methods.map methodLine ++
     [line 2 "],"])

/-- The tables of services, factories and proxies. -/
def serviceRegistry (o : Options) (p : Plan) : List String :=
  table "SERVICES" "Registration" (p.services.flatMap (serviceLines o p)) ++ [""] ++
  table "FACTORIES" "FactoryRegistration" (p.factories.flatMap (factoryLines o)) ++ [""] ++
  table "PROXIES" "ProxyRegistration" (p.proxies.flatMap (proxyLines o))

/-! ## Plugins -/

/-- The entry of a plugin. -/
def pluginLines (o : Options) (p : Plugin) : List String :=
  breadcrumbs o.breadcrumbs p.moduleName p.name p.location none ++
  recordLines 1 "PluginRegistration"
    [field 2 "implementation" (literal p.name),
     field 2 "interfaces" (references p.interfaces),
     field 2 "markers" (literals p.markers),
     field 2 "order" (optional (fun n : Int32 => toString n.toInt) p.order)]

/-- The table of plugins. -/
def pluginRegistry (o : Options) (p : Plan) : List String :=
  table "PLUGINS" "PluginRegistration" (p.plugins.flatMap (pluginLines o))

/-! ## Decorators -/

/-- The line of one decorator of a chain. -/
def layerLine (l : Layer) : String :=
  line 3 <|
    inlineRecord "Decorator"
      [("ty", literal l.decorator.text),
       ("position", toString l.position),
       ("order", toString l.order.toInt),
       ("synthesized", flag l.synthesized),
       ("arguments", arguments l.construction)] ++ ","

/-- The entry of a chain, behind a comment that shows how it nests. -/
def chainLines (c : Chain) : List String :=
  line 1 ("// " ++ c.target.text ++ ": " ++
    " -> ".intercalate (c.outermostFirst.map TypeRef.text) ++ " -> implementation") ::
  recordLines 1 "DecoratorChain"
    ([field 2 "target" (literal c.target.text),
      field 2 "implementations" (literals c.implementations),
      line 2 "decorators: &["] ++
     c.layers.map layerLine ++
     [line 2 "],"])

/-- The table of chains. -/
def decoratorApplication (p : Plan) : List String :=
  table "DECORATOR_CHAINS" "DecoratorChain" (p.chains.flatMap chainLines)

/-! ## Configuration -/

/-- What a property record says of the property itself: all but its coercion. -/
def propertyHead (path : String) (property : BoundProperty) : String :=
  "Property \x7b name: " ++ literal property.name ++ ", path: " ++ literal path ++
    ", nullable: " ++ flag property.nullable ++ ", init_only: " ++ flag property.initOnly ++
    ", coercion: "

/-- The path of a property in a section. -/
def propertyPath (path : String) (property : BoundProperty) : String :=
  path ++ ":" ++ property.name

mutual

/-- The coercion of a property behind the head of its record, to the end of the record. A class
    has the records of its properties on lines of their own, one level further in. -/
def coercionLines (level : Nat) (path head : String) : Coercion → List String
  | .passthrough => [line level (head ++ "Coercion::Passthrough \x7d,")]
  | .numeric type => [line level (head ++ "Coercion::Numeric(" ++ literal type ++ ") \x7d,")]
  | .boolean => [line level (head ++ "Coercion::Boolean \x7d,")]
  | .temporal type => [line level (head ++ "Coercion::Temporal(" ++ literal type ++ ") \x7d,")]
  | .guid => [line level (head ++ "Coercion::Guid \x7d,")]
  | .enum type members =>
    [line level
      (head ++ "Coercion::Enum(" ++ literal type ++ ", " ++ literals members ++ ") \x7d,")]
  | .nested type properties =>
    line level (head ++ "Coercion::Nested(" ++ literal type ++ ", &[") ::
      propertyLines (level + 1) path properties ++ [line level "]) \x7d,"]

/-- The records of the properties of a section. -/
def propertyLines (level : Nat) (path : String) : List BoundProperty → List String
  | [] => []
  | ⟨name, type, nullable, initOnly, coercion⟩ :: rest =>
    let property : BoundProperty := ⟨name, type, nullable, initOnly, coercion⟩
    coercionLines level (propertyPath path property)
      (propertyHead (propertyPath path property) property) coercion ++
    propertyLines level path rest

end

/-- How the values of a binding are validated. -/
def validation (b : Binding) : String :=
  if b.validateOnStart then
    "Validation::OnStart(" ++ optional (fun
      | Validator.external type => "Validator::Type(" ++ literal type.text ++ ")"
      | Validator.method name => "Validator::Method(" ++ literal name ++ ")") b.validator ++ ")"
  else "Validation::None"

/-- The statement that binds a section. -/
def bindingStatement (mode : BindingMode) (b : Binding) : List String :=
  match mode with
  | .reflective =>
    [line 1 ("binder.bind_reflective(" ++ ", ".intercalate
      [literal b.boundType, literal b.path, optional literal b.instanceName, validation b] ++
      ");")]
  | .generated =>
    [line 1 "binder.bind(&Binding \x7b",
     field 2 "ty" (literal b.boundType),
     field 2 "section" (literal b.path),
     field 2 "name" (optional literal b.instanceName),
     field 2 "validation" (validation b),
     field 2 "generated_constructor" (flag b.needsConstructor),
     line 2 "properties: &["] ++
    propertyLines 3 b.path b.properties ++
    [line 2 "],", line 1 "\x7d);"]

/-- The routine that binds the configuration. -/
def configurationBinding (o : Options) (p : Plan) : List String :=
  "pub fn bind_configuration(binder: &mut dyn ConfigurationBinder) \x7b" ::
  p.bindings.flatMap (fun b =>
    breadcrumbs o.breadcrumbs b.moduleName b.boundType b.location none ++
    bindingStatement p.mode b) ++
  ["\x7d"]

/-! ## Bootstrap -/

/-- The list of modules and the routine that loads them. -/
def bootstrap (p : Plan) : List String :=
  ["pub static BOOTSTRAP_MODULES: &[&str] = " ++ literals p.bootstrap ++ ";",
   "",
   "pub fn bootstrap(loader: &mut dyn ModuleLoader) \x7b"] ++
  p.bootstrap.map (fun name => line 1 ("loader.force_load(" ++ literal name ++ ");")) ++
  ["\x7d"]

/-! ## Whole artifacts -/

/-- A line of the report as a comment. -/
def comment (text : String) : String := if text.isEmpty then "//" else "// " ++ text

/-- The comments at the head of an artifact. -/
def banner (p : Plan) (kind : Kind) : List String :=
  ["// <auto-generated> " ++ kind.name ++ " for module " ++ p.current,
   "// Generated at build time; do not edit.",
   ""]

/-- What generated code refers to. -/
def imports : List String :=
  ["#[allow(unused_imports)]", "use ferrous_di::generated::*;", ""]

/-- The lines below the head of an artifact. -/
def body (o : Options) (p : Plan) : Kind → List String
  | .services => imports ++ serviceRegistry o p
  | .plugins => imports ++ pluginRegistry o p
  | .decorators => imports ++ decoratorApplication p
  | .configuration => imports ++ configurationBinding o p
  | .bootstrap => imports ++ bootstrap p
  | .report => (Text.lines (Report.ofPlan o p).toText).map comment

/-- The source of a kind. -/
def text (o : Options) (p : Plan) (kind : Kind) : String :=
  Text.unlines (banner p kind ++ body o p kind)

end Wiring.Artifact.Source
