/-
  Wiring.Interception

  Interception: a service whose methods have interceptors is registered through a generated proxy,
  which implements the interfaces of the service and runs the interceptors around each method.
-/

import Wiring.Declaration.Json
import Wiring.Diagnostic.Basic

namespace Wiring

open Json.Read (record list orNull)

/-- An interceptor with its place. -/
structure InterceptorUse where
  interceptor : TypeRef
  order : Int32
deriving DecidableEq

/-- A method with the interceptors around it, outermost first. -/
structure ProxiedMethod where
  name : String
  interceptors : List InterceptorUse
deriving DecidableEq

/-- A proxy that is generated for a service. -/
structure Proxy where
  service : String
  moduleName : String
  /-- The qualified name of the proxy itself. -/
  name : String
  interfaces : List TypeRef
  methods : List ProxiedMethod
  location : Option SourceLocation := none
deriving DecidableEq

/-! ## Planning -/

/-- The interceptor that a marker asks for. -/
def Marker.interceptor? : Marker → Option InterceptorUse
  | .intercept interceptor place => some ⟨interceptor, place⟩
  | _ => none

namespace InterceptorUse

/-- Outer interceptors before inner ones: by their place, then by their text. -/
def outerFirst : InterceptorUse → InterceptorUse → Ordering :=
  compareLex (compareOn (·.order.toInt)) (compareOn (·.interceptor.text))

/-- Interceptors from the outside, each once. -/
def outermostFirst (uses : List InterceptorUse) : List InterceptorUse :=
  (uses.sortBy outerFirst).distinctOn (·.interceptor)

end InterceptorUse

namespace Declaration

/-- The interceptors of a method: those of the type, then its own. -/
def interceptorsOf (d : Declaration) (m : Method) : List InterceptorUse :=
  (d.markers ++ m.markers).filterMap Marker.interceptor?

/-- Whether the type or one of its methods asks for an interceptor. -/
def hasInterceptors (d : Declaration) : Bool :=
  d.markers.any (·.interceptor?.isSome) ||
    d.methods.any fun m => m.markers.any (·.interceptor?.isSome)

/-- The methods that a proxy runs interceptors around: public ones of an instance that have any. -/
def interceptedMethods (d : Declaration) : List Method :=
  d.methods.filter fun m =>
    m.accessibility == .anyone && !m.isStatic && !(d.interceptorsOf m).isEmpty

/-- The method as a proxy runs it. -/
def proxiedMethod (d : Declaration) (m : Method) : ProxiedMethod :=
  ⟨m.name, InterceptorUse.outermostFirst (d.interceptorsOf m)⟩

/-- The proxy of a service, where it has intercepted methods and an interface to proxy. -/
def proxy? (d : Declaration) (interfaces : List TypeRef) : Option Proxy :=
  if d.interceptedMethods.isEmpty || interfaces.isEmpty then none
  else
    some {
      service := d.name
      moduleName := d.moduleName
      name := QualifiedName.beside d.name "Proxy"
      interfaces
      methods := d.interceptedMethods.map d.proxiedMethod
      location := d.location }

/-- The diagnostic for intercepted methods without an interface to proxy. -/
def proxyDiagnostics (d : Declaration) (interfaces : List TypeRef) : List Diagnostic :=
  if !d.interceptedMethods.isEmpty && interfaces.isEmpty then
    [.about d .interceptedWithoutInterface [d.name]]
  else []

end Declaration

/-! ## JSON -/

namespace InterceptorUse

/-- An interceptor with its place as JSON. -/
def toJson (i : InterceptorUse) : Json :=
  .object [("interceptor", i.interceptor.toJson), ("order", .number i.order.toInt)]

/-- Reads an interceptor with its place. -/
def read (scope : Json.Scope) : Json.Reader InterceptorUse :=
  record scope "struct InterceptorRef" ["interceptor", "order"] fun r =>
    InterceptorUse.mk <$> r.required "interceptor" (TypeRef.read scope.inner)
      <*> r.required "order" Json.Read.int32

end InterceptorUse

namespace ProxiedMethod

/-- An intercepted method as JSON. -/
def toJson (m : ProxiedMethod) : Json :=
  .object [("name", .text m.name),
    ("interceptors", .array (m.interceptors.map InterceptorUse.toJson))]

/-- Reads an intercepted method. -/
def read (scope : Json.Scope) : Json.Reader ProxiedMethod :=
  record scope "struct InterceptedMethod" ["name", "interceptors"] fun r =>
    ProxiedMethod.mk <$> r.required "name" Json.Read.text
      <*> r.required "interceptors" (list scope.inner (InterceptorUse.read scope.inner.inner))

end ProxiedMethod

namespace Proxy

/-- A proxy as JSON. -/
def toJson (p : Proxy) : Json :=
  .object <|
    [("service", .text p.service), ("module", .text p.moduleName), ("proxy_name", .text p.name),
      ("interfaces", .array (p.interfaces.map TypeRef.toJson)),
      ("methods", .array (p.methods.map ProxiedMethod.toJson))] ++
    Json.fieldOf "location" SourceLocation.toJson p.location

/-- Reads a proxy. -/
def read (scope : Json.Scope) : Json.Reader Proxy :=
  record scope "struct InterceptedService"
      ["service", "module", "proxy_name", "interfaces", "methods", "location"] fun r =>
    Proxy.mk <$> r.required "service" Json.Read.text
      <*> r.required "module" Json.Read.text
      <*> r.required "proxy_name" Json.Read.text
      <*> r.required "interfaces" (list scope.inner (TypeRef.read scope.inner.inner))
      <*> r.required "methods" (list scope.inner (ProxiedMethod.read scope.inner.inner))
      <*> r.optional "location" none (orNull (SourceLocation.read scope.inner))

end Proxy
end Wiring
