/-
  Wiring.Artifact.Document

  Artifacts as JSON documents, with the fields of every object in the order of their names.
-/

import Wiring.Artifact.Basic
import Wiring.Plan.Json
import Wiring.Report

namespace Wiring.Artifact.Document

/-- A service with the keys of its registration, and with its proxy. -/
def service (p : Plan) (s : Service) : Json :=
  .object <|
    s.jsonFields ++
    [("registration_keys", .texts (s.registrationKeys.map RegistrationKey.text))] ++
    Json.fieldOf "proxy" (fun proxy : Proxy => .text proxy.name) (p.proxyFor? s.name)

/-- The fields that a kind has besides those of all documents. -/
def fields (o : Options) (p : Plan) : Kind → List (String × Json)
  | .services =>
    [("services", .array (p.services.map (service p))),
     ("factories", .array (p.factories.map Factory.toJson)),
     ("intercepted", .array (p.proxies.map Proxy.toJson))]
  | .plugins => [("plugins", .array (p.plugins.map Plugin.toJson))]
  | .decorators => [("chains", .array (p.chains.map Chain.toJson))]
  | .configuration =>
    [("mode", p.mode.toJson), ("bindings", .array (p.bindings.map Binding.toJson))]
  | .bootstrap => [("modules", .texts p.bootstrap)]
  | .report => [("report", (Report.ofPlan o p).toJson)]

/-- The document of a kind. -/
def of (o : Options) (p : Plan) (kind : Kind) : Json :=
  Json.sorted <| .object <|
    [("artifact", .text kind.name), ("module", .text p.current)] ++ fields o p kind

/-- The text of a document, with a line feed at its end. -/
def text (o : Options) (p : Plan) (kind : Kind) : String := (of o p kind).pretty ++ "\n"

end Wiring.Artifact.Document
