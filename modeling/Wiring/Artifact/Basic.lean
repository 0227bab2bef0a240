/-
  Wiring.Artifact.Basic

  Artifacts: the texts that a build produces, each under a file name.
-/

namespace Wiring

namespace Artifact

/-- What an artifact holds. -/
inductive Kind where
  /-- Services, factories and proxies. -/
  | services
  | plugins
  | decorators
  | configuration
  /-- The modules that are loaded at the start. -/
  | bootstrap
  | report
deriving DecidableEq

/-- The kinds that every build produces, in the order of production. -/
def Kind.core : List Kind := [.services, .plugins, .decorators, .configuration, .bootstrap]

/-- The name of a kind. -/
def Kind.name : Kind → String
  | .services => "ServiceRegistry"
  | .plugins => "PluginRegistry"
  | .decorators => "DecoratorApplication"
  | .configuration => "ConfigurationBinding"
  | .bootstrap => "Bootstrap"
  | .report => "DiagnosticReport"

/-- How an artifact is written. -/
inductive Format where
  /-- Registration source. -/
  | source
  | json
  | yaml
deriving DecidableEq

/-- The ending of the file name. -/
def Format.extension : Format → String
  | .source => "g.rs"
  | .json => "json"
  | .yaml => "yaml"

end Artifact

/-- An artifact. -/
structure Artifact where
  kind : Artifact.Kind
  /-- The name of its file. -/
  name : String
  contents : String
deriving DecidableEq

/-- An artifact under the name that its kind and format give. -/
def Artifact.of (kind : Kind) (format : Format) (contents : String) : Artifact :=
  ⟨kind, kind.name ++ "." ++ format.extension, contents⟩

end Wiring
