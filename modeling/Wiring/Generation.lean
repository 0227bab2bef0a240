/-
  Wiring.Generation

  One pass: a graph is planned, and the plan is rendered as artifacts.
-/

import Wiring.Artifact.Document
import Wiring.Artifact.Source
import Wiring.Plan.OfGraph

namespace Wiring

/-- How a plan is rendered. -/
inductive Renderer where
  | source
  | json
deriving DecidableEq

namespace Renderer

/-- The format of the artifacts. -/
def format : Renderer → Artifact.Format
  | .source => .source
  | .json => .json

/-- The contents of the artifact of a kind. -/
def contents : Renderer → Options → Plan → Artifact.Kind → String
  | .source => Artifact.Source.text
  | .json => Artifact.Document.text

/-- The artifact of a kind. -/
def artifact (r : Renderer) (o : Options) (p : Plan) (kind : Artifact.Kind) : Artifact :=
  .of kind r.format (r.contents o p kind)

/-- The kinds that a pass renders: the core ones, and the report if it is wanted. -/
def kinds (o : Options) : List Artifact.Kind :=
  Artifact.Kind.core ++ if o.diagnostics then [.report] else []

/-- The artifacts of a pass. -/
def artifacts (r : Renderer) (o : Options) (p : Plan) : List Artifact :=
  (kinds o).map (r.artifact o p)

end Renderer

/-- What a pass produces. -/
structure Generation where
  plan : Plan
  artifacts : List Artifact

namespace Generation

/-- Plans and renders. -/
def run (r : Renderer) (o : Options) (g : Graph) : Except Failure Generation := do
  let plan ← g.plan o
  return ⟨plan, r.artifacts o plan⟩

/-- The diagnostics of the pass, in order. -/
def diagnostics (g : Generation) : List Diagnostic := g.plan.diagnostics

/-- Whether the pass has reported an error. -/
def hasErrors (g : Generation) : Bool := g.diagnostics.any Diagnostic.isError

/-- The artifact of a kind. -/
def artifact? (g : Generation) (kind : Artifact.Kind) : Option Artifact :=
  g.artifacts.find? (·.kind == kind)

/-- The pass itself, or a failure with its errors where it has any. -/
def checked (g : Generation) : Except Failure Generation :=
  if g.hasErrors then .error (.errorsReported (g.diagnostics.filter Diagnostic.isError))
  else .ok g

end Generation
end Wiring
