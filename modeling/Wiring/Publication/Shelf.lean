/-
  Wiring.Publication.Shelf

  Publishing artifacts in memory, and publishing several in a row. A name is published at most
  once.
-/

import Wiring.Artifact.Basic
import Wiring.Failure

namespace Wiring

/-- A place for artifacts, and what comes of a step: the place afterwards, and a result. -/
abbrev Outcome (σ α : Type) := σ × Except Failure α

/-- Publishes artifacts one after the other, up to the first that fails. -/
def publishAll {σ : Type} (publish : σ → Artifact → Outcome σ Unit) (s : σ) :
    List Artifact → Outcome σ Unit
  | [] => (s, .ok ())
  | a :: rest =>
    match publish s a with
    | (next, .ok ()) => publishAll publish next rest
    | (next, .error failure) => (next, .error failure)

/-- Artifacts that are kept in memory. -/
structure Shelf where
  /-- Last published first. -/
  artifacts : List Artifact := []
deriving DecidableEq

namespace Shelf

/-- The artifact of a name. -/
def find? (s : Shelf) (name : String) : Option Artifact := s.artifacts.find? (·.name == name)

/-- The contents that are published under a name. -/
def get (s : Shelf) (name : String) : Option String := (s.find? name).map (·.contents)

/-- The names that are published, in order. -/
def names (s : Shelf) : List String := (s.artifacts.map (·.name)).sortBy compare

/-- The number of artifacts. -/
def size (s : Shelf) : Nat := s.artifacts.length

/-- Whether nothing has been published. -/
def isEmpty (s : Shelf) : Bool := s.artifacts.isEmpty

/-- Publishes an artifact, unless its name is taken. -/
def publish (s : Shelf) (a : Artifact) : Outcome Shelf Unit :=
  if (s.find? a.name).isSome then (s, .error (.duplicateArtifact a.name))
  else (⟨a :: s.artifacts⟩, .ok ())

end Shelf
end Wiring
