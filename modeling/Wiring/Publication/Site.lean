/-
  Wiring.Publication.Site

  Where a build publishes: in memory or into a folder, beside the files that it writes otherwise.
-/

import Wiring.Generation
import Wiring.Publication.Folder

namespace Wiring

/-- Where artifacts go. -/
inductive Destination where
  | shelf (shelf : Shelf)
  | folder (folder : Folder)

/-- A destination and the files around it. -/
structure Site where
  destination : Destination := .shelf {}
  files : FileTree := {}

namespace Site

/-- Publishes an artifact. -/
def publish (s : Site) (a : Artifact) : Outcome Site Unit :=
  match s.destination with
  | .shelf shelf =>
    let (next, result) := shelf.publish a
    ({ s with destination := .shelf next }, result)
  | .folder folder =>
    let ((files, next), result) := s.files.publishInto folder a
    (⟨.folder next, files⟩, result)

/-- Writes a file. -/
def save (s : Site) (path contents : String) : Outcome Site Unit :=
  let (files, result) := s.files.save path contents
  ({ s with files }, result)

/-- Makes a folder the destination; where it cannot be made the old destination stays. -/
def openFolder (s : Site) (root : String) : Outcome Site Unit :=
  match s.files.openFolder root with
  | (files, .ok folder) => (⟨.folder folder, files⟩, .ok ())
  | (files, .error failure) => ({ s with files }, .error failure)

/-- The contents under a name: what the shelf holds, or the file in the folder. -/
def get (s : Site) (name : String) : Option String :=
  match s.destination with
  | .shelf shelf => shelf.get name
  | .folder folder => s.files.read (folder.pathOf name)

/-- Publishes the artifacts of a pass. -/
def publishRun (s : Site) (pass : Generation) : Outcome Site Unit :=
  publishAll publish s pass.artifacts

/-- Writes the report of a pass to the file that the options name. -/
def saveReport (s : Site) (o : Options) (pass : Generation) : Outcome Site Unit :=
  match o.diagnosticsPath, pass.artifact? .report with
  | some path, some report => s.save path report.contents
  | _, _ => (s, .ok ())

/-- Runs a pass and publishes it. -/
def runAndPublish (s : Site) (r : Renderer) (o : Options) (g : Graph) : Outcome Site Generation :=
  match Generation.run r o g with
  | .error failure => (s, .error failure)
  | .ok pass =>
    let (published, result) := s.publishRun pass
    (published, result.map fun _ => pass)

/-- Runs a pass, publishes it and writes its report. -/
def generate (s : Site) (r : Renderer) (o : Options) (g : Graph) : Outcome Site Generation :=
  match s.runAndPublish r o g with
  | (published, .error failure) => (published, .error failure)
  | (published, .ok pass) =>
    let (saved, result) := published.saveReport o pass
    (saved, result.map fun _ => pass)

end Site
end Wiring
