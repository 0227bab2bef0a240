/-
  Wiring.Publication.Folder

  Publishing artifacts as files below a folder.
-/

import Wiring.Publication.FileTree
import Wiring.Publication.Shelf

namespace Wiring

/-- A folder into which artifacts are published. -/
structure Folder where
  /-- The path of the folder as it was given. -/
  root : String
  /-- The names that have been used up, last one first. -/
  used : List String := []
deriving DecidableEq

namespace Folder

/-- The path of a file in the folder. A path that starts at the top of the file system is taken
    as it is. -/
def pathOf (f : Folder) (name : String) : String :=
  if name.toList.head? == some '/' then name
  else if f.root.isEmpty || f.root.toList.getLast? == some '/' then f.root ++ name
  else f.root ++ "/" ++ name

/-- Publishes under a name, given the files before and what comes of writing one more. The name is
    used up even where the file cannot be written. -/
def publishWith {σ : Type} (f : Folder) (name : String) (before : σ) (written : Outcome σ Unit) :
    Outcome (σ × Folder) Unit :=
  if f.used.contains name then ((before, f), .error (.duplicateArtifact name))
  else ((written.1, { f with used := name :: f.used }), written.2)

end Folder

namespace FileTree

/-- Writes a file, or says which path cannot be written. -/
def save (t : FileTree) (path contents : String) : Outcome FileTree Unit :=
  match t.write path contents with
  | some next => (next, .ok ())
  | none => (t, .error (.unwritable path))

/-- Publishes an artifact as a file of a folder. -/
def publishInto (t : FileTree) (f : Folder) (a : Artifact) : Outcome (FileTree × Folder) Unit :=
  f.publishWith a.name t (t.save (f.pathOf a.name) a.contents)

/-- Makes a folder to publish into. -/
def openFolder (t : FileTree) (root : String) : Outcome FileTree Folder :=
  let (made, done) := t.makeFolder root
  (made, if done then .ok { root } else .error (.unwritable root))

end FileTree
end Wiring
