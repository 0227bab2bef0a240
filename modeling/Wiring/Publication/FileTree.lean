/-
  Wiring.Publication.FileTree

  The files below and around the working directory, as far as a build can see and change them.
  A path is read step by step: an empty step and a dot stay, two dots go up, and a name goes into
  a folder that is there.
-/

import Wiring.Listing.Distinct
import Wiring.Text.Replace

namespace Wiring

/-- A place as the names on the way from the working directory; places outside of it start with
    the steps that lead up. -/
abbrev Place := List String

namespace Place

/-- The step that leads up. -/
def upward : String := ".."

/-- The working directory, or a folder around it. -/
def isAround (p : Place) : Bool := p.all (· == upward)

/-- The folder that a place lies in. -/
def up (p : Place) : Place := if isAround p then upward :: p else p.dropLast

/-- Whether a place lies below the working directory. -/
def isInside (p : Place) : Bool := p.head? != some upward

/-- A place as text. -/
def text (p : Place) : String := "/".intercalate p

/-- The steps of a path. -/
def steps (path : String) : List String :=
  (Text.splitAtMarks (· == '/') path.toList).map String.ofList

/-- Whether a step stays where it is. -/
def stays (step : String) : Bool := step.isEmpty || step == "."

/-- Whether a step can be the name of a file or folder: names have at most 255 bytes. -/
def isName (step : String) : Bool :=
  !stays step && step != upward && step.utf8ByteSize ≤ 255

/-- The number of bytes that a path may have. -/
def sizeLimit : Nat := 4095

/-- Whether a text can be a path at all. -/
def isPath (path : String) : Bool :=
  !path.toList.contains '\x00' && path.utf8ByteSize ≤ sizeLimit

/-- Whether a file can be drafted beside its place. The draft has a name of ten bytes in the same
    folder, and its path counts from the top of the file system, with fifteen bytes for the
    working directory and two slashes. -/
def hasRoom (path : String) : Bool :=
  let folder := ((steps path).dropLast.reverse.dropWhile stays).reverse
  (text folder).utf8ByteSize + 27 ≤ sizeLimit

end Place

/-- Folders and files. -/
structure FileTree where
  /-- The folders that have been made. -/
  folders : List Place := []
  /-- The files with their contents, each place once. -/
  files : List (Place × String) := []

namespace FileTree

/-- Whether a place is a folder. -/
def isFolder (t : FileTree) (p : Place) : Bool := p.isAround || t.folders.contains p

/-- The contents of the file in a place. -/
def contents? (t : FileTree) (p : Place) : Option String := t.files.lookup p

/-- Takes one step from a folder to a folder. -/
def enter (t : FileTree) (here : Place) (step : String) : Option Place :=
  if Place.stays step then some here
  else if step == Place.upward then some here.up
  else if t.isFolder (here ++ [step]) then some (here ++ [step])
  else none

/-- The folder to which steps from the working directory lead. -/
def walk (t : FileTree) (steps : List String) : Option Place := steps.foldlM t.enter []

/-- The place that a path names: a name in a folder that is there. -/
def locate (t : FileTree) (path : String) : Option Place :=
  let steps := Place.steps path
  match steps.getLast? with
  | some name =>
    if Place.isPath path && Place.isName name then
      (t.walk steps.dropLast).map fun folder => folder ++ [name]
    else none
  | none => none

/-- The text of the file at a path. -/
def read (t : FileTree) (path : String) : Option String := (t.locate path).bind t.contents?

/-- Puts contents into a place, instead of those that are there. -/
def put (t : FileTree) (p : Place) (contents : String) : FileTree :=
  { t with files := (p, contents) :: t.files.filter fun file => file.1 != p }

/-- Writes a file as a whole, in place of an old one; `none` where the folder is missing, the path
    names a folder, or there is no room for a draft. -/
def write (t : FileTree) (path contents : String) : Option FileTree :=
  match t.locate path with
  | some p => if t.isFolder p || !Place.hasRoom path then none else some (t.put p contents)
  | none => none

/-! ## Making folders -/

/-- Follows steps from a folder and makes the folders that are missing. Where a step cannot be
    made the folders made so far stay, and the answer is no. -/
def makeFrom (t : FileTree) (here : Place) : List String → FileTree × Bool
  | [] => (t, true)
  | step :: rest =>
    match t.enter here step with
    | some next => makeFrom t next rest
    | none =>
      let place := here ++ [step]
      if Place.isName step && (t.contents? place).isNone then
        makeFrom { t with folders := place :: t.folders } place rest
      else (t, false)

/-- Makes the folder of a path and those around it. A path that ends in a dot names a folder that
    has to be there; only those around it are made. -/
def makeFolder (t : FileTree) (path : String) : FileTree × Bool :=
  let steps := (Place.steps path).filter fun step => !step.isEmpty
  if !Place.isPath path then (t, false)
  else if steps.getLast? == some "." then
    let named := steps.filter fun step => !Place.stays step
    let (made, done) := t.makeFrom [] named.dropLast
    (made, done && (made.walk named).isSome)
  else t.makeFrom [] steps

/-- The files below the working directory, by path. -/
def paths (t : FileTree) : List String :=
  ((t.files.filter fun file => file.1.isInside).map fun file => file.1.text).sortBy compare

end FileTree
end Wiring
