import Patchwork.Text.Printable
import Patchwork.Text.Quoted
import Patchwork.Upkeep.Path

/-! # File trees

The files and folders below a working folder. A path is followed name by name through
folders that exist, a double point leading back to the folder above. The folders above the
working folder are there too, and nothing else in them is known. Names and paths are
limited in length.
-/
namespace Patchwork.Upkeep

inductive Entry
  | file
  | folder
deriving DecidableEq

inductive PathFault
  | missing (path : Path)
  | taken (path : Path)
  | notFolder (path : Path)
  | isFolder (path : Path)
  | tooLong (path : Path)
  | holdsNull
deriving DecidableEq

namespace PathFault

def label : PathFault → String
  | missing _ => "FileNotFoundError"
  | taken _ => "FileExistsError"
  | notFolder _ => "NotADirectoryError"
  | isFolder _ => "IsADirectoryError"
  | tooLong _ => "OSError"
  | holdsNull => "ValueError"

def message : PathFault → String
  | missing path => "[Errno 2] No such file or directory: " ++ quote isPrintable path.text
  | taken path => "[Errno 17] File exists: " ++ quote isPrintable path.text
  | notFolder path => "[Errno 20] Not a directory: " ++ quote isPrintable path.text
  | isFolder path => "[Errno 21] Is a directory: " ++ quote isPrintable path.text
  | tooLong path => "[Errno 36] File name too long: " ++ quote isPrintable path.text
  | holdsNull => "embedded null byte"

end PathFault

/-- A place is a path from the working folder on which double points come first. Places of
double points alone are the working folder and the folders above it. -/
def Path.isAbove (place : Path) : Bool := place.all fun name => name == ".."

def Path.climb (place : Path) : Path :=
  if place.isAbove then ".." :: place else place.dropLast

structure Tree where
  entries : List (Path × Entry) := []

namespace Tree

def entry? (tree : Tree) (place : Path) : Option Entry :=
  if place.isAbove then some .folder else tree.entries.lookup place

def insert (tree : Tree) (path : Path) (entry : Entry) : Tree :=
  { tree with entries := (path, entry) :: tree.entries }

def erase (tree : Tree) (path : Path) : Tree :=
  { tree with entries := tree.entries.filter fun stored => stored.1 != path }

/-- Where a path leads from a place. The last name itself need not exist. A name is measured
only once it is to be looked up in a folder. -/
def locateFrom (tree : Tree) (asked : Path) (place : Path) : Path → Except PathFault Path
  | [] => .ok place
  | "" :: rest => tree.locateFrom asked place rest
  | name :: rest =>
    match tree.entry? place with
    | none => .error (.missing asked)
    | some .file => .error (.notFolder asked)
    | some .folder =>
      if name = "." then tree.locateFrom asked place rest
      else if name = ".." then tree.locateFrom asked place.climb rest
      else if name.utf8ByteSize ≤ Path.nameLimit then tree.locateFrom asked (place ++ [name]) rest
      else .error (.tooLong asked)

/-- The path as a whole is checked before anything is looked up. -/
def locate (tree : Tree) (path : Path) : Except PathFault Path :=
  if path.holdsNull then .error .holdsNull
  else if path.text = "" then .error (.missing path)
  else if path.text.utf8ByteSize ≤ Path.textLimit then tree.locateFrom path [] path
  else .error (.tooLong path)

/-- Whether something is there. A path that leads nowhere leads to nothing, but whether
something is at the end of one that is too long cannot be told. -/
def has (tree : Tree) (path : Path) : Except PathFault Bool :=
  match tree.locate path with
  | .ok place => .ok (tree.entry? place).isSome
  | .error (.tooLong path) => .error (.tooLong path)
  | .error _ => .ok false

/-- A folder inside a folder that exists. One that is there already is accepted. -/
def makeFolder (tree : Tree) (path : Path) : Except PathFault Tree :=
  match tree.locate path with
  | .error fault => .error fault
  | .ok place =>
    match tree.entry? place with
    | some .folder => .ok tree
    | some .file => .error (.taken path)
    | none => .ok (tree.insert place .folder)

/-- An empty file in a folder that exists. One that is there already is accepted. -/
def makeFile (tree : Tree) (path : Path) : Except PathFault Tree :=
  match tree.locate path with
  | .error fault => .error fault
  | .ok place =>
    if path.asksFolder then .error (.isFolder path)
    else
      match tree.entry? place with
      | some .file => .ok tree
      | some .folder => .error (.isFolder path)
      | none => .ok (tree.insert place .file)

def removeFile (tree : Tree) (path : Path) : Except PathFault Tree :=
  match tree.locate path with
  | .error fault => .error fault
  | .ok place =>
    match tree.entry? place with
    | none => .error (.missing path)
    | some .folder => .error (.isFolder path)
    | some .file => if path.asksFolder then .error (.notFolder path) else .ok (tree.erase place)

/-- One line an entry, folders with a slash at the end, by rising code points. Entries above
the working folder are left out. -/
def listing (tree : Tree) : List String :=
  let below := tree.entries.filter fun stored => stored.1.head? != some ".."
  (below.map fun
    | (path, .file) => path.text
    | (path, .folder) => path.text ++ "/").mergeSort fun a b => decide (a ≤ b)

end Tree

/-- A tree after several changes, of which the last may have been refused. -/
structure Progress where
  tree : Tree
  fault : Option PathFault := none

namespace Progress

def change (tree : Tree) : Except PathFault Tree → Progress
  | .ok changed => { tree := changed }
  | .error fault => { tree, fault }

/-- Nothing is done after a refusal, and what was done before it stays. -/
def andThen (progress : Progress) (next : Tree → Progress) : Progress :=
  match progress.fault with
  | none => next progress.tree
  | some _ => progress

/-- A file in the place of a folder is no fault by itself: what is done next in that folder
tells. -/
def overlookFile (progress : Progress) : Progress :=
  match progress.fault with
  | some (.taken _) => { tree := progress.tree }
  | _ => progress

end Progress

namespace Tree

/-- A folder with the missing folders on the way to it, from the outermost inwards. A folder
out of reach counts as missing, and the first one that cannot be made says why. A single
point at the end is taken to be made with the folder it stands in. -/
def makeFolders (tree : Tree) (path : Path) : Progress :=
  if _ : path.trimmed.parent = [] then .change tree (tree.makeFolder path)
  else
    match tree.has path.trimmed.parent with
    | .ok true => .change tree (tree.makeFolder path)
    | _ =>
      (tree.makeFolders path.trimmed.parent).overlookFile.andThen fun tree =>
        if path.trimmed.getLast? = some "." then { tree }
        else .change tree (tree.makeFolder path)
termination_by path.length
decreasing_by
  exact Nat.lt_of_lt_of_le (Path.length_parent_lt ‹path.trimmed.parent ≠ []›)
    (Path.length_trimmed_le path)

def touch (tree : Tree) (path : Path) : Progress :=
  (tree.makeFolders path.parent).andThen fun tree => .change tree (tree.makeFile path)

end Tree

end Patchwork.Upkeep
