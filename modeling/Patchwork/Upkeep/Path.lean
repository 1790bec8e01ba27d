/-! # Relative paths

A path is the list of what stands between its slashes, as it is written: empty names for
repeated and final slashes, single points, double points. A plain path has no empty name
and no single point, which say nothing. A double point is kept in it, since what it means
depends on the file tree.
-/
namespace Patchwork.Upkeep

abbrev Path := List String

namespace Path

def ofText (text : String) : Path := text.splitOn "/"

def text (path : Path) : String :=
  match path with
  | [] => "."
  | _ => String.intercalate "/" path

def plain (path : Path) : Path := path.filter fun name => name != "" && name != "."

def trimmed (path : Path) : Path := (path.reverse.dropWhile fun name => name == "").reverse

/-- The path without what follows its last slash, and without slashes at its end. -/
def parent (path : Path) : Path := trimmed path.dropLast

theorem length_trimmed_le (path : Path) : path.trimmed.length ≤ path.length := by
  have shorter := (List.dropWhile_sublist (fun name => name == "") (l := path.reverse)).length_le
  simpa [trimmed] using shorter

theorem length_parent_lt {path : Path} (more : path.parent ≠ []) :
    path.parent.length < path.length := by
  have short := length_trimmed_le path.dropLast
  have inhabited : 0 < path.parent.length := List.length_pos_iff.mpr more
  simp only [parent, List.length_dropLast] at short inhabited ⊢
  omega

/-- A path with a slash at its end can only lead to a folder. -/
def asksFolder (path : Path) : Bool := path.getLast? == some ""

def nameLimit : Nat := 255

def textLimit : Nat := 4095

/-- No name of a file or folder holds the null character. -/
def holdsNull (path : Path) : Bool := path.any fun name => name.toList.contains '\x00'

end Path

end Patchwork.Upkeep
