/-! # Written forms of plain values

How flags, absent values and sequences stand in messages and printed forms.
-/
namespace Patchwork

def writeFlag (flag : Bool) : String := if flag then "True" else "False"

def writeOptional {α : Type} (write : α → String) : Option α → String
  | none => "None"
  | some value => write value

def writeSequence (members : List String) : String :=
  "deque([" ++ String.intercalate ", " members ++ "])"

end Patchwork
