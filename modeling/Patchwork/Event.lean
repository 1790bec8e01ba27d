import Patchwork.EditPolicy
import Patchwork.Span
import Patchwork.Text.Written

/-! # Debug records

What an arena or a piece reports about a change it has completed.
-/
namespace Patchwork

inductive Event
  | pushed (slot : Nat) (span : Span)
  | divided (slot : Nat) (offset : Nat) (newSlot : Nat)
  | edited (span : Span) (policy : EditPolicy)
deriving DecidableEq

def Event.message : Event → String
  | pushed slot span => s!"Pushed chunk {slot} spanning {span.brackets}"
  | divided slot offset newSlot => s!"Split chunk {slot} at {offset} into {newSlot}"
  | edited span policy =>
    s!"Edited chunk {span.brackets} overwrite={writeFlag policy.overwrite} " ++
      s!"store_name={writeFlag policy.storeName}"

end Patchwork
