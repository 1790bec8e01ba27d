import Patchwork.Span

/-! # Faults

Everything an operation on spans, fragments, pieces and arenas can refuse, with
the values that its wording needs, and that wording. Messages call a piece a chunk.
-/
namespace Patchwork

inductive Fault
  | offsetOutOfRange (offset cap : Int)
  | textTooLong (length : Nat) (cap : Int)
  | emptyRange (start stop : Int)
  /-- A length that does not fit a signed 64-bit word. -/
  | lengthOverflow
  | spanPastEnd (span : Span) (length : Nat)
  | alreadyEdited (span : Span)
  | offsetNotInside (offset : Int) (span : Span)
  | noSuchSlot (index : Int) (size : Nat)
  | endlessChain (head : Int)
  /-- A read from a queue that was changed after the reading began. -/
  | queueChanged
deriving DecidableEq

def Fault.message : Fault → String
  | offsetOutOfRange offset cap => s!"Offset {offset} is outside the supported range 0..{cap}"
  | textTooLong length cap => s!"Text of length {length} exceeds the maximum of {cap}"
  | emptyRange start stop => s!"Span requires start < end, got [{start}, {stop})"
  | lengthOverflow => "cannot fit 'int' into an index-sized integer"
  | spanPastEnd span length => s!"Span {span.brackets} exceeds source of length {length}"
  | alreadyEdited span => s!"Cannot split chunk {span.brackets} after it has been edited"
  | offsetNotInside offset span =>
    s!"Split offset {offset} is not strictly inside chunk {span.brackets}"
  | noSuchSlot index size => s!"Chunk index {index} is out of range for an arena of {size} chunks"
  | endlessChain head => s!"Chunk chain starting at {head} does not terminate"
  | queueChanged => "deque mutated during iteration"

end Patchwork
