import Patchwork.Fault

/-! # Kinds of fault

Faults fall under kinds and kinds under more general kinds, some under two at once. The
lineage of a kind lists it with everything more general. A kind comes before its parents,
and the parents of each kind keep their order.
-/
namespace Patchwork

inductive FaultKind
  | splice
  | textSize
  | invalidSpan
  | splitOffset
  | editedSplit
  | slotIndex
  | chainCycle
  | runtime
  | arithmetic
  | overflow
  | value
  | lookup
  | index
  | exception
  | baseException
  | anything
deriving DecidableEq

namespace FaultKind

def label : FaultKind → String
  | splice => "SpliceError"
  | textSize => "TextSizeError"
  | invalidSpan => "InvalidSpanError"
  | splitOffset => "SplitOffsetError"
  | editedSplit => "EditedChunkSplitError"
  | slotIndex => "ChunkIndexError"
  | chainCycle => "ChunkCycleError"
  | runtime => "RuntimeError"
  | arithmetic => "ArithmeticError"
  | overflow => "OverflowError"
  | value => "ValueError"
  | lookup => "LookupError"
  | index => "IndexError"
  | exception => "Exception"
  | baseException => "BaseException"
  | anything => "object"

def all : List FaultKind :=
  [splice, textSize, invalidSpan, splitOffset, editedSplit, slotIndex, chainCycle, runtime,
    arithmetic, overflow, value, lookup, index, exception, baseException, anything]

def parents : FaultKind → List FaultKind
  | splice => [runtime]
  | textSize => [splice, overflow]
  | invalidSpan => [splice, value]
  | splitOffset => [splice, value]
  | editedSplit => [splitOffset]
  | slotIndex => [splice, index]
  | chainCycle => [splice]
  | overflow => [arithmetic]
  | index => [lookup]
  | runtime | arithmetic | value | lookup => [exception]
  | exception => [baseException]
  | baseException => [anything]
  | anything => []

/-- Steps up to the most general kind, at most. -/
def height : FaultKind → Nat
  | editedSplit => 6
  | textSize | invalidSpan | splitOffset | slotIndex | chainCycle => 5
  | splice | overflow | index => 4
  | runtime | arithmetic | value | lookup => 3
  | exception => 2
  | baseException => 1
  | anything => 0

theorem height_lt_of_mem_parents {kind parent : FaultKind} (above : parent ∈ kind.parents) :
    parent.height < kind.height := by
  revert above
  cases kind <;> cases parent <;> decide

/-- The first head that stands behind nothing in any of the orders. -/
def nextHead (orders : List (List FaultKind)) : Option FaultKind :=
  (orders.filterMap List.head?).find? fun kind => orders.all fun order => kind ∉ order.tail

/-- One order that keeps all the given ones, with at most so many members. -/
def merge : Nat → List (List FaultKind) → List FaultKind
  | 0, _ => []
  | room + 1, orders =>
    match nextHead orders with
    | none => []
    | some kind =>
      kind :: merge room
        (orders.map fun order => if order.head? = some kind then order.tail else order)

def lineage (kind : FaultKind) : List FaultKind :=
  let above := kind.parents.attach.map fun parent => parent.1.lineage
  kind :: merge (above.flatten.length + kind.parents.length) (above ++ [kind.parents])
termination_by kind.height
decreasing_by exact height_lt_of_mem_parents parent.2

def ofLabel? (label : String) : Option FaultKind := all.find? fun kind => kind.label == label

theorem ofLabel?_label (kind : FaultKind) : ofLabel? kind.label = some kind := by
  cases kind <;> decide

end FaultKind

def Fault.kind : Fault → FaultKind
  | offsetOutOfRange .. | textTooLong .. => .textSize
  | lengthOverflow => .overflow
  | emptyRange .. | spanPastEnd .. => .invalidSpan
  | alreadyEdited .. => .editedSplit
  | offsetNotInside .. => .splitOffset
  | noSuchSlot .. => .slotIndex
  | endlessChain .. => .chainCycle
  | queueChanged => .runtime

end Patchwork
