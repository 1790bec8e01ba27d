import Patchwork.Cursor.Reading

/-! # Cursors

The four kinds of cursor under one type, and pulling several items at a time. A batch
ends early when the cursor stops or fails. A cursor that has given exactly the number
asked for is not asked whether it would stop.
-/
namespace Patchwork

inductive Cursor
  | walk (walk : Walk)
  | listing (listing : Listing)
  | parts (parts : List Part)
  | output (reading : OutputReading)

/-- What a cursor gives out. Spans are those at the moment of the pull. -/
inductive Item
  | slot (index : Nat) (span : Span)
  | span (span : Span)
  | text (text : String)

def Cursor.next (store : Store) : Cursor → Pull Item × Cursor
  | .walk current =>
    let (pull, later) := current.next store
    (pull.map fun step => .slot step.1 (store.stored step.2).span, .walk later)
  | .listing current =>
    let (pull, later) := current.next store
    (pull.map fun piece => .span (store.stored piece).span, .listing later)
  | .parts current =>
    let (pull, later) := Part.next store current
    (pull.map .text, .parts later)
  | .output current =>
    let (pull, later) := current.next store
    (pull.map .text, .output later)

inductive Ending
  | filled
  | stopped
  | failed (fault : Fault)
deriving DecidableEq

structure Batch where
  items : List Item
  ending : Ending

namespace Batch

def cons (item : Item) (rest : Batch) : Batch := ⟨item :: rest.items, rest.ending⟩

def ofDelivery {α : Type} (item : α → Item) (delivery : Delivery α) : Batch :=
  ⟨delivery.items.map item,
    match delivery.fault with
    | some fault => .failed fault
    | none => .stopped⟩

end Batch

def Cursor.pull (store : Store) : Nat → Cursor → Batch × Cursor
  | 0, cursor => (⟨[], .filled⟩, cursor)
  | count + 1, cursor =>
    match cursor.next store with
    | (.stop, later) => (⟨[], .stopped⟩, later)
    | (.fault fault, later) => (⟨[], .failed fault⟩, later)
    | (.item item, later) =>
      let (batch, last) := later.pull store count
      (batch.cons item, last)

end Patchwork
