import Patchwork.Cursor.Walk

/-! # Reading pieces lazily

What a piece shows is read in parts. The content is fixed when the reading begins. The
two queues are watched: a part that finds its queue changed since then gives a fault in
place of its rest, and the reading goes on with the part after it.
-/
namespace Patchwork

inductive Part
  | text (text : String)
  | queue (queue : Nat) (revision : Nat) (rest : List Fragment)

namespace Part

def watch (store : Store) (queue : Nat) : Part :=
  .queue queue (store.queue queue).revision (store.queue queue).items

/-- The parts of a piece: intro, content, outro. Only the content can be refused. -/
def ofPiece (store : Store) (piece : Nat) (source : String) : Except Fault (List Part) :=
  ((store.stored piece).content source).map fun content =>
    [watch store (store.stored piece).intro, .text content, watch store (store.stored piece).outro]

/-- A changed queue is noticed before its end is. -/
def next (store : Store) : List Part → Pull String × List Part
  | [] => (.stop, [])
  | .text shown :: parts => (.item shown, parts)
  | .queue watched revision rest :: parts =>
    if (store.queue watched).revision = revision then
      match rest with
      | fragment :: rest => (.item fragment.text, .queue watched revision rest :: parts)
      | [] => next store parts
    else (.fault .queueChanged, parts)

end Part

/-- A reading of everything that the pieces on a walk show. The parts are those of the
piece the walk gave out last. -/
structure OutputReading where
  walk : Walk
  source : String
  parts : List Part := []

namespace OutputReading

def close (reading : OutputReading) : OutputReading :=
  { reading with walk := reading.walk.close, parts := [] }

/-- When the parts are used up, the walk goes on and its next piece is opened. Whatever
fails ends the reading as a whole. -/
def next (reading : OutputReading) (store : Store) : Pull String × OutputReading :=
  match Part.next store reading.parts with
  | (.item text, parts) => (.item text, { reading with parts })
  | (.fault fault, _) => (.fault fault, reading.close)
  | (.stop, _) =>
    match reading.walk.next store with
    | (.stop, _) => (.stop, reading.close)
    | (.fault fault, _) => (.fault fault, reading.close)
    | (.item (_, piece), walk) =>
      match Part.ofPiece store piece reading.source with
      | .error fault => (.fault fault, reading.close)
      | .ok opened =>
        match Part.next store opened with
        | (.item text, parts) => (.item text, { reading with walk, parts })
        | (.fault fault, _) => (.fault fault, reading.close)
        | (.stop, _) => (.stop, reading.close)

@[simp] theorem next_close (reading : OutputReading) (store : Store) :
    reading.close.next store = (.stop, reading.close) := rfl

end OutputReading

end Patchwork
