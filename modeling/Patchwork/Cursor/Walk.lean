import Patchwork.Store.Trail

/-! # Walking an arena lazily

A cursor is a value. Asking it for one more item reads the store as it is at that
moment and gives an answer together with the cursor to ask next. A walk reads the link
of its last piece only when it is asked to go on, and counts what it has given out.
-/
namespace Patchwork

inductive Pull (α : Type)
  | item (value : α)
  | stop
  | fault (fault : Fault)

def Pull.map {α β : Type} (f : α → β) : Pull α → Pull β
  | item value => .item (f value)
  | stop => .stop
  | fault reason => .fault reason

inductive WalkPlace
  | start
  | after (piece : Nat)
  | closed
deriving DecidableEq

structure Walk where
  arena : Nat
  head : Int
  yielded : Nat := 0
  place : WalkPlace := .start

namespace Walk

def close (walk : Walk) : Walk := { walk with place := .closed }

def pending (walk : Walk) (store : Store) : Option Int :=
  match walk.place with
  | .start => some walk.head
  | .after piece => (store.stored piece).next
  | .closed => none

/-- The slot is looked up before the count is compared with the size of the arena. -/
def next (walk : Walk) (store : Store) : Pull (Nat × Nat) × Walk :=
  match walk.pending store with
  | none => (.stop, walk.close)
  | some index =>
    match store.get walk.arena index with
    | .error fault => (.fault fault, walk.close)
    | .ok piece =>
      if walk.yielded = (store.arena walk.arena).size then
        (.fault (.endlessChain walk.head), walk.close)
      else (.item (index.toNat, piece), { walk with yielded := walk.yielded + 1, place := .after piece })

@[simp] theorem next_close (walk : Walk) (store : Store) :
    walk.close.next store = (.stop, walk.close) := rfl

section Next

variable {walk : Walk} {store : Store} {index : Int} {piece : Nat}

theorem next_of_none (pending : walk.pending store = none) :
    walk.next store = (.stop, walk.close) := by
  simp [next, pending]

theorem next_of_error {reason : Fault} (pending : walk.pending store = some index)
    (missing : store.get walk.arena index = .error reason) :
    walk.next store = (.fault reason, walk.close) := by
  simp [next, pending, missing]

theorem next_of_full (pending : walk.pending store = some index)
    (found : store.get walk.arena index = .ok piece)
    (full : walk.yielded = (store.arena walk.arena).size) :
    walk.next store = (.fault (.endlessChain walk.head), walk.close) := by
  simp [next, pending, found, full]

theorem next_of_room (pending : walk.pending store = some index)
    (found : store.get walk.arena index = .ok piece)
    (room : walk.yielded ≠ (store.arena walk.arena).size) :
    walk.next store = (.item (index.toNat, piece),
      { walk with yielded := walk.yielded + 1, place := .after piece }) := by
  simp [next, pending, found, room]

end Next

end Walk

/-- A reading of an arena in slot order. Once it has met the end it stays there. -/
structure Listing where
  arena : Nat
  position : Nat := 0
  closed : Bool := false

def Listing.next (listing : Listing) (store : Store) : Pull Nat × Listing :=
  if listing.closed then (.stop, listing)
  else
    match (store.arena listing.arena)[listing.position]? with
    | some piece => (.item piece, { listing with position := listing.position + 1 })
    | none => (.stop, { listing with closed := true })

end Patchwork
