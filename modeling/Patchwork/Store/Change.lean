import Patchwork.Event
import Patchwork.Store.Basic

/-! # Changes to a store

Every operation that can change a store, with what it returns, the store it leaves
and the records it writes. A refused operation leaves a store too: the old one,
except that an edit has discarded decorations and set the name mark by then.
-/
namespace Patchwork

structure Outcome (α : Type) where
  result : Except Fault α
  store : Store
  log : List Event := []

def Outcome.andThen {α β : Type} (first : Outcome α) (next : α → Store → Outcome β) : Outcome β :=
  match first with
  | ⟨.error fault, store, log⟩ => ⟨.error fault, store, log⟩
  | ⟨.ok value, store, log⟩ =>
    { result := (next value store).result
      store := (next value store).store
      log := log ++ (next value store).log }

namespace Store

def openArena (store : Store) : Outcome Nat :=
  { result := .ok store.arenas.size, store := store.addArena }

/-- A new piece with queues of its own, in no arena yet. -/
def create (store : Store) (view : PieceView) : Outcome Nat :=
  { result := .ok store.pieces.size, store := store.addPiece view }

def push (store : Store) (arena piece : Nat) : Outcome Nat :=
  { result := .ok (store.arena arena).size
    store := store.appendSlot arena piece
    log := [.pushed (store.arena arena).size (store.stored piece).span] }

def insertInto (store : Store) (queue : Nat) (place : Place) (fragment : Fragment) : Store :=
  store.setQueue queue ((store.queue queue).insert place fragment)

def clearQueue (store : Store) (queue : Nat) : Store :=
  store.setQueue queue (store.queue queue).clear

def decorate (store : Store) (cap : Int) (piece : Nat) (side : Side) (place : Place)
    (content : Content) : Outcome Unit :=
  match content.toFragment cap with
  | .error fault => { result := .error fault, store }
  | .ok fragment =>
    { result := .ok (), store := store.insertInto ((store.stored piece).queue side) place fragment }

def clearDecorations (store : Store) (piece : Nat) : Store :=
  (store.clearQueue (store.stored piece).intro).clearQueue (store.stored piece).outro

def setStoreName (store : Store) (piece : Nat) (storeName : Bool) : Store :=
  store.setPiece piece { store.stored piece with storeName }

def setNext (store : Store) (piece : Nat) (next : Option Int) : Store :=
  store.setPiece piece { store.stored piece with next }

def setSpan (store : Store) (piece : Nat) (span : Span) : Store :=
  store.setPiece piece { store.stored piece with span }

def setEdited (store : Store) (piece : Nat) (edited : Option Fragment) : Store :=
  store.setPiece piece { store.stored piece with edited }

def applyPolicy (store : Store) (piece : Nat) (policy : EditPolicy) : Store :=
  if policy.overwrite then (store.clearDecorations piece).setStoreName piece policy.storeName
  else store.setStoreName piece policy.storeName

/-- The policy takes effect before the new text is measured. -/
def edit (store : Store) (cap : Int) (piece : Nat) (content : Content) (policy : EditPolicy) :
    Outcome Unit :=
  match content.toFragment cap with
  | .error fault => { result := .error fault, store := store.applyPolicy piece policy }
  | .ok fragment =>
    { result := .ok ()
      store := (store.applyPolicy piece policy).setEdited piece (some fragment)
      log := [.edited (store.stored piece).span policy] }

def putHalves (store : Store) (piece : Nat) (left right : StoredPiece) : Store :=
  { store with
    queues := (store.queues.push {}).push {}
    pieces := (store.pieces.setIfInBounds piece left).push right }

@[simp] theorem queue_putHalves (store : Store) (piece : Nat) (left right : StoredPiece)
    (id : Nat) : (store.putHalves piece left right).queue id = store.queue id := by
  simp only [Store.queue, putHalves, Array.getElem?_push, Array.size_push]
  by_cases second : id = store.queues.size + 1
  · simp [second]
  · by_cases first : id = store.queues.size <;> simp [first, second]

theorem stored_putHalves {store : Store} {piece other : Nat} {left right : StoredPiece}
    (known : piece < store.pieces.size) :
    (store.putHalves piece left right).stored other =
      if other = store.pieces.size then right
      else if other = piece then left else store.stored other := by
  simp only [Store.stored, putHalves, Array.getElem?_push, Array.size_setIfInBounds,
    Array.getElem?_setIfInBounds, known, if_true]
  by_cases new : other = store.pieces.size
  · simp [new]
  · by_cases same : other = piece
    · subst same
      simp [new]
    · simp [new, same, Ne.symm same]

@[simp] theorem arena_putHalves (store : Store) (piece : Nat) (left right : StoredPiece)
    (arena : Nat) : (store.putHalves piece left right).arena arena = store.arena arena := rfl

/-- The piece keeps its number and becomes the left half. The right half is a new piece
in no arena. Two queues are new: the outro of the left half and the intro of the right. -/
def divide (store : Store) (cap : Int) (piece : Nat) (offset : Int) : Outcome Nat :=
  match (store.stored piece).split cap offset store.queues.size (store.queues.size + 1) with
  | .error fault => { result := .error fault, store }
  | .ok (left, right) =>
    { result := .ok store.pieces.size, store := store.putHalves piece left right }

/-- The piece in a slot is divided, the right half gets a slot at the end of the arena
and the left half is linked to that slot. -/
def divideSlot (store : Store) (cap : Int) (arena : Nat) (index offset : Int) : Outcome Nat :=
  match store.get arena index with
  | .error fault => { result := .error fault, store }
  | .ok piece =>
    (store.divide cap piece offset).andThen fun right divided =>
      (divided.push arena right).andThen fun newSlot pushed =>
        { result := .ok newSlot
          store := pushed.setNext piece (some newSlot)
          log := [.divided index.toNat offset.toNat newSlot] }

end Store

end Patchwork
