import Patchwork.Piece

/-! # The store

Queues, pieces and arenas live in a store and are known by number, so that one piece
can sit in many slots and one queue can be watched while it moves between pieces. A
queue counts its changes. A new piece always gets two queues of its own, so no two
pieces are made to share one. Reading is total: an unknown number reads as something empty.
-/
namespace Patchwork

structure Queue where
  items : List Fragment := []
  revision : Nat := 0

namespace Queue

def insert (queue : Queue) (place : Place) (fragment : Fragment) : Queue :=
  ⟨place.insert fragment queue.items, queue.revision + 1⟩

/-- Emptying a queue that is empty already changes nothing. -/
def clear (queue : Queue) : Queue :=
  match queue.items with
  | [] => queue
  | _ :: _ => ⟨[], queue.revision + 1⟩

@[simp] theorem items_insert (queue : Queue) (place : Place) (fragment : Fragment) :
    (queue.insert place fragment).items = place.insert fragment queue.items := rfl

@[simp] theorem items_clear (queue : Queue) : queue.clear.items = [] := by
  unfold clear
  split <;> simp_all

end Queue

/-- A piece as the store keeps it, with its queues by number. -/
abbrev StoredPiece := Piece Nat

/-- A piece as it is seen, with the contents of its queues. -/
abbrev PieceView := Piece (List Fragment)

structure Store where
  queues : Array Queue := #[]
  pieces : Array StoredPiece := #[]
  arenas : Array (Array Nat) := #[]

namespace Store

def queue (store : Store) (id : Nat) : Queue := store.queues[id]?.getD {}

def stored (store : Store) (id : Nat) : StoredPiece :=
  store.pieces[id]?.getD { span := ⟨0, 1, by decide⟩, intro := 0, outro := 0 }

def arena (store : Store) (id : Nat) : Array Nat := store.arenas[id]?.getD #[]

def piece (store : Store) (id : Nat) : PieceView :=
  (store.stored id).map fun queue => (store.queue queue).items

/-- The piece in a slot, if an arena has given that slot out. -/
def slot? (store : Store) (arena : Nat) (index : Int) : Option Nat :=
  if 0 ≤ index then (store.arena arena)[index.toNat]? else none

def get (store : Store) (arena : Nat) (index : Int) : Except Fault Nat :=
  match store.slot? arena index with
  | some piece => .ok piece
  | none => .error (.noSuchSlot index (store.arena arena).size)

theorem get_eq_ok_iff {store : Store} {arena : Nat} {index : Int} {piece : Nat} :
    store.get arena index = .ok piece ↔ store.slot? arena index = some piece := by
  unfold get
  split <;> simp_all

theorem get_of_none {store : Store} {arena : Nat} {index : Int}
    (missing : store.slot? arena index = none) :
    store.get arena index = .error (.noSuchSlot index (store.arena arena).size) := by
  simp [get, missing]

theorem slot?_isSome_iff {store : Store} {arena : Nat} {index : Int} :
    (store.slot? arena index).isSome ↔ 0 ≤ index ∧ index < (store.arena arena).size := by
  unfold slot?
  split
  · simp only [isSome_getElem?]
    omega
  · simp only [Option.isSome_none, Bool.false_eq_true, false_iff]
    omega

theorem slot?_eq_none_iff {store : Store} {arena : Nat} {index : Int} :
    store.slot? arena index = none ↔ ¬(0 ≤ index ∧ index < (store.arena arena).size) := by
  rw [← slot?_isSome_iff, Option.not_isSome_iff_eq_none]

theorem slot?_natCast (store : Store) (arena slot : Nat) :
    store.slot? arena slot = (store.arena arena)[slot]? := by
  simp [slot?]

theorem mem_arena_of_slot? {store : Store} {arena piece : Nat} {index : Int}
    (found : store.slot? arena index = some piece) : piece ∈ store.arena arena := by
  unfold slot? at found
  split at found
  · exact Array.mem_of_getElem? found
  · cases found

def listing (store : Store) (arena : Nat) : List PieceView :=
  (store.arena arena).toList.map store.piece

def setQueue (store : Store) (id : Nat) (queue : Queue) : Store :=
  { store with queues := store.queues.setIfInBounds id queue }

def setPiece (store : Store) (id : Nat) (piece : StoredPiece) : Store :=
  { store with pieces := store.pieces.setIfInBounds id piece }

def addPiece (store : Store) (view : PieceView) : Store :=
  { store with
    queues := (store.queues.push ⟨view.intro, 0⟩).push ⟨view.outro, 0⟩
    pieces := store.pieces.push
      { span := view.span, edited := view.edited, intro := store.queues.size,
        outro := store.queues.size + 1, next := view.next, storeName := view.storeName } }

def addArena (store : Store) : Store := { store with arenas := store.arenas.push #[] }

def appendSlot (store : Store) (arena : Nat) (piece : Nat) : Store :=
  { store with arenas := store.arenas.modify arena (·.push piece) }

def document (length : Nat) (covers : 0 < length) : Store :=
  (({} : Store).addArena.addPiece
    { span := ⟨0, length, covers⟩, intro := [], outro := [] }).appendSlot 0 0

theorem queue_setQueue {store : Store} {id other : Nat} {queue : Queue}
    (known : id < store.queues.size) :
    (store.setQueue id queue).queue other = if id = other then queue else store.queue other := by
  simp only [Store.queue, setQueue, Array.getElem?_setIfInBounds, known, if_true]
  split <;> simp

theorem stored_setPiece {store : Store} {id other : Nat} {piece : StoredPiece}
    (known : id < store.pieces.size) :
    (store.setPiece id piece).stored other = if id = other then piece else store.stored other := by
  simp only [Store.stored, setPiece, Array.getElem?_setIfInBounds, known, if_true]
  split <;> simp

/-- What a new piece has in common with the one it takes the place of, the store keeps. -/
theorem stored_setPiece_keeps {α : Type} {store : Store} {id : Nat} {piece : StoredPiece}
    (part : StoredPiece → α) (same : part piece = part (store.stored id)) (other : Nat) :
    part ((store.setPiece id piece).stored other) = part (store.stored other) := by
  by_cases known : id < store.pieces.size
  · rw [stored_setPiece known]
    split
    · rename_i here
      rw [same, here]
    · rfl
  · simp [setPiece, Array.setIfInBounds, known]

theorem arena_appendSlot {store : Store} {id other : Nat} {piece : Nat}
    (known : id < store.arenas.size) :
    (store.appendSlot id piece).arena other =
      if id = other then (store.arena id).push piece else store.arena other := by
  simp only [Store.arena, appendSlot, Array.getElem?_modify]
  split
  · rename_i same
    subst same
    simp [known]
  · rfl

theorem arena_appendSlot_of_unknown {store : Store} {id piece : Nat}
    (unknown : ¬id < store.arenas.size) (other : Nat) :
    (store.appendSlot id piece).arena other = store.arena other := by
  simp only [Store.arena, appendSlot, Array.getElem?_modify]
  split
  · rename_i same
    subst same
    simp [unknown]
  · rfl

theorem queue_addPiece (store : Store) (view : PieceView) (id : Nat) :
    (store.addPiece view).queue id =
      if id = store.queues.size then ⟨view.intro, 0⟩
      else if id = store.queues.size + 1 then ⟨view.outro, 0⟩
      else store.queue id := by
  simp only [Store.queue, addPiece, Array.getElem?_push, Array.size_push]
  by_cases first : id = store.queues.size
  · have second : id ≠ store.queues.size + 1 := by omega
    simp [first]
  · by_cases second : id = store.queues.size + 1 <;> simp [first, second]

theorem stored_addPiece (store : Store) (view : PieceView) (id : Nat) :
    (store.addPiece view).stored id =
      if id = store.pieces.size then
        { span := view.span, edited := view.edited, intro := store.queues.size,
          outro := store.queues.size + 1, next := view.next, storeName := view.storeName }
      else store.stored id := by
  simp only [Store.stored, addPiece, Array.getElem?_push]
  split <;> rfl

@[simp] theorem arena_addPiece (store : Store) (view : PieceView) (arena : Nat) :
    (store.addPiece view).arena arena = store.arena arena := rfl

@[simp] theorem arena_addArena (store : Store) (arena : Nat) :
    store.addArena.arena arena = store.arena arena := by
  simp only [Store.arena, addArena, Array.getElem?_push]
  by_cases fresh : arena = store.arenas.size <;> simp [fresh]

@[simp] theorem size_queues_setQueue (store : Store) (id : Nat) (queue : Queue) :
    (store.setQueue id queue).queues.size = store.queues.size := by
  simp [setQueue]

@[simp] theorem size_pieces_setPiece (store : Store) (id : Nat) (piece : StoredPiece) :
    (store.setPiece id piece).pieces.size = store.pieces.size := by
  simp [setPiece]

@[simp] theorem stored_setQueue (store : Store) (id : Nat) (queue : Queue) (piece : Nat) :
    (store.setQueue id queue).stored piece = store.stored piece := rfl

@[simp] theorem arena_setQueue (store : Store) (id : Nat) (queue : Queue) (arena : Nat) :
    (store.setQueue id queue).arena arena = store.arena arena := rfl

@[simp] theorem queue_setPiece (store : Store) (id : Nat) (piece : StoredPiece)
    (queue : Nat) : (store.setPiece id piece).queue queue = store.queue queue := rfl

@[simp] theorem arena_setPiece (store : Store) (id : Nat) (piece : StoredPiece)
    (arena : Nat) : (store.setPiece id piece).arena arena = store.arena arena := rfl

@[simp] theorem queue_appendSlot (store : Store) (arena : Nat) (piece : Nat)
    (queue : Nat) : (store.appendSlot arena piece).queue queue = store.queue queue := rfl

@[simp] theorem stored_appendSlot (store : Store) (arena : Nat) (piece other : Nat) :
    (store.appendSlot arena piece).stored other = store.stored other := rfl

@[simp] theorem piece_appendSlot (store : Store) (arena piece other : Nat) :
    (store.appendSlot arena piece).piece other = store.piece other := rfl

end Store

end Patchwork
