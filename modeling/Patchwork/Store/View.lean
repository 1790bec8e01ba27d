import Patchwork.Store.WellFormed

/-! # What changes show

Each change to a store said of the pieces as they are seen, with the contents of their
queues. In a well-formed store a change shows in its own piece and in no other.
-/
namespace Patchwork

namespace Piece

variable {κ : Type}

@[simp] theorem span_setQueue (piece : Piece κ) (side : Side) (queue : κ) :
    (piece.setQueue side queue).span = piece.span := by
  cases side <;> rfl

@[simp] theorem next_setQueue (piece : Piece κ) (side : Side) (queue : κ) :
    (piece.setQueue side queue).next = piece.next := by
  cases side <;> rfl

theorem map_update {κ μ : Type} [DecidableEq κ] (piece : Piece κ) (f : κ → μ) (value : μ) (side : Side)
    (apart : piece.intro ≠ piece.outro) :
    (piece.map fun queue => if piece.queue side = queue then value else f queue) =
      (piece.map f).setQueue side value := by
  cases side <;> simp [map, queue, setQueue, apart, apart.symm]

end Piece

namespace Store

variable {store : Store}

theorem piece_addPiece_self (store : Store) (view : PieceView) :
    (store.addPiece view).piece store.pieces.size = view := by
  simp [Store.piece, stored_addPiece, Piece.map, queue_addPiece]

theorem piece_addPiece_of_known (sound : store.WellFormed) (view : PieceView) {piece : Nat}
    (known : piece < store.pieces.size) : (store.addPiece view).piece piece = store.piece piece := by
  have intro := sound.queue_known known .intro
  have outro := sound.queue_known known .outro
  simp only [Piece.queue] at intro outro
  have old : (store.addPiece view).stored piece = store.stored piece := by
    rw [stored_addPiece, if_neg (by omega)]
  simp only [Store.piece, old, Piece.map, queue_addPiece]
  rw [if_neg (by omega), if_neg (by omega), if_neg (by omega), if_neg (by omega)]

theorem piece_setPiece {piece other : Nat} (known : piece < store.pieces.size) (new : StoredPiece) :
    (store.setPiece piece new).piece other =
      if piece = other then new.map fun queue => (store.queue queue).items
      else store.piece other := by
  simp only [Store.piece, stored_setPiece known, queue_setPiece]
  split <;> rfl

theorem piece_setQueue (sound : store.WellFormed) {piece other : Nat}
    (known : piece < store.pieces.size) (known' : other < store.pieces.size) (side : Side)
    (queue : Queue) :
    (store.setQueue ((store.stored piece).queue side) queue).piece other =
      if piece = other then (store.piece piece).setQueue side queue.items else store.piece other := by
  have held := sound.queue_known known side
  simp only [Store.piece, stored_setQueue, queue_setQueue held]
  by_cases same : piece = other
  · subst same
    rw [if_pos rfl]
    have apart : (store.stored piece).intro ≠ (store.stored piece).outro := by
      intro equal
      have := (sound.queue_inj known known (show (store.stored piece).queue .intro =
        (store.stored piece).queue .outro from equal)).2
      cases this
    rw [← Piece.map_update _ _ _ _ apart]
    simp only [Piece.map]
    congr 1 <;> split <;> rfl
  · rw [if_neg same]
    have elsewhere : ∀ side', (store.stored piece).queue side ≠ (store.stored other).queue side' :=
      fun side' equal => same (sound.queue_inj known known' equal).1
    have first := elsewhere .intro
    have second := elsewhere .outro
    simp only [Piece.queue] at first second
    simp [Piece.map, Piece.queue, first, second]

theorem queue_piece (store : Store) (piece : Nat) (side : Side) :
    (store.piece piece).queue side = (store.queue ((store.stored piece).queue side)).items := by
  simp [Store.piece]

theorem piece_decorate (sound : store.WellFormed) {cap : Int} {piece other : Nat}
    (known : piece < store.pieces.size) (known' : other < store.pieces.size) {side : Side}
    {place : Place} {content : Content} {fragment : Fragment}
    (measured : content.toFragment cap = .ok fragment) :
    (store.decorate cap piece side place content).store.piece other =
      if piece = other then
        (store.piece piece).setQueue side (place.insert fragment ((store.piece piece).queue side))
      else store.piece other := by
  simp only [decorate, measured, insertInto, piece_setQueue sound known known' side, queue_piece,
    Queue.items_insert]

theorem piece_clearDecorations (sound : store.WellFormed) {piece other : Nat}
    (known : piece < store.pieces.size) (known' : other < store.pieces.size) :
    (store.clearDecorations piece).piece other =
      if piece = other then { store.piece piece with intro := [], outro := [] }
      else store.piece other := by
  have cleared := sound.setQueue (store.stored piece).intro
    (store.queue (store.stored piece).intro).clear
  have first := fun {other} (known' : other < store.pieces.size) =>
    piece_setQueue sound known known' .intro (store.queue (store.stored piece).intro).clear
  have second := piece_setQueue cleared known known' .outro
    ((store.setQueue (store.stored piece).intro (store.queue (store.stored piece).intro).clear).queue
      (store.stored piece).outro).clear
  simp only [Piece.queue, Queue.items_clear, stored_setQueue] at first second
  simp only [clearDecorations, clearQueue]
  rw [second, first known, first known']
  split <;> simp [Piece.setQueue]

theorem piece_setStoreName {piece other : Nat} (known : piece < store.pieces.size)
    (storeName : Bool) :
    (store.setStoreName piece storeName).piece other =
      if piece = other then { store.piece piece with storeName } else store.piece other :=
  piece_setPiece known _

theorem piece_setNext {piece other : Nat} (known : piece < store.pieces.size) (next : Option Int) :
    (store.setNext piece next).piece other =
      if piece = other then { store.piece piece with next } else store.piece other :=
  piece_setPiece known _

theorem piece_setSpan {piece other : Nat} (known : piece < store.pieces.size) (span : Span) :
    (store.setSpan piece span).piece other =
      if piece = other then { store.piece piece with span } else store.piece other :=
  piece_setPiece known _

theorem piece_setEdited {piece other : Nat} (known : piece < store.pieces.size)
    (edited : Option Fragment) :
    (store.setEdited piece edited).piece other =
      if piece = other then { store.piece piece with edited } else store.piece other :=
  piece_setPiece known _

theorem piece_applyPolicy (sound : store.WellFormed) {piece other : Nat}
    (known : piece < store.pieces.size) (known' : other < store.pieces.size) (policy : EditPolicy) :
    (store.applyPolicy piece policy).piece other =
      if piece = other then
        { store.piece piece with
          intro := if policy.overwrite then [] else (store.piece piece).intro
          outro := if policy.overwrite then [] else (store.piece piece).outro
          storeName := policy.storeName }
      else store.piece other := by
  unfold applyPolicy
  split
  · rw [piece_setStoreName (show piece < (store.clearDecorations piece).pieces.size from known),
      piece_clearDecorations sound known known, piece_clearDecorations sound known known',
      if_pos rfl]
    split <;> rfl
  · rw [piece_setStoreName known]

theorem piece_edit (sound : store.WellFormed) {cap : Int} {piece other : Nat}
    (known : piece < store.pieces.size) (known' : other < store.pieces.size) {content : Content}
    {policy : EditPolicy} {fragment : Fragment} (measured : content.toFragment cap = .ok fragment) :
    (store.edit cap piece content policy).store.piece other =
      if piece = other then
        { store.piece piece with
          edited := some fragment
          intro := if policy.overwrite then [] else (store.piece piece).intro
          outro := if policy.overwrite then [] else (store.piece piece).outro
          storeName := policy.storeName }
      else store.piece other := by
  have marked : piece < (store.applyPolicy piece policy).pieces.size := by
    unfold applyPolicy
    split
    · simpa [setStoreName, clearDecorations, clearQueue, setQueue] using known
    · simpa [setStoreName] using known
  simp only [edit, measured]
  rw [piece_setEdited marked, piece_applyPolicy sound known known, piece_applyPolicy sound known known']
  split <;> simp_all

/-- A division that succeeds on the piece as it is seen succeeds on the piece as it is kept. -/
theorem divide_eq {cap : Int} {piece : Nat} {offset : Int} {left right : PieceView}
    (cut : (store.piece piece).split cap offset [] [] = .ok (left, right)) :
    ∃ first second : StoredPiece,
      store.divide cap piece offset =
        { result := .ok store.pieces.size, store := store.putHalves piece first second } ∧
      (first.map fun queue => (store.queue queue).items) = left ∧
      (second.map fun queue => (store.queue queue).items) = right := by
  have empty : ∀ id, store.queues.size ≤ id → (store.queue id).items = [] := by
    intro id beyond
    simp [Store.queue, Array.getElem?_eq_none beyond]
  have moved := Piece.split_map (fun queue => (store.queue queue).items) cap (store.stored piece)
    offset store.queues.size (store.queues.size + 1)
  rw [empty _ (Nat.le_refl _), empty _ (Nat.le_succ _)] at moved
  have agree := cut.symm.trans moved
  unfold divide
  cases parted : (store.stored piece).split cap offset store.queues.size (store.queues.size + 1) with
  | error fault =>
    rw [parted] at agree
    simp [Except.map] at agree
  | ok halves =>
    rw [parted] at agree
    simp only [Except.map, Except.ok.injEq, Prod.mk.injEq] at agree
    exact ⟨halves.1, halves.2, rfl, agree.1.symm, agree.2.symm⟩

theorem piece_divide {cap : Int} {piece : Nat} {offset : Int} {left right : PieceView}
    (known : piece < store.pieces.size)
    (cut : (store.piece piece).split cap offset [] [] = .ok (left, right)) (other : Nat) :
    (store.divide cap piece offset).store.piece other =
      if other = store.pieces.size then right
      else if other = piece then left else store.piece other := by
  obtain ⟨first, second, divided, rfl, rfl⟩ := divide_eq cut
  simp only [divided, Store.piece, stored_putHalves known, queue_putHalves]
  split
  · rfl
  · split <;> rfl

theorem arena_known_of_get {arena piece : Nat} {index : Int}
    (found : store.get arena index = .ok piece) : arena < store.arenas.size := by
  have slot := get_eq_ok_iff.mp found
  by_cases known : arena < store.arenas.size
  · exact known
  · simp [slot?, Store.arena, Array.getElem?_eq_none (Nat.le_of_not_lt known)] at slot

theorem divideSlot_eq {cap : Int} {arena piece : Nat} {index offset : Int}
    {left right : PieceView} (known : piece < store.pieces.size)
    (found : store.get arena index = .ok piece)
    (cut : (store.piece piece).split cap offset [] [] = .ok (left, right)) :
    let after := (store.divideSlot cap arena index offset).store
    (store.divideSlot cap arena index offset).result = .ok (store.arena arena).size ∧
      (∀ other, after.piece other =
        if other = store.pieces.size then right
        else if other = piece then { left with next := some ((store.arena arena).size : Int) }
        else store.piece other) ∧
      ∀ other, after.arena other =
        if arena = other then (store.arena arena).push store.pieces.size else store.arena other := by
  have here := piece_divide known cut
  obtain ⟨first, second, divided, _, _⟩ := divide_eq cut
  rw [divided] at here
  simp only [divideSlot, found, divided, Outcome.andThen, push, arena_putHalves]
  have room : piece < ((store.putHalves piece first second).appendSlot arena
      store.pieces.size).pieces.size := by
    simp only [appendSlot, putHalves, Array.size_push, Array.size_setIfInBounds]
    omega
  refine ⟨trivial, fun other => ?_, fun other => ?_⟩
  · rw [piece_setNext room, piece_appendSlot, piece_appendSlot, here piece, here other]
    by_cases same : piece = other
    · subst same
      simp [show piece ≠ store.pieces.size by omega]
    · simp [same, Ne.symm same]
  · have there : arena < (store.putHalves piece first second).arenas.size :=
      arena_known_of_get found
    simp only [setNext, arena_setPiece, arena_appendSlot there, arena_putHalves]

end Store

end Patchwork
