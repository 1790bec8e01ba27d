import Patchwork.Proofs.Life

/-! # Queues that count their changes

A queue counts what is inserted into it and what clears it of something. Which queues an
action changes can be told before it is performed; all others are counted as before. Dividing
a piece changes no queue: one of them is held by another piece afterwards.
-/
namespace Patchwork

namespace Queue

theorem clear_of_empty {queue : Queue} (empty : queue.items = []) : queue.clear = queue := by
  simp [clear, empty]

theorem revision_lt_clear {queue : Queue} (filled : queue.items ≠ []) :
    queue.revision < queue.clear.revision := by
  unfold clear
  split
  · exact absurd ‹_› filled
  · exact Nat.lt_succ_self _

end Queue

namespace Store

variable {before after store : Store} {queue : Nat}

theorem queue_clearQueue (store : Store) (id other : Nat) : (store.clearQueue id).queue other =
    if id = other then (store.queue other).clear else store.queue other := by
  by_cases known : id < store.queues.size
  · rw [clearQueue, queue_setQueue known]
    split <;> simp_all
  · have missing : store.queue id = {} := by
      simp [Store.queue, Array.getElem?_eq_none (Nat.le_of_not_lt known)]
    have unchanged : store.clearQueue id = store := by
      simp [clearQueue, setQueue, Array.setIfInBounds, known]
    rw [unchanged]
    split
    · rename_i same
      rw [← same, missing]
      rfl
    · rfl

theorem queue_clearDecorations (store : Store) (piece other : Nat) :
    (store.clearDecorations piece).queue other =
      if other = (store.stored piece).intro ∨ other = (store.stored piece).outro then
        (store.queue other).clear
      else store.queue other := by
  rw [clearDecorations, queue_clearQueue, queue_clearQueue]
  by_cases first : other = (store.stored piece).intro
  · by_cases second : other = (store.stored piece).outro
    · simp [← first, ← second, Queue.clear_of_empty]
    · simp [← first, Ne.symm second]
  · by_cases second : other = (store.stored piece).outro
    · simp [← second, Ne.symm first]
    · simp [first, second, Ne.symm first, Ne.symm second]

theorem size_queues_divide (store : Store) (cap : Int) (piece : Nat) (offset : Int) :
    store.queues.size ≤ (store.divide cap piece offset).store.queues.size := by
  unfold divide
  split
  · exact Nat.le_refl _
  · simp only [putHalves, Array.size_push]
    omega

theorem queue_divide (store : Store) (cap : Int) (piece : Nat) (offset : Int) (other : Nat) :
    (store.divide cap piece offset).store.queue other = store.queue other := by
  unfold divide
  split
  · rfl
  · exact queue_putHalves store piece _ _ other

theorem queues_divideSlot (store : Store) (cap : Int) (arena : Nat) (index offset : Int) :
    (store.divideSlot cap arena index offset).store.queues = store.queues ∨
      ∃ piece, (store.divideSlot cap arena index offset).store.queues =
        (store.divide cap piece offset).store.queues := by
  unfold divideSlot
  split
  · exact .inl rfl
  · rename_i piece _
    refine .inr ⟨piece, ?_⟩
    rcases store.divide cap piece offset with ⟨_ | right, divided, log⟩ <;> rfl

theorem size_queues_divideSlot (store : Store) (cap : Int) (arena : Nat) (index offset : Int) :
    store.queues.size ≤ (store.divideSlot cap arena index offset).store.queues.size := by
  rcases store.queues_divideSlot cap arena index offset with same | ⟨piece, same⟩
  · exact Nat.le_of_eq (congrArg Array.size same.symm)
  · rw [same]
    exact size_queues_divide store cap piece offset

theorem queue_divideSlot (store : Store) (cap : Int) (arena : Nat) (index offset : Int)
    (other : Nat) :
    (store.divideSlot cap arena index offset).store.queue other = store.queue other := by
  rcases store.queues_divideSlot cap arena index offset with same | ⟨piece, same⟩
  · simp only [Store.queue, same]
  · rw [← store.queue_divide cap piece offset]
    simp only [Store.queue, same]

/-- Those queues of a piece that hold something. -/
def filledQueues (store : Store) (piece : Nat) : List Nat :=
  [(store.stored piece).intro, (store.stored piece).outro].filter
    fun queue => !(store.queue queue).items.isEmpty

/-- Which of the queues a change has counted. None is lost. -/
structure Counted (before after : Store) (changed : List Nat) : Prop where
  room : before.queues.size ≤ after.queues.size
  same : ∀ {queue}, queue < before.queues.size → queue ∉ changed →
    (after.queue queue).revision = (before.queue queue).revision
  newer : ∀ {queue}, queue < before.queues.size → queue ∈ changed →
    (before.queue queue).revision < (after.queue queue).revision

namespace Counted

theorem of_queue (room : before.queues.size ≤ after.queues.size)
    (same : ∀ queue < before.queues.size, after.queue queue = before.queue queue) :
    Counted before after [] :=
  ⟨room, fun known _ => by rw [same _ known], fun _ among => nomatch among⟩

theorem refl (store : Store) : Counted store store [] := of_queue (Nat.le_refl _) fun _ _ => rfl

theorem setPiece (store : Store) (id : Nat) (piece : StoredPiece) :
    Counted store (store.setPiece id piece) [] := of_queue (Nat.le_refl _) fun _ _ => rfl

theorem create (store : Store) (view : PieceView) : Counted store (store.addPiece view) [] := by
  refine of_queue ?_ fun queue known => ?_
  · simp only [addPiece, Array.size_push]
    omega
  · rw [queue_addPiece, if_neg (by omega), if_neg (by omega)]

theorem divide (store : Store) (cap : Int) (piece : Nat) (offset : Int) :
    Counted store (store.divide cap piece offset).store [] :=
  of_queue (size_queues_divide store cap piece offset) fun _ _ =>
    queue_divide store cap piece offset _

theorem divideSlot (store : Store) (cap : Int) (arena : Nat) (index offset : Int) :
    Counted store (store.divideSlot cap arena index offset).store [] :=
  of_queue (size_queues_divideSlot store cap arena index offset) fun _ _ =>
    queue_divideSlot store cap arena index offset _

theorem decorate (store : Store) (cap : Int) (piece : Nat) (side : Side) (place : Place)
    {content : Content} {fragment : Fragment} (kept : content.toFragment cap = .ok fragment) :
    Counted store (store.decorate cap piece side place content).store
      [(store.stored piece).queue side] := by
  simp only [Store.decorate, kept, insertInto]
  refine ⟨by simp, fun {queue} known apart => ?_, fun {queue} known here => ?_⟩
  · by_cases there : (store.stored piece).queue side < store.queues.size
    · rw [queue_setQueue there, if_neg fun same => apart (by simp [same])]
    · simp [setQueue, Array.setIfInBounds, there]
  · cases List.mem_singleton.mp here
    rw [queue_setQueue known, if_pos rfl]
    exact Nat.lt_succ_self _

theorem clearDecorations (store : Store) (piece : Nat) :
    Counted store (store.clearDecorations piece) (store.filledQueues piece) := by
  refine ⟨by simp [Store.clearDecorations, clearQueue], fun {queue} _ apart => ?_,
    fun {queue} _ here => ?_⟩
  · rw [queue_clearDecorations]
    split
    · rename_i held
      have empty : (store.queue queue).items = [] := by
        simpa [filledQueues, List.mem_filter, held] using apart
      rw [Queue.clear_of_empty empty]
    · rfl
  · obtain ⟨held, filled⟩ := List.mem_filter.mp here
    rw [queue_clearDecorations, if_pos (by simpa using held)]
    exact Queue.revision_lt_clear (by simpa using filled)

theorem edit (store : Store) (cap : Int) (piece : Nat) (content : Content) (policy : EditPolicy) :
    Counted store (store.edit cap piece content policy).store
      (if policy.overwrite then store.filledQueues piece else []) := by
  have applied : Counted store (store.applyPolicy piece policy)
      (if policy.overwrite then store.filledQueues piece else []) := by
    unfold Store.applyPolicy
    split
    · have cleared := Counted.clearDecorations store piece
      exact ⟨cleared.room, cleared.same, cleared.newer⟩
    · exact .setPiece store _ _
  unfold Store.edit
  split
  · exact applied
  · exact ⟨applied.room, applied.same, applied.newer⟩

end Counted

/-- The outro of a divided piece goes to the right half. The left half has a new one. -/
theorem outro_divide {cap : Int} {piece right : Nat} {offset : Int}
    (divided : (store.divide cap piece offset).result = .ok right) :
    let after := (store.divide cap piece offset).store
    (after.stored right).outro = (store.stored piece).outro ∧
      (after.stored piece).outro = store.queues.size := by
  unfold divide at divided ⊢
  split at divided
  · cases divided
  · rename_i left right cut
    cases divided
    obtain ⟨_, _, position, inside, _, halves⟩ := Piece.split_eq_ok_iff.mp cut
    cases halves
    have known : piece < store.pieces.size := by
      -- An unknown piece reads as one position, and there is nothing inside it.
      by_cases known : piece < store.pieces.size
      · exact known
      · simp only [stored, Array.getElem?_eq_none (Nat.le_of_not_lt known)] at inside
        obtain ⟨low, high⟩ := inside
        simp only [Option.getD_none] at low high
        omega
    have apart : piece ≠ store.pieces.size := Nat.ne_of_lt known
    simp [stored_putHalves known, apart]

end Store

namespace Workspace

variable {printable : Char → Bool}

/-- The queues that an edit clears of something, or the one that a decoration goes into. -/
def queuesChanged (workspace : Workspace) : Action → List Nat
  | .decorate piece side _ content =>
    match content.toFragment workspace.cap with
    | .ok _ => [(workspace.store.stored piece).queue side]
    | .error _ => []
  | .edit piece _ policy =>
    if policy.overwrite then workspace.store.filledQueues piece else []
  | _ => []

theorem counted_perform (workspace : Workspace) (action : Action) :
    Store.Counted workspace.store (workspace.perform printable action).workspace.store
      (workspace.queuesChanged action) := by
  rw [store_perform]
  cases action with
  | openArena | push => exact .of_queue (Nat.le_refl _) fun _ _ => rfl
  | create view => exact .create _ view
  | decorate piece side place content =>
    cases kept : content.toFragment workspace.cap with
    | error fault =>
      simp only [queuesChanged, kept, Store.decorate]
      exact .refl _
    | ok fragment =>
      simp only [queuesChanged, kept]
      exact .decorate _ _ piece side place kept
  | edit piece content policy => exact .edit _ _ piece content policy
  | divide piece offset => exact .divide _ _ piece offset
  | divideSlot arena index offset => exact .divideSlot _ _ arena index offset
  | setNext | setStoreName | setSpan => exact .setPiece _ _ _
  | setEdited piece content =>
    cases content with
    | none => exact .setPiece _ _ _
    | some content =>
      dsimp only
      split
      · exact .setPiece _ _ _
      · exact .refl _
  | _ => exact .refl _

end Workspace

end Patchwork
