import Patchwork.Store.Change

/-! # Well-formed stores

In a well-formed store every piece holds two known queues that no other piece holds, and
every slot holds a known piece. Stores start well formed and every change keeps them so.
-/
namespace Patchwork.Store

structure WellFormed (store : Store) : Prop where
  queue_known : ∀ {piece}, piece < store.pieces.size → ∀ side,
    (store.stored piece).queue side < store.queues.size
  queue_inj : ∀ {piece other}, piece < store.pieces.size → other < store.pieces.size →
    ∀ {side side'}, (store.stored piece).queue side = (store.stored other).queue side' →
      piece = other ∧ side = side'
  slot_known : ∀ arena {piece}, piece ∈ store.arena arena → piece < store.pieces.size

namespace WellFormed

variable {store : Store}

theorem empty : WellFormed {} where
  queue_known := by intro piece known; simp at known
  queue_inj := by intro piece other known; simp at known
  slot_known := by intro arena piece held; simp [Store.arena] at held

theorem setQueue (sound : store.WellFormed) (id : Nat) (queue : Queue) :
    (store.setQueue id queue).WellFormed where
  queue_known := by
    intro piece known side
    rw [stored_setQueue, size_queues_setQueue]
    exact sound.queue_known known side
  queue_inj := fun known known' _ _ same => sound.queue_inj known known' same
  slot_known := fun _ _ held => sound.slot_known _ held

theorem setPiece (sound : store.WellFormed) {id : Nat} {piece : StoredPiece}
    (kept : ∀ side, piece.queue side = (store.stored id).queue side) :
    (store.setPiece id piece).WellFormed := by
  have same_size : (store.setPiece id piece).pieces.size = store.pieces.size := by
    simp [Store.setPiece]
  have same_queue : ∀ other side, ((store.setPiece id piece).stored other).queue side =
      (store.stored other).queue side :=
    fun other side => stored_setPiece_keeps (fun held => held.queue side) (kept side) other
  constructor
  · intro other known side
    rw [same_queue]
    exact sound.queue_known (same_size ▸ known) side
  · intro other third known known' side side' same
    rw [same_queue, same_queue] at same
    exact sound.queue_inj (same_size ▸ known) (same_size ▸ known') same
  · intro arena other held
    rw [same_size]
    exact sound.slot_known _ held

theorem appendSlot (sound : store.WellFormed) {arena : Nat} {piece : Nat}
    (known : piece < store.pieces.size) : (store.appendSlot arena piece).WellFormed where
  queue_known := fun known => sound.queue_known known
  queue_inj := fun known known' _ _ same => sound.queue_inj known known' same
  slot_known := by
    intro other held inside
    change held < store.pieces.size
    by_cases there : arena < store.arenas.size
    · rw [arena_appendSlot there] at inside
      split at inside
      · rcases Array.mem_push.mp inside with old | rfl
        · exact sound.slot_known _ old
        · exact known
      · exact sound.slot_known _ inside
    · rw [arena_appendSlot_of_unknown there] at inside
      exact sound.slot_known _ inside

theorem addArena (sound : store.WellFormed) : store.addArena.WellFormed where
  queue_known := fun known => sound.queue_known known
  queue_inj := fun known known' _ _ same => sound.queue_inj known known' same
  slot_known := by
    intro arena piece held
    rw [arena_addArena] at held
    exact sound.slot_known _ held

theorem addPiece (sound : store.WellFormed) (view : PieceView) :
    (store.addPiece view).WellFormed := by
  have fresh : ∀ side, ((store.addPiece view).stored store.pieces.size).queue side =
      store.queues.size + (if side = .intro then 0 else 1) := by
    intro side
    rw [stored_addPiece, if_pos rfl]
    cases side <;> rfl
  have old : ∀ {piece side}, piece < store.pieces.size →
      ((store.addPiece view).stored piece).queue side = (store.stored piece).queue side := by
    intro piece known side
    rw [stored_addPiece, if_neg (by omega)]
  have cases_of : ∀ {piece}, piece < (store.addPiece view).pieces.size →
      piece < store.pieces.size ∨ piece = store.pieces.size := by
    intro piece known
    simp only [Store.addPiece, Array.size_push] at known
    omega
  constructor
  · intro piece known side
    have room : (store.addPiece view).queues.size = store.queues.size + 2 := by
      simp [Store.addPiece]
    rcases cases_of known with before | rfl
    · rw [old before, room]
      have := sound.queue_known before side
      omega
    · rw [fresh, room]
      split <;> omega
  · intro piece other known known' side side' same
    rcases cases_of known with before | rfl <;> rcases cases_of known' with before' | rfl
    · rw [old before, old before'] at same
      exact sound.queue_inj before before' same
    · rw [old before, fresh] at same
      have := sound.queue_known before side
      omega
    · rw [old before', fresh] at same
      have := sound.queue_known before' side'
      omega
    · rw [fresh, fresh] at same
      refine ⟨rfl, ?_⟩
      cases side <;> cases side' <;> simp_all
  · intro arena piece held
    have := sound.slot_known arena held
    simp only [Store.addPiece, Array.size_push]
    omega

/-- Where the queues of the halves come from: two are new, the outro of the divided piece has
moved to the right half, and all others are where they were. -/
private theorem queue_source {piece : Nat} (known : piece < store.pieces.size)
    {left right : StoredPiece} (leftIntro : left.intro = (store.stored piece).intro)
    (leftOutro : left.outro = store.queues.size) (rightIntro : right.intro = store.queues.size + 1)
    (rightOutro : right.outro = (store.stored piece).outro) {holder : Nat}
    (inside : holder < store.pieces.size + 1) (side : Side) :
    let held := ((store.putHalves piece left right).stored holder).queue side
    (held = store.queues.size ∧ holder = piece ∧ side = .outro) ∨
      (held = store.queues.size + 1 ∧ holder = store.pieces.size ∧ side = .intro) ∨
      (held = (store.stored piece).queue .outro ∧ holder = store.pieces.size ∧ side = .outro) ∨
      (held = (store.stored holder).queue side ∧ holder < store.pieces.size ∧
        ¬(holder = piece ∧ side = .outro)) := by
  intro held
  simp only [held, stored_putHalves known]
  by_cases new : holder = store.pieces.size
  · rw [if_pos new]
    cases side
    · exact .inr (.inl ⟨rightIntro, new, rfl⟩)
    · exact .inr (.inr (.inl ⟨rightOutro, new, rfl⟩))
  · have old : holder < store.pieces.size := by omega
    rw [if_neg new]
    by_cases same : holder = piece
    · subst same
      rw [if_pos rfl]
      cases side
      · exact .inr (.inr (.inr ⟨leftIntro, old, by simp⟩))
      · exact .inl ⟨leftOutro, rfl, rfl⟩
    · rw [if_neg same]
      exact .inr (.inr (.inr ⟨rfl, old, fun both => same both.1⟩))

theorem putHalves (sound : store.WellFormed) {piece : Nat} (known : piece < store.pieces.size)
    {left right : StoredPiece} (leftIntro : left.intro = (store.stored piece).intro)
    (leftOutro : left.outro = store.queues.size) (rightIntro : right.intro = store.queues.size + 1)
    (rightOutro : right.outro = (store.stored piece).outro) :
    (store.putHalves piece left right).WellFormed := by
  have room : (store.putHalves piece left right).queues.size = store.queues.size + 2 := by
    simp [Store.putHalves]
  have count : (store.putHalves piece left right).pieces.size = store.pieces.size + 1 := by
    simp [Store.putHalves]
  have source := @queue_source store piece known left right leftIntro leftOutro rightIntro rightOutro
  have outro := sound.queue_known known .outro
  constructor
  · intro holder inside side
    rw [count] at inside
    rw [room]
    rcases source inside side with ⟨held, _⟩ | ⟨held, _⟩ | ⟨held, _⟩ | ⟨held, old, _⟩ <;> rw [held]
    · omega
    · omega
    · omega
    · have := sound.queue_known old side
      omega
  · intro holder other inside inside' side side' same
    rw [count] at inside inside'
    rcases source inside side with ⟨held, a, b⟩ | ⟨held, a, b⟩ | ⟨held, a, b⟩ | ⟨held, old, apart⟩ <;>
      rcases source inside' side' with
        ⟨held', a', b'⟩ | ⟨held', a', b'⟩ | ⟨held', a', b'⟩ | ⟨held', old', apart'⟩ <;>
      rw [held, held'] at same
    · exact ⟨a.trans a'.symm, b.trans b'.symm⟩
    · omega
    · omega
    · have := sound.queue_known old' side'
      omega
    · omega
    · exact ⟨a.trans a'.symm, b.trans b'.symm⟩
    · omega
    · have := sound.queue_known old' side'
      omega
    · omega
    · omega
    · exact ⟨a.trans a'.symm, b.trans b'.symm⟩
    · obtain ⟨rfl, rfl⟩ := sound.queue_inj known old' same
      exact absurd ⟨rfl, rfl⟩ apart'
    · have := sound.queue_known old side
      omega
    · have := sound.queue_known old side
      omega
    · obtain ⟨rfl, rfl⟩ := sound.queue_inj old known same
      exact absurd ⟨rfl, rfl⟩ apart
    · exact sound.queue_inj old old' same
  · intro arena holder held
    rw [arena_putHalves] at held
    have := sound.slot_known _ held
    omega

theorem decorate (sound : store.WellFormed) (cap : Int) (piece : Nat) (side : Side) (place : Place)
    (content : Content) : (store.decorate cap piece side place content).store.WellFormed := by
  unfold Store.decorate
  split
  · exact sound
  · exact sound.setQueue _ _

theorem clearDecorations (sound : store.WellFormed) (piece : Nat) :
    (store.clearDecorations piece).WellFormed := (sound.setQueue _ _).setQueue _ _

theorem setStoreName (sound : store.WellFormed) (piece : Nat) (storeName : Bool) :
    (store.setStoreName piece storeName).WellFormed :=
  sound.setPiece fun side => by cases side <;> rfl

theorem setNext (sound : store.WellFormed) (piece : Nat) (next : Option Int) :
    (store.setNext piece next).WellFormed :=
  sound.setPiece fun side => by cases side <;> rfl

theorem setSpan (sound : store.WellFormed) (piece : Nat) (span : Span) :
    (store.setSpan piece span).WellFormed :=
  sound.setPiece fun side => by cases side <;> rfl

theorem setEdited (sound : store.WellFormed) (piece : Nat) (edited : Option Fragment) :
    (store.setEdited piece edited).WellFormed :=
  sound.setPiece fun side => by cases side <;> rfl

theorem applyPolicy (sound : store.WellFormed) (piece : Nat) (policy : EditPolicy) :
    (store.applyPolicy piece policy).WellFormed := by
  unfold Store.applyPolicy
  split
  · exact (sound.clearDecorations piece).setStoreName _ _
  · exact sound.setStoreName _ _

theorem edit (sound : store.WellFormed) (cap : Int) (piece : Nat) (content : Content)
    (policy : EditPolicy) : (store.edit cap piece content policy).store.WellFormed := by
  unfold Store.edit
  split
  · exact sound.applyPolicy _ _
  · exact (sound.applyPolicy _ _).setEdited _ _

theorem divide (sound : store.WellFormed) (cap : Int) {piece : Nat}
    (known : piece < store.pieces.size) (offset : Int) :
    (store.divide cap piece offset).store.WellFormed := by
  unfold Store.divide
  split
  · exact sound
  · rename_i left right cut
    obtain ⟨_, _, position, inside, _, halves⟩ := Piece.split_eq_ok_iff.mp cut
    cases halves
    exact sound.putHalves known rfl rfl rfl rfl

theorem push (sound : store.WellFormed) (arena : Nat) {piece : Nat}
    (known : piece < store.pieces.size) : (store.push arena piece).store.WellFormed :=
  sound.appendSlot known

theorem get_known (sound : store.WellFormed) {arena piece : Nat} {index : Int}
    (found : store.get arena index = .ok piece) : piece < store.pieces.size :=
  sound.slot_known _ (mem_arena_of_slot? (get_eq_ok_iff.mp found))

theorem divide_known {cap : Int} {piece right : Nat} {offset : Int}
    (divided : (store.divide cap piece offset).result = .ok right) :
    right < (store.divide cap piece offset).store.pieces.size := by
  unfold Store.divide at divided ⊢
  split at divided
  · cases divided
  · cases divided
    simp [Store.putHalves]

theorem divideSlot (sound : store.WellFormed) (cap : Int) (arena : Nat) (index offset : Int) :
    (store.divideSlot cap arena index offset).store.WellFormed := by
  unfold Store.divideSlot
  split
  · exact sound
  · rename_i piece found
    have divided := sound.divide cap (sound.get_known found) offset
    have known := @divide_known store cap piece
    cases cut : store.divide cap piece offset with
    | mk result store' log =>
      cases result with
      | error fault => simpa [cut, Outcome.andThen] using divided
      | ok right =>
        have := @known right offset
        rw [cut] at this divided
        exact (divided.appendSlot (this rfl)).setNext _ _

theorem document (length : Nat) (covers : 0 < length) : (Store.document length covers).WellFormed :=
  (empty.addArena.addPiece _).appendSlot Nat.one_pos

end WellFormed

end Patchwork.Store
