import Patchwork.Proofs.Refusal

/-! # What an action leaves alone

The queues of a piece are its own in a workspace that runs come to. So an action that changes a piece
changes no other: each keeps its fields, its queues, and what its queues hold and have counted. Of
the arenas, at most one changes. It gets one slot more, at its end, and the action returns the number
of that slot. What an arena holds is therefore what was pushed into it, in order.
-/
namespace Patchwork

def Action.arenas : Action → List Nat
  | .push arena _ | .divideSlot arena _ _ => [arena]
  | _ => []

def Action.Grows : Action → Prop
  | .create _ | .push .. | .divide .. | .divideSlot .. => True
  | _ => False

/-- An action is aimed at pieces and arenas of the store. -/
def Action.Aimed (action : Action) (store : Store) : Prop :=
  action.Known store ∧ ∀ arena ∈ action.arenas, arena < store.arenas.size

instance (action : Action) (store : Store) : Decidable (action.Aimed store) :=
  inferInstanceAs (Decidable (_ ∧ ∀ arena ∈ action.arenas, _))

namespace Store

variable {before after store : Store} {cap : Int} {piece other : Nat}

/-- A piece keeps its state: its fields, and its queues with what they hold and have counted. -/
structure SamePiece (before after : Store) (piece : Nat) : Prop where
  stored : after.stored piece = before.stored piece
  queue : ∀ side, after.queue ((before.stored piece).queue side) =
    before.queue ((before.stored piece).queue side)

namespace SamePiece

theorem refl (store : Store) (piece : Nat) : SamePiece store store piece := ⟨rfl, fun _ => rfl⟩

theorem trans {last : Store} (first : SamePiece before after piece) (second : SamePiece after last piece) :
    SamePiece before last piece where
  stored := second.stored.trans first.stored
  queue := by
    intro side
    have onward := second.queue side
    rw [first.stored] at onward
    exact onward.trans (first.queue side)

theorem piece_eq (same : SamePiece before after piece) : after.piece piece = before.piece piece := by
  have intro := same.queue .intro
  have outro := same.queue .outro
  simp only [Piece.queue] at intro outro
  simp only [Store.piece, same.stored, Piece.map, intro, outro]

theorem setPiece (store : Store) (new : StoredPiece) (apart : other ≠ piece) :
    SamePiece store (store.setPiece piece new) other where
  stored := by simp [Store.stored, Store.setPiece, Ne.symm apart]
  queue := fun _ => rfl

theorem setQueue {id : Nat} (queue : Queue) (apart : ∀ side, (store.stored other).queue side ≠ id) :
    SamePiece store (store.setQueue id queue) other where
  stored := rfl
  queue := by
    intro side
    simp [Store.queue, Store.setQueue, Ne.symm (apart side)]

end SamePiece

theorem WellFormed.queue_ne (sound : store.WellFormed) (known : piece < store.pieces.size)
    (known' : other < store.pieces.size) (apart : other ≠ piece) (side side' : Side) :
    (store.stored other).queue side ≠ (store.stored piece).queue side' :=
  fun same => apart (sound.queue_inj known' known same).1

namespace SamePiece

theorem addPiece (sound : store.WellFormed) (view : PieceView) (known : other < store.pieces.size) :
    SamePiece store (store.addPiece view) other where
  stored := by rw [stored_addPiece, if_neg (Nat.ne_of_lt known)]
  queue := by
    intro side
    have held := sound.queue_known known side
    rw [queue_addPiece, if_neg (by omega), if_neg (by omega)]

section

variable (sound : store.WellFormed) (known : piece < store.pieces.size)
  (known' : other < store.pieces.size) (apart : other ≠ piece)
include sound known known' apart

theorem decorate (side : Side) (place : Place) (content : Content) :
    SamePiece store (store.decorate cap piece side place content).store other := by
  unfold Store.decorate
  split
  · exact .refl _ _
  · exact .setQueue _ fun side' => sound.queue_ne known known' apart side' side

theorem clearDecorations : SamePiece store (store.clearDecorations piece) other :=
  (SamePiece.setQueue _ fun side => sound.queue_ne known known' apart side .intro).trans
    (.setQueue _ fun side => sound.queue_ne known known' apart side .outro)

theorem applyPolicy (policy : EditPolicy) : SamePiece store (store.applyPolicy piece policy) other := by
  unfold Store.applyPolicy
  split
  · exact (SamePiece.clearDecorations sound known known' apart).trans (.setPiece _ _ apart)
  · exact .setPiece _ _ apart

theorem edit (content : Content) (policy : EditPolicy) :
    SamePiece store (store.edit cap piece content policy).store other := by
  have applied := SamePiece.applyPolicy sound known known' apart policy
  unfold Store.edit
  split
  · exact applied
  · exact applied.trans (.setPiece _ _ apart)

omit sound in
theorem divide (offset : Int) : SamePiece store (store.divide cap piece offset).store other := by
  unfold Store.divide
  split
  · exact .refl _ _
  · refine ⟨?_, fun _ => queue_putHalves ..⟩
    rw [stored_putHalves known, if_neg (Nat.ne_of_lt known'), if_neg apart]

end

theorem divideSlot (sound : store.WellFormed) {arena : Nat} {index : Int} (offset : Int)
    (known : other < store.pieces.size) (apart : store.slot? arena index ≠ some other) :
    SamePiece store (store.divideSlot cap arena index offset).store other := by
  unfold Store.divideSlot
  split
  · exact .refl _ _
  · rename_i piece found
    have elsewhere : other ≠ piece := fun same => apart (same ▸ get_eq_ok_iff.mp found)
    have divided : store.SamePiece (store.divide cap piece offset).store other :=
      .divide (sound.get_known found) known elsewhere offset
    rcases cut : store.divide cap piece offset with ⟨_ | right, halved, log⟩ <;> rw [cut] at divided
    · exact divided
    · have pushed : SamePiece halved (halved.appendSlot arena right) other := ⟨rfl, fun _ => rfl⟩
      exact (divided.trans pushed).trans (.setPiece _ _ elsewhere)

end SamePiece

theorem size_pieces_divide {offset : Int} {right : Nat}
    (divided : (store.divide cap piece offset).result = .ok right) :
    (store.divide cap piece offset).store.pieces.size = store.pieces.size + 1 := by
  unfold divide at divided ⊢
  split at divided
  · cases divided
  · simp [putHalves]

theorem arena_divide (store : Store) (cap : Int) (piece : Nat) (offset : Int) (arena : Nat) :
    (store.divide cap piece offset).store.arena arena = store.arena arena := by
  unfold divide
  split <;> rfl

end Store

namespace Workspace

variable {printable : Char → Bool} {workspace : Workspace} {action : Action}

/-- The piece that an action may change. -/
def target? (workspace : Workspace) : Action → Option Nat
  | .decorate piece .. | .edit piece .. | .divide piece _ | .setNext piece _ | .setStoreName piece _
  | .setSpan piece _ | .setEdited piece _ => some piece
  | .divideSlot arena index _ => workspace.store.slot? arena index
  | _ => none

theorem keeps_perform (sound : workspace.store.WellFormed) (known : action.Known workspace.store)
    {piece : Nat} (there : piece < workspace.store.pieces.size)
    (apart : workspace.target? action ≠ some piece) :
    workspace.store.SamePiece (workspace.perform printable action).workspace.store piece := by
  have elsewhere : ∀ {target}, some target ≠ some piece → piece ≠ target :=
    fun different same => different (congrArg some same.symm)
  rw [store_perform]
  cases action with
  | openArena | push => exact ⟨rfl, fun _ => rfl⟩
  | create view => exact .addPiece sound view there
  | decorate target side place content =>
    exact .decorate sound (known target (List.mem_singleton_self _)) there (elsewhere apart) side place
      content
  | edit target content policy =>
    exact .edit sound (known target (List.mem_singleton_self _)) there (elsewhere apart) content policy
  | divide target offset =>
    exact .divide (known target (List.mem_singleton_self _)) there (elsewhere apart) offset
  | divideSlot arena index offset => exact .divideSlot sound offset there apart
  | setNext | setStoreName | setSpan => exact .setPiece _ _ (elsewhere apart)
  | setEdited target content =>
    cases content with
    | none => exact .setPiece _ _ (elsewhere apart)
    | some content =>
      dsimp only
      split
      · exact .setPiece _ _ (elsewhere apart)
      · exact .refl _ _
  | _ => exact .refl _ _

/-- The pieces that an action makes. -/
def made (printable : Char → Bool) (workspace : Workspace) (action : Action) : List Nat :=
  match action, (workspace.perform printable action).reply with
  | .create _, .ok _ | .divide .., .ok _ | .divideSlot .., .ok _ => [workspace.store.pieces.size]
  | _, _ => []

/-- The pieces that an action gives slots at the end of an arena. -/
def pushed (printable : Char → Bool) (arena : Nat) (workspace : Workspace) (action : Action) :
    List Nat :=
  match action, (workspace.perform printable action).reply with
  | .push target piece, .ok _ => if target = arena then [piece] else []
  | .divideSlot target _ _, .ok _ => if target = arena then [workspace.store.pieces.size] else []
  | _, _ => []

theorem counts_perform (workspace : Workspace) {action : Action} (quiet : ¬action.Grows) :
    let after := (workspace.perform printable action).workspace.store
    (∀ arena, after.arena arena = workspace.store.arena arena) ∧
      after.pieces.size = workspace.store.pieces.size := by
  have setPiece : ∀ piece new, (∀ arena, (workspace.store.setPiece piece new).arena arena =
      workspace.store.arena arena) ∧
      (workspace.store.setPiece piece new).pieces.size = workspace.store.pieces.size :=
    fun piece new => ⟨Store.arena_setPiece _ _ _, Store.size_pieces_setPiece _ _ _⟩
  dsimp only
  rw [store_perform]
  cases action with
  | create | push | divide | divideSlot => exact absurd trivial quiet
  | openArena => exact ⟨Store.arena_addArena _, rfl⟩
  | decorate piece side place content =>
    have same := Store.SameOutline.decorate workspace.store workspace.cap piece side place content
    exact ⟨same.arenas, same.size⟩
  | edit piece content policy =>
    have same := Store.SameOutline.edit workspace.store workspace.cap piece content policy
    exact ⟨same.arenas, same.size⟩
  | setNext | setStoreName | setSpan => exact setPiece _ _
  | setEdited piece content =>
    cases content with
    | none => exact setPiece _ _
    | some content =>
      dsimp only
      split
      · exact setPiece _ _
      · exact ⟨fun _ => rfl, rfl⟩
  | _ => exact ⟨fun _ => rfl, rfl⟩

theorem size_perform (sound : workspace.store.WellFormed) (action : Action) :
    (workspace.perform printable action).workspace.store.pieces.size =
      workspace.store.pieces.size + (workspace.made printable action).length := by
  cases action with
  | create view => simp [made, perform, settle, Store.create, Store.addPiece, Except.map]
  | push arena piece => rfl
  | divide piece offset =>
    cases cut : (workspace.store.divide workspace.cap piece offset).result with
    | error reason => simp [made, perform, settle, Store.divide_of_error cut, Except.map]
    | ok right => simp [made, perform, settle, cut, Store.size_pieces_divide cut, Except.map]
  | divideSlot arena index offset =>
    rcases Store.divideSlot_cases (fun _ => sound.slot_known arena) workspace.cap index offset with
      ⟨fault, refused⟩ | ⟨piece, position, _, _, gives, divided⟩
    · simp [made, perform, settle, refused, Except.map]
    · simp [made, perform, settle, gives, divided.size, Except.map]
  | _ => exact (counts_perform workspace id).2

/-- What an arena gets from an action comes at its end. -/
theorem arena_perform (sound : workspace.store.WellFormed) (aimed : action.Aimed workspace.store)
    (arena : Nat) :
    ((workspace.perform printable action).workspace.store.arena arena).toList =
      (workspace.store.arena arena).toList ++ workspace.pushed printable arena action := by
  cases action with
  | create view => simp [pushed, perform, settle, Store.create]
  | push target piece =>
    have known := aimed.2 target (List.mem_singleton_self _)
    simp only [pushed, perform, settle, Store.push, Store.arena_appendSlot known, Except.map]
    split <;> simp_all
  | divide piece offset => simp [pushed, perform, settle, Store.arena_divide]
  | divideSlot target index offset =>
    rcases Store.divideSlot_cases (fun _ => sound.slot_known target) workspace.cap index offset with
      ⟨fault, refused⟩ | ⟨piece, position, _, _, gives, divided⟩
    · simp [pushed, perform, settle, refused, Except.map]
    · simp only [pushed, perform, settle, gives, divided.arenas, Except.map]
      split <;> simp_all
  | _ =>
    rw [(counts_perform workspace id).1]
    exact (List.append_nil _).symm

/-- An action pushes nothing, or gives one piece a slot at the end of an arena and returns the number
of that slot. A division gives the slot to the piece it makes. -/
theorem pushed_cases (sound : workspace.store.WellFormed) (action : Action) :
    (∀ arena, workspace.pushed printable arena action = []) ∨
      ∃ arena piece, (action = .push arena piece ∨
          (∃ index offset, action = .divideSlot arena index offset) ∧
            workspace.made printable action = [piece]) ∧
        (workspace.perform printable action).reply =
          .ok (.number (workspace.store.arena arena).size) ∧
        ∀ other, workspace.pushed printable other action = if arena = other then [piece] else [] := by
  cases action with
  | push arena piece => exact .inr ⟨arena, piece, .inl rfl, rfl, fun _ => rfl⟩
  | divideSlot arena index offset =>
    rcases Store.divideSlot_cases (fun _ => sound.slot_known arena) workspace.cap index offset with
      ⟨fault, refused⟩ | ⟨_, _, _, _, gives, _⟩
    · exact .inl fun other => by simp [pushed, perform, settle, refused, Except.map]
    · refine .inr ⟨arena, workspace.store.pieces.size, .inr ⟨⟨index, offset, rfl⟩, ?_⟩, ?_, fun other => ?_⟩
      · simp [made, perform, settle, gives, Except.map]
      · simp [perform, settle, gives, Except.map]
      · simp [pushed, perform, settle, gives, Except.map]
  | _ => exact .inl fun _ => rfl

/-- What an action leaves alone, and what it adds. -/
structure Frame (printable : Char → Bool) (workspace : Workspace) (action : Action)
    (after : Store) : Prop where
  /-- Every piece but the one that the action is aimed at keeps its state. -/
  pieces : ∀ piece < workspace.store.pieces.size, workspace.target? action ≠ some piece →
    workspace.store.SamePiece after piece
  /-- A piece that was not there is one that the action has made. -/
  made : after.pieces.size = workspace.store.pieces.size + (workspace.made printable action).length
  /-- Every arena stays, or one gets one slot at its end, and the action returns its number. -/
  arenas : (∀ arena, after.arena arena = workspace.store.arena arena) ∨
    ∃ arena piece, (action = .push arena piece ∨
        (∃ index offset, action = .divideSlot arena index offset) ∧
          workspace.made printable action = [piece]) ∧
      (workspace.perform printable action).reply = .ok (.number (workspace.store.arena arena).size) ∧
      ∀ other, after.arena other =
        if arena = other then (workspace.store.arena arena).push piece
        else workspace.store.arena other

theorem frame_perform (sound : workspace.store.WellFormed) (aimed : action.Aimed workspace.store) :
    workspace.Frame printable action (workspace.perform printable action).workspace.store where
  pieces := fun _ there apart => keeps_perform sound aimed.1 there apart
  made := size_perform sound action
  arenas := by
    have grown := @arena_perform printable workspace action sound aimed
    rcases @pushed_cases printable workspace sound action with none | ⟨arena, piece, kind, gives, one⟩
    · refine .inl fun arena => Array.toList_inj.mp ?_
      rw [grown, none, List.append_nil]
    · refine .inr ⟨arena, piece, kind, gives, fun other => Array.toList_inj.mp ?_⟩
      rw [grown, one]
      split
      · rename_i here
        rw [here, Array.toList_push]
      · rw [List.append_nil]

theorem along_mono {allowed allowed' : Workspace → Action → Prop}
    (weaker : ∀ {now action}, allowed now action → allowed' now action) {actions : List Action}
    (along : workspace.Along printable allowed actions) :
    workspace.Along printable allowed' actions := by
  induction actions generalizing workspace with
  | nil => trivial
  | cons action actions ih => exact ⟨weaker along.1, ih along.2⟩

/-- Over a run an arena holds the pieces that were pushed into it, in that order, at the end of what
it held before. -/
theorem arena_run (sound : workspace.store.WellFormed) {actions : List Action}
    (aimed : workspace.Along printable (fun now action => action.Aimed now.store) actions)
    (arena : Nat) :
    ((workspace.run printable actions).store.arena arena).toList =
      (workspace.store.arena arena).toList ++
        workspace.collect printable (pushed printable arena) actions := by
  let held (now : Workspace) (seen : List Nat) :=
    now.store.WellFormed ∧ (now.store.arena arena).toList = seen
  have step : ∀ {now seen action}, action.Aimed now.store → held now seen →
      held (now.perform printable action).workspace (seen ++ now.pushed printable arena action) := by
    intro now seen action only kept
    exact ⟨wellFormed_perform kept.1 only.1, by rw [arena_perform kept.1 only, kept.2]⟩
  have start : held workspace (workspace.store.arena arena).toList := ⟨sound, rfl⟩
  exact (along_keeps held step start aimed).2

end Workspace

end Patchwork
