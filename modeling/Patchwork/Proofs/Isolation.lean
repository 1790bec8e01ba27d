import Patchwork.Proofs.Frame

/-! # Arenas that share no piece

What is read of an arena, all at once or by a cursor, is told by its slots and by the state of the
pieces in them. A run that works on one arena, and on pieces that are not in another, leaves these
of the other as they were. So nothing that is read of the other changes, and the two never come to
share a piece.
-/
namespace Patchwork

theorem Delivery.opening_congr {α β : Type} {open? open?' : α → Except Fault (List β)}
    {last : Option Fault} {items : List α} (alike : ∀ item ∈ items, open? item = open?' item) :
    opening open? last items = opening open?' last items := by
  induction items with
  | nil => rfl
  | cons item items ih =>
    obtain ⟨first, rest⟩ := List.forall_mem_cons.mp alike
    unfold opening
    rw [first, ih rest]

namespace Store

variable {before after store : Store} {arena other : Nat}

/-- Two arenas have no piece in common. -/
def Apart (store : Store) (arena other : Nat) : Prop :=
  ∀ piece ∈ store.arena arena, piece ∉ store.arena other

instance (store : Store) (arena other : Nat) : Decidable (store.Apart arena other) :=
  inferInstanceAs (Decidable (∀ piece ∈ store.arena arena, _))

theorem mem_arena_of_mem_follow {head : Int} {room : Nat} {pending : Option Int} {step : Nat × Nat}
    (among : step ∈ (store.follow arena head room pending).items) : step.2 ∈ store.arena arena := by
  induction room generalizing pending with
  | zero =>
    cases pending with
    | none => cases among
    | some index =>
      unfold follow at among
      split at among <;> cases among
  | succ room ih =>
    cases pending with
    | none => cases among
    | some index =>
      unfold follow at among
      split at among
      · cases among
      · rename_i piece found
        rcases List.mem_cons.mp among with rfl | later
        · exact mem_arena_of_slot? (get_eq_ok_iff.mp found)
        · exact ih later

/-- An arena keeps its slots, and the pieces in them keep their state. -/
structure SameArena (before after : Store) (arena : Nat) : Prop where
  slots : after.arena arena = before.arena arena
  pieces : ∀ piece ∈ before.arena arena, before.SamePiece after piece

namespace SameArena

theorem refl (store : Store) (arena : Nat) : SameArena store store arena :=
  ⟨rfl, fun piece _ => .refl store piece⟩

theorem trans {last : Store} (first : SameArena before after arena)
    (second : SameArena after last arena) : SameArena before last arena :=
  ⟨second.slots.trans first.slots, fun piece held =>
    (first.pieces piece held).trans (second.pieces piece (first.slots ▸ held))⟩

variable (same : SameArena before after arena)
include same

theorem slot?_eq (index : Int) : after.slot? arena index = before.slot? arena index := by
  unfold slot?
  rw [same.slots]

theorem get_eq (index : Int) : after.get arena index = before.get arena index := by
  unfold get
  rw [same.slot?_eq, same.slots]

theorem stored_eq {piece : Nat} {index : Int} (found : before.get arena index = .ok piece) :
    after.stored piece = before.stored piece :=
  (same.pieces piece (mem_arena_of_slot? (get_eq_ok_iff.mp found))).stored

theorem follow_eq (head : Int) (room : Nat) (pending : Option Int) :
    after.follow arena head room pending = before.follow arena head room pending := by
  induction room generalizing pending with
  | zero =>
    cases pending with
    | none => rfl
    | some index =>
      unfold follow
      rw [same.get_eq]
  | succ room ih =>
    cases pending with
    | none => rfl
    | some index =>
      unfold follow
      rw [same.get_eq]
      cases found : before.get arena index with
      | error fault => rfl
      | ok piece =>
        dsimp only
        rw [ih, same.stored_eq found]

theorem trail_eq (head : Int) : after.trail arena head = before.trail arena head := by
  unfold trail
  rw [same.slots, same.follow_eq]

theorem output_eq (head : Int) (source : String) :
    after.output arena head source = before.output arena head source := by
  unfold output Delivery.expand
  rw [same.trail_eq]
  refine Delivery.opening_congr fun step among => ?_
  rw [(same.pieces step.2 (mem_arena_of_mem_follow among)).piece_eq]

theorem render_eq (head : Int) (source : String) :
    after.render arena head source = before.render arena head source := by
  unfold render
  rw [same.output_eq]

theorem listing_eq : after.listing arena = before.listing arena := by
  unfold listing
  rw [same.slots]
  exact List.map_congr_left fun piece held => (same.pieces piece (Array.mem_toList_iff.mp held)).piece_eq

end SameArena

end Store

section Cursors

variable {before after : Store} {arena : Nat}

def Part.Reads (arena : Nat) (store : Store) : Part → Prop
  | .text _ => True
  | .queue watched _ _ =>
    ∃ piece ∈ store.arena arena, ∃ side, watched = (store.stored piece).queue side

def Walk.Reads (arena : Nat) (store : Store) (walk : Walk) : Prop :=
  walk.arena = arena ∧ ∀ piece, walk.place = .after piece → piece ∈ store.arena arena

/-- A cursor that reads nothing but the arena and the pieces in it. -/
def Cursor.Reads (arena : Nat) (store : Store) : Cursor → Prop
  | .walk current => current.Reads arena store
  | .listing current => current.arena = arena
  | .parts current => ∀ part ∈ current, part.Reads arena store
  | .output current => current.walk.Reads arena store ∧ ∀ part ∈ current.parts, part.Reads arena store

variable (same : before.SameArena after arena)
include same

theorem Part.next_eq {parts : List Part} (reads : ∀ part ∈ parts, part.Reads arena before) :
    Part.next after parts = Part.next before parts ∧
      ∀ part ∈ (Part.next before parts).2, part.Reads arena before := by
  induction parts with
  | nil => exact ⟨rfl, reads⟩
  | cons part parts ih =>
    obtain ⟨first, rest⟩ := List.forall_mem_cons.mp reads
    cases part with
    | text shown => exact ⟨rfl, rest⟩
    | queue watched revision items =>
      obtain ⟨piece, held, side, rfl⟩ := first
      have queue := (same.pieces piece held).queue side
      unfold Part.next
      rw [queue]
      split
      · cases items with
        | nil => exact ih rest
        | cons fragment items =>
          exact ⟨rfl, List.forall_mem_cons.mpr ⟨⟨piece, held, side, rfl⟩, rest⟩⟩
      · exact ⟨rfl, rest⟩

theorem Part.ofPiece_eq {piece : Nat} (held : piece ∈ before.arena arena) (source : String) :
    Part.ofPiece after piece source = Part.ofPiece before piece source ∧
      ∀ parts, Part.ofPiece before piece source = .ok parts → ∀ part ∈ parts, part.Reads arena before := by
  have kept := same.pieces piece held
  have intro := kept.queue .intro
  have outro := kept.queue .outro
  simp only [Piece.queue] at intro outro
  refine ⟨by simp only [Part.ofPiece, watch, kept.stored, intro, outro], fun parts opened => ?_⟩
  unfold Part.ofPiece at opened
  cases read : (before.stored piece).content source with
  | error fault => simp [read, Except.map] at opened
  | ok content =>
    simp only [read, Except.map, Except.ok.injEq] at opened
    subst opened
    simp only [List.forall_mem_cons]
    exact ⟨⟨piece, held, .intro, rfl⟩, trivial, ⟨piece, held, .outro, rfl⟩, List.forall_mem_nil _⟩

theorem Walk.next_eq {walk : Walk} (reads : walk.Reads arena before) :
    walk.next after = walk.next before ∧ (walk.next before).2.Reads arena before ∧
      ∀ step, (walk.next before).1 = .item step → step.2 ∈ before.arena arena := by
  obtain ⟨rfl, place⟩ := reads
  have pending : walk.pending after = walk.pending before := by
    unfold Walk.pending
    split
    · rfl
    · rename_i piece at_piece
      rw [(same.pieces piece (place piece at_piece)).stored]
    · rfl
  have closed : walk.close.Reads walk.arena before := ⟨rfl, nofun⟩
  unfold Walk.next
  rw [pending]
  split
  · exact ⟨rfl, closed, nofun⟩
  · rename_i index _
    rw [same.get_eq, same.slots]
    split
    · exact ⟨rfl, closed, nofun⟩
    · rename_i piece found
      have held := Store.mem_arena_of_slot? (Store.get_eq_ok_iff.mp found)
      split
      · exact ⟨rfl, closed, nofun⟩
      · refine ⟨rfl, ⟨rfl, fun _ here => ?_⟩, fun _ given => ?_⟩
        · cases here
          exact held
        · cases given
          exact held

theorem Listing.next_eq {listing : Listing} (reads : listing.arena = arena) :
    listing.next after = listing.next before ∧ (listing.next before).2.arena = arena ∧
      ∀ piece, (listing.next before).1 = .item piece → piece ∈ before.arena arena := by
  subst reads
  unfold Listing.next
  rw [same.slots]
  split
  · exact ⟨rfl, rfl, nofun⟩
  · split
    · rename_i piece found
      refine ⟨rfl, rfl, fun _ given => ?_⟩
      cases given
      exact Array.mem_of_getElem? found
    · exact ⟨rfl, rfl, nofun⟩

theorem OutputReading.next_eq {reading : OutputReading} (walks : reading.walk.Reads arena before)
    (reads : ∀ part ∈ reading.parts, part.Reads arena before) :
    reading.next after = reading.next before ∧
      (Cursor.output (reading.next before).2).Reads arena before := by
  obtain ⟨left, others⟩ := Part.next_eq same reads
  obtain ⟨steps, later, held⟩ := Walk.next_eq same walks
  have closed : (Cursor.output reading.close).Reads arena before := ⟨⟨walks.1, nofun⟩, nofun⟩
  unfold OutputReading.next
  rw [left]
  rcases given : Part.next before reading.parts with ⟨_ | _ | _, rest⟩
  · rw [given] at others
    exact ⟨rfl, walks, others⟩
  · dsimp only
    rw [steps]
    rcases stepped : reading.walk.next before with ⟨⟨slot, piece⟩ | _ | _, onward⟩
    · rw [stepped] at later held
      obtain ⟨same_parts, reads⟩ := Part.ofPiece_eq same (held _ rfl) reading.source
      dsimp only
      rw [same_parts]
      cases opened : Part.ofPiece before piece reading.source with
      | error fault => exact ⟨rfl, closed⟩
      | ok parts =>
        obtain ⟨first, others⟩ := Part.next_eq same (reads parts opened)
        dsimp only
        rw [first]
        rcases begun : Part.next before parts with ⟨_ | _ | _, rest⟩
        · rw [begun] at others
          exact ⟨rfl, later, others⟩
        · exact ⟨rfl, closed⟩
        · exact ⟨rfl, closed⟩
    · exact ⟨rfl, closed⟩
    · exact ⟨rfl, closed⟩
  · exact ⟨rfl, closed⟩

theorem Cursor.next_eq {cursor : Cursor} (reads : cursor.Reads arena before) :
    cursor.next after = cursor.next before ∧ (cursor.next before).2.Reads arena before := by
  cases cursor with
  | walk current =>
    obtain ⟨steps, later, held⟩ := Walk.next_eq same reads
    simp only [Cursor.next, steps]
    rcases stepped : current.next before with ⟨⟨slot, piece⟩ | _ | _, onward⟩ <;>
      rw [stepped] at later held
    · refine ⟨?_, later⟩
      simp only [Pull.map, (same.pieces piece (held _ rfl)).stored]
    · exact ⟨rfl, later⟩
    · exact ⟨rfl, later⟩
  | listing current =>
    obtain ⟨steps, later, held⟩ := Listing.next_eq same reads
    simp only [Cursor.next, steps]
    rcases stepped : current.next before with ⟨piece | _ | _, onward⟩ <;> rw [stepped] at later held
    · refine ⟨?_, later⟩
      simp only [Pull.map, (same.pieces piece (held _ rfl)).stored]
    · exact ⟨rfl, later⟩
    · exact ⟨rfl, later⟩
  | parts current =>
    obtain ⟨left, others⟩ := Part.next_eq same reads
    exact ⟨by simp only [Cursor.next, left], others⟩
  | output current =>
    obtain ⟨left, others⟩ := OutputReading.next_eq same reads.1 reads.2
    exact ⟨by simp only [Cursor.next, left], others⟩

theorem Cursor.pull_eq (count : Nat) {cursor : Cursor} (reads : cursor.Reads arena before) :
    cursor.pull after count = cursor.pull before count := by
  induction count generalizing cursor with
  | zero => rfl
  | succ count ih =>
    obtain ⟨gives, later⟩ := Cursor.next_eq same reads
    unfold Cursor.pull
    rw [gives]
    rcases given : cursor.next before with ⟨_ | _ | _, onward⟩ <;> rw [given] at later
    dsimp only
    rw [ih later]

end Cursors

/-- A question that is about an arena, or about pieces in it. -/
def Question.Reads (arena : Nat) (store : Store) : Question → Prop
  | .size target | .slot target _ | .listing target | .walk target _ | .output target _ _
  | .render target _ _ => target = arena
  | .bounds piece | .contains piece _ | .isEdited piece | .display piece | .fragments piece _ =>
    piece ∈ store.arena arena
  | .compare left right => left ∈ store.arena arena ∧ right ∈ store.arena arena
  | _ => False

namespace Workspace

variable {printable : Char → Bool} {workspace after : Workspace} {arena other : Nat}

theorem answer_eq (same : workspace.store.SameArena after.store arena) {question : Question}
    (reads : question.Reads arena workspace.store) :
    after.answer printable question = workspace.answer printable question := by
  cases question with
  | size target =>
    cases reads
    simp only [answer, same.slots]
  | slot target index =>
    cases reads
    simp only [answer, same.get_eq]
  | listing target =>
    cases reads
    simp only [answer, same.listing_eq]
  | bounds piece => simp only [answer, (same.pieces piece reads).stored]
  | contains piece offset => simp only [answer, (same.pieces piece reads).stored]
  | isEdited piece => simp only [answer, (same.pieces piece reads).stored]
  | compare left right =>
    simp only [answer, (same.pieces left reads.1).piece_eq, (same.pieces right reads.2).piece_eq]
  | display piece => simp only [answer, (same.pieces piece reads).piece_eq]
  | fragments piece source => simp only [answer, (same.pieces piece reads).piece_eq]
  | walk target head =>
    cases reads
    have shown : (workspace.store.trail arena head).items.map (fun step =>
          Item.slot step.1 (after.store.stored step.2).span) =
        (workspace.store.trail arena head).items.map fun step =>
          Item.slot step.1 (workspace.store.stored step.2).span :=
      List.map_congr_left fun step among => by
        rw [(same.pieces step.2 (Store.mem_arena_of_mem_follow among)).stored]
    simp only [answer, same.trail_eq, Batch.ofDelivery, shown]
  | output target head source =>
    cases reads
    simp only [answer, same.output_eq]
  | render target head source =>
    cases reads
    simp only [answer, same.render_eq]
  | _ => exact reads.elim

end Workspace

/-- An action that pushes to one arena at most, and is aimed at no piece of another. -/
def Action.Spares (arena other : Nat) (store : Store) (action : Action) : Prop :=
  (∀ target ∈ action.arenas, target = arena) ∧ ∀ piece ∈ action.pieces, piece ∉ store.arena other

instance (arena other : Nat) (store : Store) (action : Action) :
    Decidable (action.Spares arena other store) :=
  inferInstanceAs (Decidable ((∀ target ∈ action.arenas, _) ∧ ∀ piece ∈ action.pieces, _))

namespace Workspace

variable {printable : Char → Bool} {workspace : Workspace} {arena other : Nat}

theorem mem_pieces_of_target? {action : Action} {piece : Nat}
    (aimed : workspace.target? action = some piece) :
    piece ∈ action.pieces ∨ ∃ arena ∈ action.arenas, piece ∈ workspace.store.arena arena := by
  cases action with
  | divideSlot arena index offset =>
    exact .inr ⟨arena, List.mem_singleton_self _, Store.mem_arena_of_slot? aimed⟩
  | decorate | edit | divide | setNext | setStoreName | setSpan | setEdited =>
    cases aimed
    exact .inl (List.mem_singleton_self _)
  | _ => cases aimed

theorem eq_size_of_mem_made {action : Action} {piece : Nat}
    (made : piece ∈ workspace.made printable action) : piece = workspace.store.pieces.size := by
  unfold Workspace.made at made
  split at made <;> simp_all

/-- An action that spares an arena leaves it as it was, and gives the other no piece of it. -/
theorem sameArena_perform {action : Action} (sound : workspace.store.WellFormed)
    (different : arena ≠ other) (apart : workspace.store.Apart arena other)
    (aimed : action.Aimed workspace.store) (spares : action.Spares arena other workspace.store) :
    let after := (workspace.perform printable action).workspace.store
    workspace.store.SameArena after other ∧ after.Apart arena other := by
  intro after
  obtain ⟨pushes, aims⟩ := spares
  have frame := @frame_perform printable workspace action sound aimed
  have pieces : ∀ piece ∈ workspace.store.arena other, workspace.store.SamePiece after piece := by
    refine fun piece held => frame.pieces piece (sound.slot_known other held) fun target => ?_
    rcases mem_pieces_of_target? target with among | ⟨pushed, among, held'⟩
    · exact aims piece among held
    · exact apart piece (pushes pushed among ▸ held') held
  rcases frame.arenas with still | ⟨pushed, piece, kind, _, grown⟩
  · refine ⟨⟨still other, pieces⟩, ?_⟩
    unfold Store.Apart
    rw [still, still]
    exact apart
  · have here : pushed = arena := by
      rcases kind with rfl | ⟨⟨index, offset, rfl⟩, _⟩ <;> exact pushes _ (List.mem_singleton_self _)
    subst here
    -- The pushed piece is one that the action names, or a new one that no slot can hold yet.
    have elsewhere : piece ∉ workspace.store.arena other := by
      rcases kind with rfl | ⟨_, made⟩
      · exact aims piece (List.mem_singleton_self _)
      · have new := eq_size_of_mem_made (made ▸ List.mem_singleton_self piece)
        exact fun held => Nat.ne_of_lt (sound.slot_known other held) new
    have slots : after.arena other = workspace.store.arena other := by rw [grown, if_neg different]
    refine ⟨⟨slots, pieces⟩, fun member held => ?_⟩
    rw [slots]
    rw [grown, if_pos rfl] at held
    rcases Array.mem_push.mp held with old | rfl
    · exact apart member old
    · exact elsewhere

theorem sameArena_run {actions : List Action} (sound : workspace.store.WellFormed)
    (different : arena ≠ other) (apart : workspace.store.Apart arena other)
    (spares : workspace.Along printable (fun now action =>
      action.Aimed now.store ∧ action.Spares arena other now.store) actions) :
    let after := (workspace.run printable actions).store
    workspace.store.SameArena after other ∧ after.Apart arena other := by
  induction actions generalizing workspace with
  | nil => exact ⟨.refl _ _, apart⟩
  | cons action actions ih =>
    obtain ⟨⟨aimed, first⟩, rest⟩ := spares
    obtain ⟨same, still⟩ := sameArena_perform sound different apart aimed first
    obtain ⟨later, last⟩ := ih (wellFormed_perform sound aimed.1) still rest
    exact ⟨same.trans later, last⟩

/-- Wherever a run has come to, every piece has queues of its own, the next action leaves alone all
that it is not aimed at, and the slots of an arena are those of the pieces pushed into it, for good.
Work on one arena, with pieces that are not in another, is not seen in the other. -/
theorem run_owns_and_isolates {actions : List Action}
    (aimed : ({} : Workspace).Along printable (fun now action => action.Aimed now.store) actions) :
    let workspace := ({} : Workspace).run printable actions
    let pushes (arena : Nat) := ({} : Workspace).collect printable (pushed printable arena) actions
    (∀ piece < workspace.store.pieces.size, ∀ other < workspace.store.pieces.size, ∀ side side',
      (workspace.store.stored piece).queue side = (workspace.store.stored other).queue side' →
        piece = other ∧ side = side') ∧
    (∀ action, action.Aimed workspace.store →
      workspace.Frame printable action (workspace.perform printable action).workspace.store) ∧
    (∀ arena index, (∃ piece, workspace.store.get arena index = .ok piece) ↔
      0 ≤ index ∧ index < (pushes arena).length) ∧
    (∀ arena index piece, workspace.store.get arena index = .ok piece ↔
      0 ≤ index ∧ (pushes arena)[index.toNat]? = some piece) ∧
    (∀ later arena index piece, workspace.store.get arena index = .ok piece →
      (workspace.run printable later).store.get arena index = .ok piece) ∧
    ∀ arena other, arena ≠ other → workspace.store.Apart arena other → ∀ later,
      workspace.Along printable (fun now action =>
        action.Aimed now.store ∧ action.Spares arena other now.store) later →
      let after := workspace.run printable later
      after.store.Apart arena other ∧
      (∀ question, question.Reads other workspace.store →
        after.answer printable question = workspace.answer printable question) ∧
      ∀ (cursor : Cursor) (count : Nat), cursor.Reads other workspace.store →
        cursor.pull after.store count = cursor.pull workspace.store count := by
  intro workspace pushes
  have sound : workspace.store.WellFormed :=
    Reachable.wellFormed ⟨actions, along_mono And.left aimed, rfl⟩
  have slots : ∀ arena, (workspace.store.arena arena).toList = pushes arena := by
    intro arena
    exact arena_run Store.WellFormed.empty aimed arena
  have found : ∀ arena index piece, workspace.store.get arena index = .ok piece ↔
      0 ≤ index ∧ (pushes arena)[index.toNat]? = some piece := by
    intro arena index piece
    rw [Store.get_eq_ok_iff, Store.slot?, ← slots, Array.getElem?_toList]
    split
    · rename_i inside
      exact (and_iff_right inside).symm
    · rename_i below
      exact iff_of_false (Option.some_ne_none piece).symm fun held => below held.1
  refine ⟨fun _ here _ there _ _ => sound.queue_inj here there, fun action => frame_perform sound,
    fun arena index => ?_, found, fun later arena index piece held => ?_, ?_⟩
  · rw [← slots, Array.length_toList, ← Store.slot?_isSome_iff, Option.isSome_iff_exists]
    exact exists_congr fun _ => Store.get_eq_ok_iff
  · exact Store.get_eq_ok_iff.mpr ((extends_run workspace later).slot? (Store.get_eq_ok_iff.mp held))
  · intro arena other different apart later spares after
    obtain ⟨same, still⟩ := sameArena_run sound different apart spares
    exact ⟨still, fun _ reads => answer_eq same reads, fun _ count reads => Cursor.pull_eq same count reads⟩

/-- Two arenas of one and of two slots. Then the first is worked on: its piece is divided, decorated,
edited and pushed a second time, one division is refused, and the right half gets a text. -/
theorem run_owns_and_isolates_of_two_arenas :
    let actions : List Action := [.openArena, .openArena,
      .create { span := ⟨0, 6, by decide⟩, intro := [], outro := [] }, .push 0 0,
      .create { span := ⟨0, 4, by decide⟩, intro := [.owned "<"], outro := [.owned ">"] }, .push 1 1,
      .divideSlot 1 0 2]
    let later : List Action := [.divideSlot 0 0 3, .decorate 0 .outro .back (.plain "!"),
      .edit 0 (.plain "x") {}, .push 0 0, .divideSlot 0 0 1, .setEdited 3 (some (.plain "y"))]
    let workspace := ({} : Workspace).run (fun _ => true) actions
    let after := workspace.run (fun _ => true) later
    ({} : Workspace).Along (fun _ => true) (fun now action => action.Aimed now.store) actions ∧
    workspace.store.Apart 0 1 ∧
    workspace.Along (fun _ => true) (fun now action =>
      action.Aimed now.store ∧ action.Spares 0 1 now.store) later ∧
    workspace.store.get 1 1 = .ok 2 ∧ after.store.get 1 1 = .ok 2 ∧ after.store.Apart 0 1 ∧
    workspace.store.render 1 0 "abcd" = .ok "<abcd>" ∧
    after.answer (fun _ => true) (.render 1 0 (.plain "abcd")) =
      workspace.answer (fun _ => true) (.render 1 0 (.plain "abcd")) := by
  intro actions later workspace after
  have aimed : ({} : Workspace).Along (fun _ => true) (fun now action => action.Aimed now.store)
      actions := by decide +kernel
  have apart : workspace.store.Apart 0 1 := by decide +kernel
  have spares : workspace.Along (fun _ => true) (fun now action =>
      action.Aimed now.store ∧ action.Spares 0 1 now.store) later := by decide +kernel
  obtain ⟨_, _, _, slots, lasts, isolated⟩ := run_owns_and_isolates aimed
  obtain ⟨still, answers, _⟩ := isolated 0 1 (by decide) apart later spares
  have second : workspace.store.get 1 1 = .ok 2 := (slots 1 1 2).mpr (by decide +kernel)
  exact ⟨aimed, apart, spares, second, lasts later 1 1 2 second, still, by decide +kernel,
    answers _ rfl⟩

end Workspace

end Patchwork
