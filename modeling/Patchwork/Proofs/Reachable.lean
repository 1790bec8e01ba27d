import Patchwork.Proofs.Life
import Patchwork.Proofs.Tiling
import Patchwork.Store.WellFormed

/-! # Workspaces that runs come to

A run starts from an empty workspace and names only pieces that are there. Whatever it does, its
store stays well formed: no two pieces share a queue. And whatever is done to any store, slots
that were given out keep their pieces, since arenas only grow at their ends.
-/
namespace Patchwork

/-- The pieces that an action is aimed at. Questions change nothing and may be about anything. -/
def Action.pieces : Action → List Nat
  | .push _ piece | .decorate piece .. | .edit piece .. | .divide piece _ | .setNext piece _
  | .setStoreName piece _ | .setSpan piece _ | .setEdited piece _ | .openParts piece _ => [piece]
  | _ => []

/-- An action is aimed at pieces of the store. -/
def Action.Known (action : Action) (store : Store) : Prop :=
  ∀ piece ∈ action.pieces, piece < store.pieces.size

instance (action : Action) (store : Store) : Decidable (action.Known store) :=
  inferInstanceAs (Decidable (∀ piece ∈ action.pieces, _))

namespace Store

variable {before after store : Store}

/-- Every slot is kept with its piece. Arenas may have further slots at their ends. -/
def Extends (before after : Store) : Prop :=
  ∀ arena, (before.arena arena).toList <+: (after.arena arena).toList

namespace Extends

theorem of_arena_eq (same : ∀ arena, after.arena arena = before.arena arena) :
    Extends before after := by
  intro arena
  have kept : (before.arena arena).toList = (after.arena arena).toList :=
    congrArg Array.toList (same arena).symm
  exact kept ▸ List.prefix_rfl

theorem refl (store : Store) : Extends store store := of_arena_eq fun _ => rfl

theorem trans {last : Store} (first : Extends before after) (second : Extends after last) :
    Extends before last := fun arena => (first arena).trans (second arena)

theorem appendSlot (store : Store) (arena piece : Nat) :
    Extends store (store.appendSlot arena piece) := by
  by_cases known : arena < store.arenas.size
  · intro other
    rw [arena_appendSlot known]
    split
    · rename_i same
      subst same
      rw [Array.toList_push]
      exact List.prefix_append _ _
    · exact List.prefix_rfl
  · exact of_arena_eq (arena_appendSlot_of_unknown known)

theorem divide (store : Store) (cap : Int) (piece : Nat) (offset : Int) :
    Extends store (store.divide cap piece offset).store := by
  apply of_arena_eq
  intro arena
  unfold Store.divide
  split <;> rfl

theorem divideSlot (store : Store) (cap : Int) (arena : Nat) (index offset : Int) :
    Extends store (store.divideSlot cap arena index offset).store := by
  unfold Store.divideSlot
  split
  · exact refl store
  · rename_i piece _
    have divided := divide store cap piece offset
    cases cut : store.divide cap piece offset with
    | mk result halved log =>
      rw [cut] at divided
      cases result with
      | error fault => exact divided
      | ok right => exact divided.trans (appendSlot halved arena right)

theorem size_le (extended : Extends before after) (arena : Nat) :
    (before.arena arena).size ≤ (after.arena arena).size := (extended arena).length_le

theorem slot? (extended : Extends before after) {arena piece : Nat} {index : Int}
    (found : before.slot? arena index = some piece) : after.slot? arena index = some piece := by
  unfold Store.slot? at found ⊢
  split at found
  · rename_i inside
    obtain ⟨others, joined⟩ := extended arena
    rw [← Array.getElem?_toList] at found
    rw [if_pos inside, ← Array.getElem?_toList, ← joined,
      List.getElem?_append_left (List.getElem?_eq_some_iff.mp found).1]
    exact found
  · cases found

end Extends

end Store

namespace Workspace

variable {printable : Char → Bool} {workspace : Workspace}

theorem extends_perform (workspace : Workspace) (action : Action) :
    workspace.store.Extends (workspace.perform printable action).workspace.store := by
  rw [store_perform]
  cases action with
  | openArena => exact .of_arena_eq (Store.arena_addArena _)
  | create view => exact .of_arena_eq (Store.arena_addPiece _ view)
  | push arena piece => exact .appendSlot _ arena piece
  | decorate piece side place content =>
    exact .of_arena_eq (Store.SameOutline.decorate _ _ piece side place content).arenas
  | edit piece content policy =>
    exact .of_arena_eq (Store.SameOutline.edit _ _ piece content policy).arenas
  | divide piece offset => exact .divide _ _ piece offset
  | divideSlot arena index offset => exact .divideSlot _ _ arena index offset
  | setNext | setStoreName | setSpan => exact .of_arena_eq (Store.arena_setPiece _ _ _)
  | setEdited piece content =>
    cases content with
    | none => exact .of_arena_eq (Store.arena_setPiece _ _ _)
    | some content =>
      dsimp only
      split
      · exact .of_arena_eq (Store.arena_setPiece _ _ _)
      · exact .refl _
  | _ => exact .refl _

theorem extends_run (workspace : Workspace) (actions : List Action) :
    workspace.store.Extends (workspace.run printable actions).store := by
  induction actions generalizing workspace with
  | nil => exact .refl _
  | cons action actions ih => exact (extends_perform workspace action).trans (ih _)

theorem wellFormed_perform (sound : workspace.store.WellFormed) {action : Action}
    (known : action.Known workspace.store) :
    (workspace.perform printable action).workspace.store.WellFormed := by
  rw [store_perform]
  cases action with
  | openArena => exact sound.addArena
  | create view => exact sound.addPiece view
  | push arena piece => exact sound.appendSlot (known piece (List.mem_singleton_self _))
  | decorate piece side place content => exact sound.decorate _ piece side place content
  | edit piece content policy => exact sound.edit _ piece content policy
  | divide piece offset => exact sound.divide _ (known piece (List.mem_singleton_self _)) offset
  | divideSlot arena index offset => exact sound.divideSlot _ arena index offset
  | setNext piece next => exact sound.setNext piece next
  | setStoreName piece storeName => exact sound.setStoreName piece storeName
  | setSpan piece span => exact sound.setSpan piece span
  | setEdited piece content =>
    cases content with
    | none => exact sound.setEdited piece none
    | some content =>
      dsimp only
      split
      · exact sound.setEdited piece _
      · exact sound
  | _ => exact sound

/-- A workspace that a run comes to, aimed throughout at pieces that are there. -/
def Reachable (printable : Char → Bool) (workspace : Workspace) : Prop :=
  ∃ actions, Along printable (fun now action => action.Known now.store) {} actions ∧
    ({} : Workspace).run printable actions = workspace

theorem wellFormed_run (sound : workspace.store.WellFormed) {actions : List Action}
    (known : workspace.Along printable (fun now action => action.Known now.store) actions) :
    (workspace.run printable actions).store.WellFormed := by
  induction actions generalizing workspace with
  | nil => exact sound
  | cons action actions ih =>
    obtain ⟨first, rest⟩ := known
    exact ih (wellFormed_perform sound first) rest

theorem Reachable.wellFormed (reachable : workspace.Reachable printable) :
    workspace.store.WellFormed := by
  obtain ⟨actions, known, rfl⟩ := reachable
  exact wellFormed_run Store.WellFormed.empty known

end Workspace

end Patchwork
