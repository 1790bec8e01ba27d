import Patchwork.Proofs.Life
import Patchwork.Store.View

/-! # Bounds of what is held

A span or a fragment is checked against the cap when it is made, and never again: it is copied,
stored, shared and read under any later cap. What bounds it is the highest cap so far. Under a
limit that the caps never exceed, every operation takes values within the limit to values within
the limit: a division too, for the end of the divided span is checked once more.
-/
namespace Patchwork

namespace Span

/-- A span that ends within a limit. -/
def Within (limit : Int) (span : Span) : Prop := (span.stop : Int) ≤ limit

theorem within_of_ofBounds {cap limit start stop : Int} {span : Span} (low : cap ≤ limit)
    (built : Span.ofBounds cap start stop = .ok span) : span.Within limit := by
  obtain ⟨_, rfl, small⟩ := Span.ofBounds_eq_ok_iff.mp built
  exact Int.le_trans small low

/-- Two spans that make up a third, which was cut at an offset inside it. -/
structure Halves (whole left right : Span) (offset : Int) : Prop where
  inside : whole.Inside offset
  start : left.start = whole.start
  cut : (left.stop : Int) = offset
  meet : right.start = left.stop
  stop : right.stop = whole.stop

end Span

namespace Fragment

/-- A fragment that was made under a limit: an owned text is that short, and a view has its whole
span within the limit. -/
def Within (limit : Int) : Fragment → Prop
  | owned text => (text.length : Int) ≤ limit
  | borrowed _ span _ => span.Within limit

theorem Within.length_le {limit : Int} {fragment : Fragment} (within : fragment.Within limit) :
    (fragment.length : Int) ≤ limit := by
  cases fragment with
  | owned text => exact within
  | borrowed source span fits =>
    have stops : (span.stop : Int) ≤ limit := within
    simp only [length, Span.length]
    omega

def span? : Fragment → Option Span
  | owned _ => none
  | borrowed _ span _ => some span

/-- What a fragment is at any time after it was made under a limit: as long as its text, no longer
than the limit, and either owned or a view that its source has room for. -/
structure Sound (limit : Int) (fragment : Fragment) : Prop where
  length_text : fragment.length = fragment.text.length
  length_le : (fragment.length : Int) ≤ limit
  form : match fragment with
    | owned text => fragment.isBorrowed = false ∧ fragment.text = text
    | borrowed source span _ => fragment.isBorrowed = true ∧ fragment.text ≠ "" ∧
        fragment.text = slice source span.start span.stop ∧ span.stop ≤ source.length

theorem Within.sound {limit : Int} {fragment : Fragment} (within : fragment.Within limit) :
    fragment.Sound limit where
  length_text := fragment.length_text.symm
  length_le := within.length_le
  form := by
    cases fragment with
    | owned text => exact ⟨rfl, rfl⟩
    | borrowed source span fits => exact ⟨rfl, Span.cut_ne_empty fits, rfl, fits⟩

theorem within_of_borrow {cap limit : Int} {source : String} {span : Span} {fragment : Fragment}
    (within : span.Within limit) (made : borrow cap source span = .ok fragment) :
    fragment.Within limit := by
  unfold borrow at made
  split at made
  · cases measured : checkLength cap span.length <;> rw [measured] at made <;> cases made
    exact within
  · cases made

end Fragment

namespace Content

/-- A plain text is measured where it is used, a fragment was measured when it was made. -/
def Within (limit : Int) : Content → Prop
  | plain _ => True
  | wrapped fragment => fragment.Within limit

theorem Within.toFragment {cap limit : Int} {content : Content} {fragment : Fragment}
    (within : content.Within limit) (low : cap ≤ limit)
    (kept : content.toFragment cap = .ok fragment) : fragment.Within limit := by
  cases content with
  | wrapped inner =>
    cases kept
    exact within
  | plain text =>
    rw [Content.toFragment] at kept
    cases measured : checkLength cap text.length <;> rw [measured] at kept
    · cases kept
    · cases kept
      exact Int.le_trans (checkLength_eq_ok_iff.mp measured).2 low

end Content

structure Piece.Within {κ : Type} (limit : Int) (piece : Piece κ) : Prop where
  span : piece.span.Within limit
  edited : ∀ fragment, piece.edited = some fragment → fragment.Within limit

structure Piece.ShowsWithin (limit : Int) (view : PieceView) : Prop extends view.Within limit where
  intro : ∀ fragment ∈ view.intro, fragment.Within limit
  outro : ∀ fragment ∈ view.outro, fragment.Within limit

namespace Store

variable {store : Store} {limit cap : Int}

structure Within (limit : Int) (store : Store) : Prop where
  pieces : ∀ piece ∈ store.pieces, piece.Within limit
  queues : ∀ queue ∈ store.queues, ∀ fragment ∈ queue.items, fragment.Within limit

namespace Within

theorem empty (limit : Int) : Within limit {} where
  pieces := by simp
  queues := by simp

theorem stored (within : store.Within limit) {piece : Nat} (known : piece < store.pieces.size) :
    (store.stored piece).Within limit := by
  rw [Store.stored, Array.getElem?_eq_getElem known]
  exact within.pieces _ (Array.getElem_mem known)

theorem queue (within : store.Within limit) (id : Nat) :
    ∀ fragment ∈ (store.queue id).items, fragment.Within limit := by
  rw [Store.queue]
  cases held : store.queues[id]? with
  | none => simp
  | some queue => exact within.queues queue (Array.mem_of_getElem? held)

theorem setPiece (within : store.Within limit) {id : Nat} {piece : StoredPiece}
    (new : id < store.pieces.size → piece.Within limit) :
    (store.setPiece id piece).Within limit where
  pieces := by
    intro other among
    by_cases known : id < store.pieces.size
    · rcases Array.mem_or_eq_of_mem_setIfInBounds among with old | rfl
      · exact within.pieces other old
      · exact new known
    · rw [Store.setPiece, Array.setIfInBounds, dif_neg known] at among
      exact within.pieces other among
  queues := within.queues

theorem setQueue (within : store.Within limit) (id : Nat) {queue : Queue}
    (new : ∀ fragment ∈ queue.items, fragment.Within limit) :
    (store.setQueue id queue).Within limit where
  pieces := within.pieces
  queues := by
    intro other among
    rcases Array.mem_or_eq_of_mem_setIfInBounds among with old | rfl
    · exact within.queues other old
    · exact new

theorem addPiece (within : store.Within limit) {view : PieceView} (new : view.ShowsWithin limit) :
    (store.addPiece view).Within limit where
  pieces := by
    intro other among
    rcases Array.mem_push.mp among with old | rfl
    · exact within.pieces other old
    · exact ⟨new.span, new.edited⟩
  queues := by
    intro other among
    rcases Array.mem_push.mp among with among | rfl
    · rcases Array.mem_push.mp among with old | rfl
      · exact within.queues other old
      · exact new.intro
    · exact new.outro

theorem appendSlot (within : store.Within limit) (arena piece : Nat) :
    (store.appendSlot arena piece).Within limit := ⟨within.pieces, within.queues⟩

theorem putHalves (within : store.Within limit) {piece : Nat} {left right : StoredPiece}
    (first : left.Within limit) (second : right.Within limit) :
    (store.putHalves piece left right).Within limit where
  pieces := by
    intro other among
    rcases Array.mem_push.mp among with among | rfl
    · rcases Array.mem_or_eq_of_mem_setIfInBounds among with old | rfl
      · exact within.pieces other old
      · exact first
    · exact second
  queues := by
    intro other among
    rcases Array.mem_push.mp among with among | rfl
    · rcases Array.mem_push.mp among with old | rfl
      · exact within.queues other old
      · simp
    · simp

theorem setNext (within : store.Within limit) (piece : Nat) (next : Option Int) :
    (store.setNext piece next).Within limit :=
  within.setPiece fun known => ⟨(within.stored known).span, (within.stored known).edited⟩

theorem setStoreName (within : store.Within limit) (piece : Nat) (storeName : Bool) :
    (store.setStoreName piece storeName).Within limit :=
  within.setPiece fun known => ⟨(within.stored known).span, (within.stored known).edited⟩

theorem setSpan (within : store.Within limit) (piece : Nat) {span : Span}
    (new : span.Within limit) : (store.setSpan piece span).Within limit :=
  within.setPiece fun known => ⟨new, (within.stored known).edited⟩

theorem setEdited (within : store.Within limit) (piece : Nat) {edited : Option Fragment}
    (new : ∀ fragment, edited = some fragment → fragment.Within limit) :
    (store.setEdited piece edited).Within limit :=
  within.setPiece fun known => ⟨(within.stored known).span, new⟩

theorem clearQueue (within : store.Within limit) (id : Nat) :
    (store.clearQueue id).Within limit :=
  within.setQueue id (by simp)

theorem applyPolicy (within : store.Within limit) (piece : Nat) (policy : EditPolicy) :
    (store.applyPolicy piece policy).Within limit := by
  unfold Store.applyPolicy
  split
  · exact ((within.clearQueue _).clearQueue _).setStoreName piece policy.storeName
  · exact within.setStoreName piece policy.storeName

section Changes

variable {content : Content}

theorem decorate (within : store.Within limit) (low : cap ≤ limit) (given : content.Within limit)
    (piece : Nat) (side : Side) (place : Place) :
    (store.decorate cap piece side place content).store.Within limit := by
  unfold Store.decorate
  split
  · exact within
  · rename_i fragment kept
    refine within.setQueue _ fun other among => ?_
    have held : other ∈ (store.queue ((store.stored piece).queue side)).items ∨
        other = fragment := by
      cases place <;> simpa [Place.insert, or_comm] using among
    rcases held with old | rfl
    · exact within.queue _ other old
    · exact given.toFragment low kept

theorem edit (within : store.Within limit) (low : cap ≤ limit) (given : content.Within limit)
    (piece : Nat) (policy : EditPolicy) :
    (store.edit cap piece content policy).store.Within limit := by
  unfold Store.edit
  split
  · exact within.applyPolicy piece policy
  · rename_i fragment kept
    refine (within.applyPolicy piece policy).setEdited piece fun other same => ?_
    cases same
    exact given.toFragment low kept

end Changes

/-- The end of a divided span is checked against the cap, and the offset comes before it. -/
theorem divide (within : store.Within limit) (low : cap ≤ limit) (piece : Nat) (offset : Int) :
    (store.divide cap piece offset).store.Within limit := by
  unfold Store.divide
  split
  · exact within
  · rename_i left right cut
    obtain ⟨fresh, small, position, inside, rfl, halves⟩ := Piece.split_eq_ok_iff.mp cut
    cases halves
    have last : ((store.stored piece).span.stop : Int) ≤ limit := Int.le_trans small low
    refine within.putHalves ⟨?_, by simp [fresh]⟩ ⟨last, nofun⟩
    change (position : Int) ≤ limit
    omega

theorem divideSlot (within : store.Within limit) (low : cap ≤ limit) (arena : Nat)
    (index offset : Int) : (store.divideSlot cap arena index offset).store.Within limit := by
  unfold Store.divideSlot
  split
  · exact within
  · rename_i piece _
    have divided := within.divide low piece offset
    cases cut : store.divide cap piece offset with
    | mk result halved log =>
      rw [cut] at divided
      cases result with
      | error fault => exact divided
      | ok right => exact (divided.appendSlot arena right).setNext piece _

end Within

end Store

def Part.fragments : Part → List Fragment
  | .text _ => []
  | .queue _ _ rest => rest

theorem Part.fragments_next (store : Store) (parts : List Part) :
    (Part.next store parts).2.flatMap Part.fragments <:+ parts.flatMap Part.fragments := by
  induction parts with
  | nil => exact List.suffix_rfl
  | cons part parts ih =>
    have rest : parts.flatMap Part.fragments <:+ (part :: parts).flatMap Part.fragments :=
      List.suffix_append _ _
    cases part with
    | text text => exact rest
    | queue watched revision items =>
      simp only [Part.next]
      split
      · cases items with
        | nil => exact ih.trans rest
        | cons fragment items => exact List.suffix_cons fragment _
      · exact rest

theorem Part.within_of_ofPiece {store : Store} {limit : Int} {piece : Nat} {source : String}
    {parts : List Part} (within : store.Within limit)
    (opened : Part.ofPiece store piece source = .ok parts) :
    ∀ fragment ∈ parts.flatMap Part.fragments, fragment.Within limit := by
  unfold Part.ofPiece at opened
  cases shown : (store.stored piece).content source <;> rw [shown] at opened <;> cases opened
  intro fragment among
  simp only [List.flatMap_cons, List.flatMap_nil, Part.fragments, Part.watch, List.mem_append,
    List.not_mem_nil, or_false, false_or] at among
  exact among.elim (within.queue _ fragment) (within.queue _ fragment)

theorem OutputReading.within_next {store : Store} {limit : Int} {reading : OutputReading}
    (within : store.Within limit)
    (held : ∀ fragment ∈ reading.parts.flatMap Part.fragments, fragment.Within limit) :
    ∀ fragment ∈ (reading.next store).2.parts.flatMap Part.fragments, fragment.Within limit := by
  have left := Part.fragments_next store reading.parts
  unfold OutputReading.next
  split
  · rename_i parts given
    rw [given] at left
    exact fun fragment among => held fragment (left.subset among)
  · exact nofun
  · split
    · exact nofun
    · exact nofun
    · rename_i piece walk _
      cases opens : Part.ofPiece store piece reading.source with
      | error fault => exact nofun
      | ok opened =>
        have fresh := Part.fragments_next store opened
        dsimp only
        split
        · rename_i parts given
          rw [given] at fresh
          exact fun fragment among =>
            Part.within_of_ofPiece within opens fragment (fresh.subset among)
        · exact nofun
        · exact nofun

namespace Cursor

/-- The fragments that a cursor has still to give out of queues it has opened. -/
def fragments : Cursor → List Fragment
  | .walk _ | .listing _ => []
  | .parts current => current.flatMap Part.fragments
  | .output reading => reading.parts.flatMap Part.fragments

def Within (limit : Int) (cursor : Cursor) : Prop :=
  ∀ fragment ∈ cursor.fragments, fragment.Within limit

variable {store : Store} {limit : Int} {cursor : Cursor}

theorem Within.next (held : cursor.Within limit) (within : store.Within limit) :
    (cursor.next store).2.Within limit := by
  cases cursor with
  | walk | listing => exact nofun
  | parts current =>
    exact fun fragment among => held fragment ((Part.fragments_next store current).subset among)
  | output reading => exact OutputReading.within_next within held

theorem Within.pull (held : cursor.Within limit) (within : store.Within limit) (count : Nat) :
    (cursor.pull store count).2.Within limit :=
  @pull_keeps store (fun cursor _ => cursor.Within limit) (fun held => held.next within) count
    cursor [] held

end Cursor

def Action.Within (limit : Int) : Action → Prop
  | .create view => view.ShowsWithin limit
  | .decorate _ _ _ content | .edit _ content _ | .setEdited _ (some content)
  | .ask (.wrap content) => content.Within limit
  | .setSpan _ span | .ask (.measure span) => span.Within limit
  | _ => True

namespace Workspace

variable {printable : Char → Bool} {workspace : Workspace} {limit : Int}

structure Within (limit : Int) (workspace : Workspace) : Prop where
  store : workspace.store.Within limit
  cursors : ∀ cursor ∈ workspace.cursors, cursor.Within limit

namespace Within

theorem empty (cap limit : Int) : Within limit { cap } := ⟨.empty limit, by simp⟩

theorem store_perform (within : workspace.Within limit) (low : workspace.cap ≤ limit)
    {action : Action} (given : action.Within limit) :
    (workspace.perform printable action).workspace.store.Within limit := by
  have held := within.store
  rw [Workspace.store_perform]
  cases action with
  | openArena => exact ⟨held.pieces, held.queues⟩
  | create view => exact held.addPiece given
  | push arena piece => exact held.appendSlot arena piece
  | decorate piece side place content => exact held.decorate low given piece side place
  | edit piece content policy => exact held.edit low given piece policy
  | divide piece offset => exact held.divide low piece offset
  | divideSlot arena index offset => exact held.divideSlot low arena index offset
  | setNext piece next => exact held.setNext piece next
  | setStoreName piece storeName => exact held.setStoreName piece storeName
  | setSpan piece span => exact held.setSpan piece given
  | setEdited piece content =>
    cases content with
    | none => exact held.setEdited piece nofun
    | some content =>
      dsimp only
      split
      · rename_i fragment kept
        refine held.setEdited piece fun other same => ?_
        cases same
        exact Content.Within.toFragment given low kept
      · exact held
  | _ => exact held

theorem cursors_perform (within : workspace.Within limit) {action : Action} :
    ∀ cursor ∈ (workspace.perform printable action).workspace.cursors, cursor.Within limit := by
  intro cursor among
  cases action with
  | openWalk | openListing | openOutput =>
    rcases Array.mem_push.mp among with old | rfl
    · exact within.cursors cursor old
    · exact nofun
  | openParts piece source =>
    simp only [Workspace.perform] at among
    split at among
    · exact within.cursors cursor among
    · rename_i parts opened
      rcases Array.mem_push.mp among with old | rfl
      · exact within.cursors cursor old
      · exact Part.within_of_ofPiece within.store opened
  | pull id count =>
    simp only [Workspace.perform] at among
    split at among
    · exact within.cursors cursor among
    · rename_i current held
      rcases Array.mem_or_eq_of_mem_setIfInBounds among with old | rfl
      · exact within.cursors cursor old
      · exact (within.cursors current (Array.mem_of_getElem? held)).pull within.store count
  | setEdited piece content =>
    cases content with
    | none => exact within.cursors cursor among
    | some content =>
      simp only [Workspace.perform] at among
      split at among <;> exact within.cursors cursor among
  | _ => exact within.cursors cursor among

theorem perform (within : workspace.Within limit) (low : workspace.cap ≤ limit) {action : Action}
    (given : action.Within limit) : (workspace.perform printable action).workspace.Within limit :=
  ⟨within.store_perform low given, within.cursors_perform⟩

end Within

end Workspace

end Patchwork
