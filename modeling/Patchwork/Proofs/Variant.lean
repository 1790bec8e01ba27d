import Patchwork.Proofs.Cap
import Patchwork.Proofs.Refusal
import Patchwork.Proofs.Split

/-! # Variants of a text

A text comes plain, or as a fragment, owned or a view. Two things that show the same texts are the same
once every fragment in them is replaced by an owned one. An action that is not refused for a size then
comes to the same whether the replacement is made before or after it: all it asks of a fragment is its
text. So two runs that differ in the variants of their texts alone agree, step by step, in everything but
variants.
-/
namespace Patchwork

namespace Fragment

/-- The same text, held outright. -/
def toOwned (fragment : Fragment) : Fragment := .owned fragment.text

@[simp] theorem text_toOwned (fragment : Fragment) : fragment.toOwned.text = fragment.text := rfl

theorem length_toOwned (fragment : Fragment) : fragment.toOwned.length = fragment.length :=
  fragment.length_text

@[simp] theorem toOwned_toOwned (fragment : Fragment) :
    fragment.toOwned.toOwned = fragment.toOwned := rfl

theorem toOwned_inj {a b : Fragment} : a.toOwned = b.toOwned ↔ a.text = b.text :=
  ⟨congrArg text, congrArg owned⟩

theorem list_beq_iff {a b : List Fragment} :
    (a == b) = true ↔ a.map toOwned = b.map toOwned := by
  induction a generalizing b with
  | nil => cases b <;> simp
  | cons first rest ih =>
    cases b with
    | nil => simp
    | cons second others => simp [ih, toOwned_inj]

theorem option_beq_iff {a b : Option Fragment} :
    (a == b) = true ↔ a.map toOwned = b.map toOwned := by
  cases a <;> cases b <;> simp [toOwned_inj]

end Fragment

theorem distinctCount_eq_one_iff {α : Type} [BEq α] {first : α} {others : List α} :
    distinctCount (first :: others) = 1 ↔ ∀ other ∈ others, (other == first) = true := by
  rw [distinctCount, List.eraseDups_cons, List.length_cons, Nat.add_eq_right]
  cases unlike : others.filter fun other => !other == first with
  | nil => simpa [List.filter_eq_nil_iff] using unlike
  | cons other rest =>
    have kept := List.mem_filter.mp (unlike ▸ List.mem_cons_self : other ∈ others.filter _)
    rw [List.eraseDups_cons]
    refine ⟨nofun, fun alike => ?_⟩
    simp [alike other kept.1] at kept

/-- A reading that tells the same values apart counts the same. -/
theorem distinctCount_map {α β : Type} [BEq α] [BEq β] (f : α → β)
    (same : ∀ a b, (a == b) = (f a == f b)) (values : List α) :
    distinctCount values = distinctCount (values.map f) := by
  match values with
  | [] => rfl
  | first :: others =>
    have unlike : (others.map f).filter (fun other => !other == f first) =
        (others.filter fun other => !other == first).map f := by
      simp only [List.filter_map, Function.comp_def, same]
    have rest := distinctCount_map f same (others.filter fun other => !other == first)
    simp only [distinctCount] at rest
    simp only [distinctCount, List.map_cons, List.eraseDups_cons, List.length_cons, unlike, rest]
termination_by values.length
decreasing_by exact Nat.lt_succ_of_le (List.length_filter_le _ _)

namespace Content

theorem equals_equivalence : Equivalence fun a b : Content => a.equals b = true := by
  simp only [equals_iff]
  exact ⟨fun _ => rfl, Eq.symm, Eq.trans⟩

theorem equals_comm (a b : Content) : a.equals b = b.equals a := by
  rw [Bool.eq_iff_iff, equals_iff, equals_iff, eq_comm]

/-- Equal texts hash alike, so texts in any variants count as their plain texts do. -/
theorem distinct_eq_distinctCount (hash : String → Int) (values : List Content) :
    distinct hash values = distinctCount (values.map text) := by
  refine @distinctCount_map Content String (setTest hash) _ text (fun a b => ?_) values
  rw [Bool.eq_iff_iff, setTest_iff, equals_iff, beq_iff_eq]

theorem distinct_eq_one_iff {hash : String → Int} {first : Content} {others : List Content} :
    distinct hash (first :: others) = 1 ↔ ∀ other ∈ others, first.equals other = true := by
  rw [distinct_eq_distinctCount, List.map_cons, distinctCount_eq_one_iff, List.forall_mem_map]
  refine forall₂_congr fun other _ => ?_
  rw [beq_iff_eq, equals_iff, eq_comm]

end Content

/-- The same text as an owned fragment, however it comes. -/
def Content.toOwned (content : Content) : Content := .wrapped (.owned content.text)

@[simp] theorem Content.text_toOwned (content : Content) : content.toOwned.text = content.text := rfl

theorem Content.exists_of_admitted {cap : Int} {content : Content}
    (admitted : ¬Oversized Fault.OfSize (content.toFragment cap)) :
    ∃ fragment, content.toFragment cap = .ok fragment ∧ fragment.toOwned = .owned content.text := by
  cases kept : content.toFragment cap with
  | ok fragment => exact ⟨fragment, rfl, congrArg Fragment.owned (text_of_toFragment kept)⟩
  | error fault =>
    obtain ⟨text, _, _, rfl⟩ := toFragment_eq_error_iff.mp kept
    exact absurd (kept ▸ rfl : Oversized Fault.OfSize (content.toFragment cap)) admitted

namespace Piece

variable {κ : Type}

def ownEdited (piece : Piece κ) : Piece κ :=
  { piece with edited := piece.edited.map Fragment.toOwned }

/-- A piece as it is seen, with all its texts held outright. -/
def toOwned (view : PieceView) : PieceView := view.ownEdited.map (List.map Fragment.toOwned)

theorem ownEdited_map {μ : Type} (f : κ → μ) (piece : Piece κ) :
    (piece.map f).ownEdited = piece.ownEdited.map f := rfl

@[simp] theorem span_ownEdited (piece : Piece κ) : piece.ownEdited.span = piece.span := rfl

@[simp] theorem isEdited_ownEdited (piece : Piece κ) : piece.ownEdited.isEdited = piece.isEdited :=
  Option.isSome_map

theorem content_ownEdited (piece : Piece κ) (source : String) :
    piece.ownEdited.content source = piece.content source := by
  cases changed : piece.edited <;> simp [content, ownEdited, changed]

/-- Pieces are equal when they show the same texts in the same places. -/
theorem beq_iff {a b : PieceView} : (a == b) = true ↔ a.toOwned = b.toOwned := by
  change (a.span == b.span && a.edited == b.edited && a.intro == b.intro && a.outro == b.outro &&
    a.next == b.next && a.storeName == b.storeName) = true ↔ _
  simp only [Bool.and_eq_true, beq_iff_eq, Fragment.option_beq_iff, Fragment.list_beq_iff, toOwned,
    ownEdited, map, Piece.mk.injEq, and_assoc]

@[simp] theorem ownEdited_ownEdited (piece : Piece κ) : piece.ownEdited.ownEdited = piece.ownEdited := by
  cases changed : piece.edited <;> simp [ownEdited, changed]

@[simp] theorem toOwned_toOwned (view : PieceView) : view.toOwned.toOwned = view.toOwned := by
  have edited : view.ownEdited.ownEdited = view.ownEdited := ownEdited_ownEdited view
  have queues : ∀ fragments : List Fragment,
      (fragments.map Fragment.toOwned).map Fragment.toOwned = fragments.map Fragment.toOwned := by
    simp
  simp only [toOwned, ownEdited_map, edited]
  simp [map, queues]

theorem beq_toOwned (a b : PieceView) : (a.toOwned == b.toOwned) = (a == b) := by
  rw [Bool.eq_iff_iff, beq_iff, beq_iff, toOwned_toOwned, toOwned_toOwned]

theorem output_toOwned (view : PieceView) (source : String) :
    view.toOwned.output source = view.output source := by
  have content : view.toOwned.content source = view.content source :=
    content_ownEdited view source
  simp only [output, content]
  simp [toOwned, ownEdited, map, Function.comp_def]

theorem split_ownEdited (cap : Int) (piece : Piece κ) (offset : Int) (leftOutro rightIntro : κ) :
    piece.ownEdited.split cap offset leftOutro rightIntro =
      (piece.split cap offset leftOutro rightIntro).map fun halves =>
        (halves.1.ownEdited, halves.2.ownEdited) := by
  cases cut : piece.split cap offset leftOutro rightIntro with
  | error fault =>
    rw [Except.map, split_eq_error_iff]
    simpa using split_eq_error_iff.mp cut
  | ok halves =>
    rw [Except.map]
    rw [split_eq_ok_iff] at cut ⊢
    obtain ⟨fresh, fits, position, inside, rfl, rfl⟩ := cut
    refine ⟨by simp [ownEdited, fresh], fits, position, inside, rfl, ?_⟩
    simp [halves, ownEdited]

end Piece

namespace Queue

def toOwned (queue : Queue) : Queue := ⟨queue.items.map Fragment.toOwned, queue.revision⟩

theorem toOwned_insert (queue : Queue) (place : Place) (fragment : Fragment) :
    (queue.insert place fragment).toOwned = queue.toOwned.insert place fragment.toOwned := by
  cases place <;> simp [insert, toOwned, Place.insert]

theorem toOwned_clear (queue : Queue) : queue.clear.toOwned = queue.toOwned.clear := by
  rcases queue with ⟨_ | _, revision⟩ <;> rfl

end Queue

namespace Store

variable {store : Store}

/-- A store with all its texts held outright. Who holds what, and how often a queue has changed,
stays. -/
def toOwned (store : Store) : Store :=
  { queues := store.queues.map Queue.toOwned
    pieces := store.pieces.map Piece.ownEdited
    arenas := store.arenas }

@[simp] theorem arena_toOwned (store : Store) (arena : Nat) :
    store.toOwned.arena arena = store.arena arena := rfl

@[simp] theorem get_toOwned (store : Store) (arena : Nat) (index : Int) :
    store.toOwned.get arena index = store.get arena index := rfl

theorem queue_toOwned (store : Store) (id : Nat) :
    store.toOwned.queue id = (store.queue id).toOwned := by
  simp only [Store.queue, toOwned, Array.getElem?_map]
  cases store.queues[id]? <;> rfl

theorem stored_toOwned (store : Store) (id : Nat) :
    store.toOwned.stored id = (store.stored id).ownEdited := by
  simp only [Store.stored, toOwned, Array.getElem?_map]
  cases store.pieces[id]? <;> rfl

theorem piece_toOwned (store : Store) (id : Nat) :
    store.toOwned.piece id = (store.piece id).toOwned := by
  simp only [Store.piece, stored_toOwned, queue_toOwned]
  rfl

theorem listing_toOwned (store : Store) (arena : Nat) :
    store.toOwned.listing arena = (store.listing arena).map Piece.toOwned := by
  simp [listing, piece_toOwned]

theorem toOwned_setQueue (store : Store) (id : Nat) (queue : Queue) :
    (store.setQueue id queue).toOwned = store.toOwned.setQueue id queue.toOwned := by
  simp [setQueue, toOwned, Array.map_setIfInBounds]

theorem toOwned_setPiece (store : Store) (id : Nat) (piece : StoredPiece) :
    (store.setPiece id piece).toOwned = store.toOwned.setPiece id piece.ownEdited := by
  simp [setPiece, toOwned, Array.map_setIfInBounds]

theorem toOwned_addPiece (store : Store) (view : PieceView) :
    (store.addPiece view).toOwned = store.toOwned.addPiece view.toOwned := by
  simp only [addPiece, toOwned, Array.map_push, Array.size_map]
  rfl

theorem toOwned_putHalves (store : Store) (piece : Nat) (left right : StoredPiece) :
    (store.putHalves piece left right).toOwned =
      store.toOwned.putHalves piece left.ownEdited right.ownEdited := by
  simp only [putHalves, toOwned, Array.map_push, Array.map_setIfInBounds]
  rfl

theorem toOwned_insertInto (store : Store) (queue : Nat) (place : Place) (fragment : Fragment) :
    (store.insertInto queue place fragment).toOwned =
      store.toOwned.insertInto queue place fragment.toOwned := by
  rw [insertInto, insertInto, toOwned_setQueue, Queue.toOwned_insert, queue_toOwned]

theorem toOwned_clearQueue (store : Store) (queue : Nat) :
    (store.clearQueue queue).toOwned = store.toOwned.clearQueue queue := by
  rw [clearQueue, clearQueue, toOwned_setQueue, Queue.toOwned_clear, queue_toOwned]

theorem toOwned_clearDecorations (store : Store) (piece : Nat) :
    (store.clearDecorations piece).toOwned = store.toOwned.clearDecorations piece := by
  rw [clearDecorations, clearDecorations, toOwned_clearQueue, toOwned_clearQueue, stored_toOwned]
  rfl

theorem toOwned_setStoreName (store : Store) (piece : Nat) (storeName : Bool) :
    (store.setStoreName piece storeName).toOwned = store.toOwned.setStoreName piece storeName := by
  rw [setStoreName, setStoreName, toOwned_setPiece, stored_toOwned]
  rfl

theorem toOwned_setNext (store : Store) (piece : Nat) (next : Option Int) :
    (store.setNext piece next).toOwned = store.toOwned.setNext piece next := by
  rw [setNext, setNext, toOwned_setPiece, stored_toOwned]
  rfl

theorem toOwned_setSpan (store : Store) (piece : Nat) (span : Span) :
    (store.setSpan piece span).toOwned = store.toOwned.setSpan piece span := by
  rw [setSpan, setSpan, toOwned_setPiece, stored_toOwned]
  rfl

theorem toOwned_setEdited (store : Store) (piece : Nat) (edited : Option Fragment) :
    (store.setEdited piece edited).toOwned =
      store.toOwned.setEdited piece (edited.map Fragment.toOwned) := by
  rw [setEdited, setEdited, toOwned_setPiece, stored_toOwned]
  rfl

theorem toOwned_applyPolicy (store : Store) (piece : Nat) (policy : EditPolicy) :
    (store.applyPolicy piece policy).toOwned = store.toOwned.applyPolicy piece policy := by
  unfold applyPolicy
  split
  · rw [toOwned_setStoreName, toOwned_clearDecorations]
  · rw [toOwned_setStoreName]

end Store

def Outcome.toOwned {α : Type} (outcome : Outcome α) : Outcome α :=
  { outcome with store := outcome.store.toOwned }

namespace Store

variable {cap : Int}

theorem result_decorate (store : Store) (piece : Nat) (side : Side) (place : Place)
    (content : Content) : (store.decorate cap piece side place content).result =
      (content.toFragment cap).map fun _ => () := by
  unfold decorate
  cases content.toFragment cap <;> rfl

theorem result_edit (store : Store) (piece : Nat) (content : Content) (policy : EditPolicy) :
    (store.edit cap piece content policy).result = (content.toFragment cap).map fun _ => () := by
  unfold edit
  cases content.toFragment cap <;> rfl

theorem toOwned_create (store : Store) (view : PieceView) :
    (store.create view).toOwned = store.toOwned.create view.toOwned := by
  have pieces : store.toOwned.pieces.size = store.pieces.size := Array.size_map
  simp only [create, Outcome.toOwned, toOwned_addPiece, pieces]

theorem toOwned_push (store : Store) (arena piece : Nat) :
    (store.push arena piece).toOwned = store.toOwned.push arena piece := by
  simp only [push, Outcome.toOwned, arena_toOwned, stored_toOwned]
  rfl

theorem toOwned_decorate (store : Store) (piece : Nat) (side : Side) (place : Place)
    {content : Content}
    (admitted : ¬Oversized Fault.OfSize (store.decorate cap piece side place content).result) :
    (store.decorate cap piece side place content).toOwned =
      store.toOwned.decorate cap piece side place content.toOwned := by
  rw [result_decorate, oversized_map] at admitted
  obtain ⟨fragment, kept, owned⟩ := Content.exists_of_admitted admitted
  simp only [decorate, kept, Outcome.toOwned, toOwned_insertInto, owned, stored_toOwned]
  rfl

theorem toOwned_edit (store : Store) (piece : Nat) {content : Content} (policy : EditPolicy)
    (admitted : ¬Oversized Fault.OfSize (store.edit cap piece content policy).result) :
    (store.edit cap piece content policy).toOwned =
      store.toOwned.edit cap piece content.toOwned policy := by
  rw [result_edit, oversized_map] at admitted
  obtain ⟨fragment, kept, owned⟩ := Content.exists_of_admitted admitted
  simp only [edit, kept, Outcome.toOwned, toOwned_setEdited, toOwned_applyPolicy, owned,
    stored_toOwned, Option.map_some]
  rfl

theorem toOwned_divide (store : Store) (piece : Nat) (offset : Int) :
    (store.divide cap piece offset).toOwned = store.toOwned.divide cap piece offset := by
  have queues : store.toOwned.queues.size = store.queues.size := Array.size_map
  have pieces : store.toOwned.pieces.size = store.pieces.size := Array.size_map
  unfold divide
  rw [stored_toOwned, Piece.split_ownEdited, queues, pieces]
  cases (store.stored piece).split cap offset store.queues.size (store.queues.size + 1) with
  | error fault => rfl
  | ok halves => simp only [Except.map, Outcome.toOwned, toOwned_putHalves]

theorem toOwned_divideSlot (store : Store) (arena : Nat) (index offset : Int) :
    (store.divideSlot cap arena index offset).toOwned =
      store.toOwned.divideSlot cap arena index offset := by
  unfold divideSlot
  rw [get_toOwned]
  cases found : store.get arena index with
  | error fault => rfl
  | ok piece =>
    dsimp only
    rw [← toOwned_divide]
    rcases store.divide cap piece offset with ⟨_ | right, divided, log⟩
    · rfl
    · simp only [Outcome.andThen, Outcome.toOwned, push, toOwned_setNext, arena_toOwned, stored_toOwned]
      rfl

theorem follow_toOwned (store : Store) (arena : Nat) (head : Int) (room : Nat)
    (pending : Option Int) :
    store.toOwned.follow arena head room pending = store.follow arena head room pending := by
  induction room generalizing pending with
  | zero =>
    cases pending with
    | none => rfl
    | some index =>
      unfold follow
      rw [get_toOwned]
  | succ room ih =>
    cases pending with
    | none => rfl
    | some index =>
      unfold follow
      rw [get_toOwned]
      cases store.get arena index with
      | error fault => rfl
      | ok piece =>
        dsimp only
        rw [ih, stored_toOwned]
        rfl

theorem trail_toOwned (store : Store) (arena : Nat) (head : Int) :
    store.toOwned.trail arena head = store.trail arena head :=
  store.follow_toOwned arena head _ _

theorem output_toOwned (store : Store) (arena : Nat) (head : Int) (source : String) :
    store.toOwned.output arena head source = store.output arena head source := by
  simp only [output, trail_toOwned, piece_toOwned, Piece.output_toOwned]

theorem render_toOwned (store : Store) (arena : Nat) (head : Int) (source : String) :
    store.toOwned.render arena head source = store.render arena head source := by
  simp only [render, output_toOwned]

end Store

end Patchwork
