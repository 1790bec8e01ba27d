import Patchwork.Proofs.Rendering
import Patchwork.Store.View
import Patchwork.Workspace

/-! # Divisions

A division in a slot either changes nothing or divides the piece in that slot: it becomes
the left half, a new slot at the end of its arena holds the right half, and the left half
is linked to it. Every chain then passes the new slot right after the piece, wherever the
piece is on it, and the two halves contribute what the piece did. So rendered texts stay.

Pieces may sit in several slots, links may be any, and pieces may even share queues. All
that is asked of an arena is that its slots hold pieces of the store.
-/
namespace Patchwork.Store

/-- A store, and the same store with a piece of an arena divided at a position. -/
structure Divided (before after : Store) (arena piece position : Nat) : Prop where
  held : piece ∈ before.arena arena
  known : piece < before.pieces.size
  fresh : (before.piece piece).edited = none
  inside : (before.piece piece).span.start < position ∧ position < (before.piece piece).span.stop
  pieces : ∀ other, after.piece other =
    if other = before.pieces.size then ((before.piece piece).halves position inside [] []).2
    else if other = piece then
      { ((before.piece piece).halves position inside [] []).1 with
        next := some ((before.arena arena).size : Int) }
    else before.piece other
  arenas : ∀ other, after.arena other =
    if arena = other then (before.arena arena).push before.pieces.size else before.arena other
  size : after.pieces.size = before.pieces.size + 1

/-- The slots that stand for a slot after a division: the new one comes after the left half. -/
def widen (before : Store) (arena piece : Nat) (step : Nat × Nat) : List (Nat × Nat) :=
  if step.2 = piece then [step, ((before.arena arena).size, before.pieces.size)] else [step]

theorem mem_widen_self {before : Store} {arena piece : Nat} {step : Nat × Nat} :
    step ∈ before.widen arena piece step := by
  unfold widen
  split <;> simp

theorem mem_widen_new {before : Store} {arena piece : Nat} {step : Nat × Nat}
    (same : step.2 = piece) :
    ((before.arena arena).size, before.pieces.size) ∈ before.widen arena piece step := by
  simp [widen, same]

theorem flatMap_widen_of_forall_ne {before : Store} {arena piece : Nat} {passed : List (Nat × Nat)}
    (apart : ∀ step ∈ passed, step.2 ≠ piece) : passed.flatMap (before.widen arena piece) = passed := by
  induction passed with
  | nil => rfl
  | cons step passed ih =>
    obtain ⟨first, rest⟩ := List.forall_mem_cons.mp apart
    rw [List.flatMap_cons, widen, if_neg first, ih rest, List.singleton_append]

theorem sublist_flatMap_widen (before : Store) (arena piece : Nat) (passed : List (Nat × Nat)) :
    passed.Sublist (passed.flatMap (before.widen arena piece)) := by
  induction passed with
  | nil => exact .slnil
  | cons step passed ih =>
    rw [List.flatMap_cons]
    exact (List.singleton_sublist.mpr mem_widen_self).append ih

theorem mem_slots_flatMap_widen {before : Store} {arena piece slot : Nat}
    {passed : List (Nat × Nat)} :
    slot ∈ (passed.flatMap (before.widen arena piece)).map Prod.fst ↔
      slot ∈ passed.map Prod.fst ∨
        slot = (before.arena arena).size ∧ piece ∈ passed.map Prod.snd := by
  induction passed with
  | nil => simp
  | cons step passed ih =>
    rw [List.flatMap_cons, List.map_append, List.mem_append, ih]
    by_cases same : step.2 = piece
    · simp only [widen, same, if_true, List.map_cons, List.map_nil, List.mem_cons, List.not_mem_nil]
      grind
    · simp only [widen, same, if_false, List.map_cons, List.map_nil, List.mem_cons,
        List.not_mem_nil, Ne.symm same]
      grind

def SlotsKnown (store : Store) (arena : Nat) : Prop :=
  ∀ piece ∈ store.arena arena, piece < store.pieces.size

theorem Chain.known {store : Store} {arena : Nat} {start last : Option Int}
    {passed : List (Nat × Nat)} (path : Chain store arena start passed last)
    (slots : store.SlotsKnown arena) : ∀ step ∈ passed, step.2 < store.pieces.size :=
  fun step passing => slots step.2 (Array.mem_of_getElem? (path.slot_of_mem passing))

theorem size_pieces_divideSlot {store : Store} {cap : Int} {arena piece : Nat} {index offset : Int}
    {left right : PieceView} (found : store.get arena index = .ok piece)
    (cut : (store.piece piece).split cap offset [] [] = .ok (left, right)) :
    (store.divideSlot cap arena index offset).store.pieces.size = store.pieces.size + 1 := by
  obtain ⟨first, second, divided, _, _⟩ := divide_eq cut
  simp [divideSlot, found, divided, Outcome.andThen, push, setNext, appendSlot, putHalves]

theorem divideSlot_of_inside {store : Store} {cap : Int} {arena piece position : Nat} {index : Int}
    (slots : store.SlotsKnown arena) (found : store.slot? arena index = some piece)
    (fresh : (store.piece piece).edited = none)
    (inside : (store.piece piece).span.start < position ∧
      position < (store.piece piece).span.stop)
    (fits : ((store.piece piece).span.stop : Int) ≤ cap) :
    (store.divideSlot cap arena index position).result = .ok (store.arena arena).size ∧
      Divided store (store.divideSlot cap arena index position).store arena piece position := by
  have held := get_eq_ok_iff.mpr found
  have cut : (store.piece piece).split cap position [] [] =
      .ok ((store.piece piece).halves position inside [] []) :=
    Piece.split_eq_ok_iff.mpr ⟨fresh, fits, position, inside, rfl, rfl⟩
  have among := mem_arena_of_slot? found
  have known := slots piece among
  obtain ⟨result, pieces, arenas⟩ := divideSlot_eq known held cut
  exact ⟨result, among, known, fresh, inside, pieces, arenas, size_pieces_divideSlot held cut⟩

theorem divideSlot_cases {store : Store} {arena : Nat} (slots : store.SlotsKnown arena)
    (cap index offset : Int) :
    (∃ fault, store.divideSlot cap arena index offset = { result := .error fault, store }) ∨
      ∃ piece position : Nat, store.slot? arena index = some piece ∧ offset = position ∧
        (store.divideSlot cap arena index offset).result = .ok (store.arena arena).size ∧
        Divided store (store.divideSlot cap arena index offset).store arena piece position := by
  cases found : store.get arena index with
  | error fault => exact .inl ⟨fault, by simp [divideSlot, found]⟩
  | ok piece =>
    cases cut : (store.stored piece).split cap offset store.queues.size
        (store.queues.size + 1) with
    | error fault => exact .inl ⟨fault, by simp [divideSlot, found, divide, cut, Outcome.andThen]⟩
    | ok halves =>
      right
      have slot := get_eq_ok_iff.mp found
      obtain ⟨fresh, fits, position, inside, rfl, _⟩ := Piece.split_eq_ok_iff.mp cut
      exact ⟨piece, position, slot, rfl, divideSlot_of_inside slots slot fresh inside fits⟩

theorem slot?_of_push {before after : Store} {arena new held : Nat} {index : Int}
    (pushed : after.arena arena = (before.arena arena).push new)
    (found : before.slot? arena index = some held) : after.slot? arena index = some held := by
  have inside := slot?_isSome_iff.mp (Option.isSome_of_eq_some found)
  have old : index.toNat ≠ (before.arena arena).size := by omega
  simp only [slot?, inside.1, if_true, pushed, Array.getElem?_push, old, if_false] at found ⊢
  exact found

namespace Divided

variable {before after : Store} {arena piece position : Nat}

theorem arena_eq (divided : Divided before after arena piece position) :
    after.arena arena = (before.arena arena).push before.pieces.size := by
  rw [divided.arenas, if_pos rfl]

theorem left (divided : Divided before after arena piece position) :
    after.piece piece = { ((before.piece piece).halves position divided.inside [] []).1 with
      next := some ((before.arena arena).size : Int) } := by
  rw [divided.pieces, if_neg (Nat.ne_of_lt divided.known), if_pos rfl]

theorem right (divided : Divided before after arena piece position) :
    after.piece before.pieces.size =
      ((before.piece piece).halves position divided.inside [] []).2 := by
  rw [divided.pieces, if_pos rfl]

theorem other (divided : Divided before after arena piece position) {third : Nat}
    (known : third < before.pieces.size) (apart : third ≠ piece) :
    after.piece third = before.piece third := by
  rw [divided.pieces, if_neg (Nat.ne_of_lt known), if_neg apart]

theorem next_left (divided : Divided before after arena piece position) :
    (after.stored piece).next = some ((before.arena arena).size : Int) := by
  have view := congrArg Piece.next divided.left
  exact view

theorem next_right (divided : Divided before after arena piece position) :
    (after.stored before.pieces.size).next = (before.stored piece).next := by
  have view := congrArg Piece.next divided.right
  exact view

theorem next_other (divided : Divided before after arena piece position) {third : Nat}
    (known : third < before.pieces.size) (apart : third ≠ piece) :
    (after.stored third).next = (before.stored third).next := by
  have view := congrArg Piece.next (divided.other known apart)
  exact view

theorem slotsKnown (divided : Divided before after arena piece position)
    (slots : before.SlotsKnown arena) : after.SlotsKnown arena := by
  intro held inside
  rw [divided.arena_eq] at inside
  rw [divided.size]
  rcases Array.mem_push.mp inside with old | rfl
  · have := slots held old
    omega
  · omega

theorem slot?_of_slot? (divided : Divided before after arena piece position) {index : Int}
    {held : Nat} (found : before.slot? arena index = some held) :
    after.slot? arena index = some held := slot?_of_push divided.arena_eq found

theorem slot?_new (divided : Divided before after arena piece position) :
    after.slot? arena ((before.arena arena).size : Int) = some before.pieces.size := by
  rw [slot?_natCast, divided.arena_eq, Array.getElem?_push_size]

theorem chain (divided : Divided before after arena piece position)
    (slots : before.SlotsKnown arena) {start last : Option Int} {passed : List (Nat × Nat)}
    (path : Chain before arena start passed last) :
    Chain after arena start (passed.flatMap (before.widen arena piece)) last := by
  induction path with
  | here => exact .here _
  | @step index held passed last found _ ih =>
    have old := divided.slot?_of_slot? found
    have known := slots held (mem_arena_of_slot? found)
    rw [List.flatMap_cons, widen]
    split
    · rename_i same
      cases same
      apply Chain.step old
      rw [divided.next_left]
      apply Chain.step divided.slot?_new
      rw [divided.next_right]
      exact ih
    · rename_i apart
      apply Chain.step old
      rw [divided.next_other known apart]
      exact ih

theorem mem_widen (divided : Divided before after arena piece position)
    {passed : List (Nat × Nat)} (known : ∀ step ∈ passed, step.2 < before.pieces.size)
    {other : Nat × Nat} (passing : other ∈ passed.flatMap (before.widen arena piece)) :
    ((other.2 = piece ∨ other.2 = before.pieces.size) ∧ ∃ step ∈ passed, step.2 = piece) ∨
      (other ∈ passed ∧ after.piece other.2 = before.piece other.2) := by
  obtain ⟨step, among, inside⟩ := List.mem_flatMap.mp passing
  unfold widen at inside
  split at inside
  · rename_i same
    rcases List.mem_pair.mp inside with rfl | rfl
    · exact .inl ⟨.inl same, other, among, same⟩
    · exact .inl ⟨.inr rfl, step, among, same⟩
  · rename_i apart
    cases List.mem_singleton.mp inside
    exact .inr ⟨among, divided.other (known other among) apart⟩

theorem fits_widen (divided : Divided before after arena piece position) {source : String}
    {step : Nat × Nat} (known : step.2 < before.pieces.size)
    (fits : (before.piece step.2).Fits source) :
    ∀ other ∈ before.widen arena piece step, (after.piece other.2).Fits source := by
  intro other among
  unfold widen at among
  split at among
  · rename_i same
    have bound := fits (same ▸ divided.fresh)
    rw [same] at bound
    rcases List.mem_pair.mp among with rfl | rfl
    · rw [same, divided.left]
      intro _
      exact Nat.le_trans (Nat.le_of_lt divided.inside.2) bound
    · rw [divided.right]
      exact fun _ => bound
  · rename_i apart
    cases List.mem_singleton.mp among
    rw [divided.other known apart]
    exact fits

/-- The halves contribute together what the piece contributed. -/
theorem block_widen (divided : Divided before after arena piece position) {step : Nat × Nat}
    (known : step.2 < before.pieces.size) (source : String) :
    String.join ((before.widen arena piece step).map fun other =>
      (after.piece other.2).block source) = (before.piece step.2).block source := by
  unfold widen
  split
  · rename_i same
    have whole := slice_append source (Nat.le_of_lt divided.inside.1) (Nat.le_of_lt divided.inside.2)
    simp only [List.map_cons, List.map_nil, same, divided.left, divided.right]
    simp [Piece.block, Piece.shown, Piece.halves, divided.fresh, ← whole, String.append_assoc]
  · rename_i apart
    simp [divided.other known apart]

theorem fits_flatMap_widen (divided : Divided before after arena piece position) {source : String}
    {passed : List (Nat × Nat)} (known : ∀ step ∈ passed, step.2 < before.pieces.size)
    (fits : ∀ step ∈ passed, (before.piece step.2).Fits source) :
    ∀ other ∈ passed.flatMap (before.widen arena piece), (after.piece other.2).Fits source := by
  intro other passing
  obtain ⟨step, among, inside⟩ := List.mem_flatMap.mp passing
  exact divided.fits_widen (known step among) (fits step among) other inside

theorem join_flatMap_widen (divided : Divided before after arena piece position)
    {passed : List (Nat × Nat)} (known : ∀ step ∈ passed, step.2 < before.pieces.size)
    (source : String) :
    String.join ((passed.flatMap (before.widen arena piece)).map fun other =>
      (after.piece other.2).block source) =
      String.join (passed.map fun step => (before.piece step.2).block source) := by
  induction passed with
  | nil => rfl
  | cons step passed ih =>
    obtain ⟨first, rest⟩ := List.forall_mem_cons.mp known
    rw [List.flatMap_cons, List.map_append, String.join_append, divided.block_widen first,
      List.map_cons, String.join_cons, ih rest]

theorem render (divided : Divided before after arena piece position)
    (slots : before.SlotsKnown arena) {head : Int} {source text : String}
    (rendered : before.render arena head source = .ok text) :
    after.render arena head source = .ok text := by
  obtain ⟨passed, path, fits, rfl⟩ := render_eq_ok_iff.mp rendered
  have known := path.known slots
  exact render_eq_ok_iff.mpr ⟨_, divided.chain slots path, divided.fits_flatMap_widen known fits,
    (divided.join_flatMap_widen known source).symm⟩

end Divided

end Patchwork.Store

namespace Patchwork

/-- Divisions in one arena, under any caps. -/
def Action.DividesIn (arena : Nat) : Action → Prop
  | .setCap _ => True
  | .divideSlot target _ _ => target = arena
  | _ => False

namespace Workspace

variable {printable : Char → Bool} {workspace : Workspace} {arena : Nat}

theorem perform_dividesIn {action : Action} (only : action.DividesIn arena)
    (slots : workspace.store.SlotsKnown arena) :
    (workspace.perform printable action).workspace.store = workspace.store ∨
      ∃ piece position, Store.Divided workspace.store
        (workspace.perform printable action).workspace.store arena piece position := by
  cases action with
  | setCap => exact .inl rfl
  | divideSlot target index offset =>
    cases only
    rcases Store.divideSlot_cases slots workspace.cap index offset with
      ⟨fault, refused⟩ | ⟨piece, position, _, _, _, divided⟩
    · exact .inl (congrArg Outcome.store refused)
    · exact .inr ⟨piece, position, divided⟩
  | _ => exact only.elim

/-- However an arena is divided, where, in which order and whether or not some divisions are
refused, a text that could be rendered is still rendered, and the same. -/
theorem render_run_of_divisions (slots : workspace.store.SlotsKnown arena) {actions : List Action}
    (only : ∀ action ∈ actions, action.DividesIn arena) {head : Int} {source text : String}
    (rendered : workspace.store.render arena head source = .ok text) :
    (workspace.run printable actions).store.render arena head source = .ok text := by
  refine (run_keeps (fun workspace => workspace.store.SlotsKnown arena ∧
    workspace.store.render arena head source = .ok text) ?_ ⟨slots, rendered⟩ only).2
  rintro workspace action ⟨slots, rendered⟩ only
  rcases perform_dividesIn only slots with same | ⟨piece, position, divided⟩
  · rw [same]
    exact ⟨slots, rendered⟩
  · exact ⟨divided.slotsKnown slots, divided.render slots rendered⟩

/-- One decorated piece in two slots. It is divided in the slot that is off the chain, then in
the other; a slot that is not there, an offset at an edge and a low cap change nothing. -/
theorem render_run_of_divisions_of_shared_piece :
    ((Store.document 5 (by decide)).insertInto 1 .back (.owned ">")
      |>.appendSlot 0 0).SlotsKnown 0 ∧
    (({ store := (Store.document 5 (by decide)).insertInto 1 .back (.owned ">")
        |>.appendSlot 0 0 } : Workspace).run (fun _ => true)
      [.divideSlot 0 1 3, .divideSlot 0 0 1, .divideSlot 0 9 1, .divideSlot 0 2 3, .setCap 2,
        .divideSlot 0 2 4]).store.render 0 0 "hello" = .ok "hello>" := by
  have slots : ((Store.document 5 (by decide)).insertInto 1 .back (.owned ">")
      |>.appendSlot 0 0).SlotsKnown 0 := by
    intro piece held
    have same : piece = 0 := by
      rcases Array.mem_push.mp held with old | new
      · exact Array.mem_singleton.mp old
      · exact new
    subst same
    exact Nat.one_pos
  refine ⟨slots, render_run_of_divisions slots ?_ rfl⟩
  intro action among
  simp only [List.mem_cons, List.not_mem_nil, or_false] at among
  rcases among with rfl | rfl | rfl | rfl | rfl | rfl <;> trivial

end Workspace

end Patchwork
