import Mathlib.Data.List.Pairwise
import Patchwork.Proofs.Division

/-! # Tilings

A document is an arena that starts as one piece over a whole source. Divisions, decorations
and edits, refused or not, keep it a tiling: from slot 0 the links pass every slot once, and
the spans on the way follow one another from the start of the source to its end. A division
replaces one span by two that meet, and nothing else touches a span, a link or a slot.
-/
namespace Patchwork

/-- Spans that follow one another without a gap, from one position to another. -/
def Consecutive : Nat → List Span → Nat → Prop
  | low, [], high => low = high
  | low, span :: rest, high => span.start = low ∧ Consecutive span.stop rest high

namespace Consecutive

variable {low high : Nat} {spans : List Span}

/-- Every span covers something, so there are no more spans than positions. -/
theorem length_le (tiles : Consecutive low spans high) : low + spans.length ≤ high := by
  induction spans generalizing low with
  | nil => exact Nat.le_of_eq tiles
  | cons span spans ih =>
    obtain ⟨rfl, rest⟩ := tiles
    have bound := ih rest
    have order := span.start_lt_stop
    simp only [List.length_cons]
    omega

theorem bounds (tiles : Consecutive low spans high) {span : Span} (among : span ∈ spans) :
    low ≤ span.start ∧ span.stop ≤ high := by
  induction spans generalizing low with
  | nil => cases among
  | cons first spans ih =>
    obtain ⟨rfl, rest⟩ := tiles
    have order := first.start_lt_stop
    rcases List.mem_cons.mp among with rfl | later
    · have := rest.length_le
      omega
    · have := ih rest later
      omega

theorem exists_covering (tiles : Consecutive low spans high) {position : Nat} (above : low ≤ position)
    (below : position < high) : ∃ span ∈ spans, span.start ≤ position ∧ position < span.stop := by
  induction spans generalizing low with
  | nil =>
    have same : low = high := tiles
    omega
  | cons first spans ih =>
    obtain ⟨rfl, rest⟩ := tiles
    by_cases here : position < first.stop
    · exact ⟨first, List.mem_cons_self, above, here⟩
    · obtain ⟨span, among, covers⟩ := ih rest (by omega)
      exact ⟨span, List.mem_cons_of_mem _ among, covers⟩

theorem pairwise (tiles : Consecutive low spans high) :
    spans.Pairwise fun first second => first.stop ≤ second.start := by
  induction spans generalizing low with
  | nil => exact .nil
  | cons first spans ih =>
    obtain ⟨_, rest⟩ := tiles
    exact .cons (fun _ later => (rest.bounds later).1) (ih rest)

theorem starts_increasing (tiles : Consecutive low spans high) :
    (spans.map Span.start).Pairwise (· < ·) :=
  List.pairwise_map.mpr (tiles.pairwise.imp fun {first _} meet =>
    Nat.lt_of_lt_of_le first.start_lt_stop meet)

theorem eq_of_map_start (tiles : Consecutive low spans high) {others : List Span}
    (tiles' : Consecutive low others high) (same : spans.map Span.start = others.map Span.start) :
    spans = others := by
  induction spans generalizing low others with
  | nil => exact (List.map_eq_nil_iff.mp same.symm).symm
  | cons span spans ih =>
    cases others with
    | nil => cases same
    | cons other others =>
      obtain ⟨start, later⟩ := List.cons.inj same
      obtain ⟨_, rest⟩ := tiles
      obtain ⟨_, rest'⟩ := tiles'
      have stop : span.stop = other.stop := by
        cases spans with
        | nil =>
          cases List.map_eq_nil_iff.mp later.symm
          exact Eq.trans rest (Eq.symm rest')
        | cons next spans =>
          cases others with
          | nil => cases later
          | cons next' others =>
            rw [← rest.1, ← rest'.1]
            exact (List.cons.inj later).1
      rw [stop] at rest
      rw [Span.ext start stop, ih rest rest' later]

theorem eq_of_starts (tiles : Consecutive low spans high) {others : List Span}
    (tiles' : Consecutive low others high)
    (same : ∀ position, position ∈ spans.map Span.start ↔ position ∈ others.map Span.start) :
    spans = others := by
  have rising := tiles.starts_increasing
  have rising' := tiles'.starts_increasing
  have alike := (List.perm_ext_iff_of_nodup rising.nodup rising'.nodup).mpr same
  exact tiles.eq_of_map_start tiles'
    (alike.eq_of_pairwise (fun _ _ _ _ below above => absurd below (Nat.lt_asymm above)) rising rising')

theorem join_positions (tiles : Consecutive low spans high) (text : Nat → String) :
    String.join (spans.map fun span =>
      String.join ((List.range' span.start span.length).map text)) =
      String.join ((List.range' low (high - low)).map text) := by
  induction spans generalizing low with
  | nil =>
    have same : low = high := tiles
    simp [same]
  | cons span spans ih =>
    obtain ⟨rfl, rest⟩ := tiles
    have order := span.start_lt_stop
    have bound := rest.length_le
    have whole : high - span.start = span.length + (high - span.stop) := by
      simp only [Span.length]
      omega
    have meet : span.start + span.length = span.stop := by
      simp only [Span.length]
      omega
    rw [List.map_cons, String.join_cons, ih rest, whole, List.range'_append.symm, Nat.one_mul, meet,
      List.map_append, String.join_append]

end Consecutive

namespace Store

variable {before after store : Store} {arena : Nat}

/-- An arena whose links, from slot 0 on, pass every slot, and whose spans then tile a
source of a given length. -/
structure Tiled (store : Store) (arena length : Nat) (passed : List (Nat × Nat)) : Prop where
  chain : Chain store arena (some 0) passed none
  every : ∀ slot < (store.arena arena).size, slot ∈ passed.map Prod.fst
  tiles : Consecutive 0 (passed.map fun step => (store.piece step.2).span) length

namespace Tiled

variable {length : Nat} {passed : List (Nat × Nat)}

theorem slots_perm (tiled : Tiled store arena length passed) :
    (passed.map Prod.fst).Perm (List.range (store.arena arena).size) := by
  refine (List.perm_ext_iff_of_nodup (tiled.chain.nodup_slots halts_none)
    List.nodup_range).mpr fun slot => ?_
  rw [List.mem_range]
  exact ⟨tiled.chain.slot_lt, tiled.every slot⟩

theorem size_le (tiled : Tiled store arena length passed) : (store.arena arena).size ≤ length := by
  have count := tiled.slots_perm.length_eq
  have bound := tiled.tiles.length_le
  simp only [List.length_map, List.length_range] at count bound
  omega

theorem stop_le_length (tiled : Tiled store arena length passed) {slot piece : Nat}
    (passing : (slot, piece) ∈ passed) : (store.piece piece).span.stop ≤ length :=
  (tiled.tiles.bounds (List.mem_map_of_mem passing)).2

theorem render_eq (tiled : Tiled store arena length passed) {source : String}
    (long : length ≤ source.length) : store.render arena 0 source =
      .ok (String.join (passed.map fun step => (store.piece step.2).block source)) := by
  have fits : ∀ step ∈ passed, (store.piece step.2).Fits source :=
    fun step passing _ => Nat.le_trans (tiled.stop_le_length passing) long
  exact render_eq_ok_iff.mpr ⟨passed, tiled.chain, fits, rfl⟩

theorem drains (tiled : Tiled store arena length passed) :
    Walk.Drains store { arena, head := 0 } ⟨passed, none⟩ :=
  Walk.drains_iff.mpr (trail_eq_stop_iff.mpr tiled.chain).symm

theorem mem_of_slot (tiled : Tiled store arena length passed) {slot piece : Nat}
    (found : (store.arena arena)[slot]? = some piece) : (slot, piece) ∈ passed := by
  have inside := (Array.getElem?_eq_some_iff.mp found).1
  obtain ⟨⟨_, other⟩, passing, rfl⟩ := List.mem_map.mp (tiled.every slot inside)
  cases (tiled.chain.slot_of_mem passing).symm.trans found
  exact passing

theorem apart (tiled : Tiled store arena length passed) {step other : Nat × Nat}
    (passing : step ∈ passed) (passing' : other ∈ passed) (different : step ≠ other) :
    (store.piece step.2).span.Apart (store.piece other.2).span := by
  have ordered : passed.Pairwise fun first second =>
      (store.piece first.2).span.Apart (store.piece second.2).span :=
    (List.pairwise_map.mp tiled.tiles.pairwise).imp .inl
  have symmetric : Std.Symm fun first second : Nat × Nat =>
      (store.piece first.2).span.Apart (store.piece second.2).span := ⟨fun _ _ => Span.Apart.symm⟩
  exact ordered.forall passing passing' different

end Tiled

theorem Divided.tiles {piece position : Nat} (divided : Divided before after arena piece position)
    {low high : Nat} {passed : List (Nat × Nat)}
    (known : ∀ step ∈ passed, step.2 < before.pieces.size)
    (tiles : Consecutive low (passed.map fun step => (before.piece step.2).span) high) :
    Consecutive low ((passed.flatMap (before.widen arena piece)).map
      fun step => (after.piece step.2).span) high := by
  induction passed generalizing low with
  | nil => exact tiles
  | cons step passed ih =>
    obtain ⟨start, rest⟩ := tiles
    obtain ⟨here, later⟩ := List.forall_mem_cons.mp known
    have onward := ih later rest
    rw [List.flatMap_cons, widen]
    split
    · rename_i same
      simp only [same] at start onward
      simp only [List.cons_append, List.nil_append, List.map_cons, Consecutive, same, divided.left,
        divided.right]
      exact ⟨start, rfl, onward⟩
    · rename_i apart
      simp only [List.cons_append, List.nil_append, List.map_cons, Consecutive,
        divided.other here apart]
      exact ⟨start, onward⟩

theorem Tiled.divided {length piece position : Nat} {passed : List (Nat × Nat)}
    (tiled : Tiled before arena length passed) (slots : before.SlotsKnown arena)
    (divided : Divided before after arena piece position) :
    Tiled after arena length (passed.flatMap (before.widen arena piece)) where
  chain := divided.chain slots tiled.chain
  every := by
    intro slot inside
    rw [divided.arena_eq, Array.size_push] at inside
    by_cases old : slot < (before.arena arena).size
    · obtain ⟨step, passing, rfl⟩ := List.mem_map.mp (tiled.every slot old)
      exact List.mem_map_of_mem (List.mem_flatMap.mpr ⟨step, passing, mem_widen_self⟩)
    · have new : slot = (before.arena arena).size := by omega
      subst new
      obtain ⟨slot, found⟩ := Array.mem_iff_getElem?.mp divided.held
      have passing := tiled.mem_of_slot found
      exact List.mem_map.mpr ⟨_, List.mem_flatMap.mpr ⟨_, passing, mem_widen_new rfl⟩, rfl⟩
  tiles := divided.tiles (tiled.chain.known slots) tiled.tiles

structure SameOutline (before after : Store) : Prop where
  arenas : ∀ arena, after.arena arena = before.arena arena
  spans : ∀ piece, (after.stored piece).span = (before.stored piece).span
  links : ∀ piece, (after.stored piece).next = (before.stored piece).next
  size : after.pieces.size = before.pieces.size

namespace SameOutline

theorem refl (store : Store) : SameOutline store store :=
  ⟨fun _ => rfl, fun _ => rfl, fun _ => rfl, rfl⟩

theorem trans {last : Store} (first : SameOutline before after) (second : SameOutline after last) :
    SameOutline before last :=
  ⟨fun arena => (second.arenas arena).trans (first.arenas arena),
    fun piece => (second.spans piece).trans (first.spans piece),
    fun piece => (second.links piece).trans (first.links piece), second.size.trans first.size⟩

theorem setQueue (store : Store) (id : Nat) (queue : Queue) :
    SameOutline store (store.setQueue id queue) :=
  ⟨fun _ => rfl, fun _ => rfl, fun _ => rfl, rfl⟩

theorem setPiece {id : Nat} {piece : StoredPiece} (span : piece.span = (store.stored id).span)
    (next : piece.next = (store.stored id).next) : SameOutline store (store.setPiece id piece) :=
  ⟨fun _ => rfl, stored_setPiece_keeps Piece.span span, stored_setPiece_keeps Piece.next next,
    size_pieces_setPiece store id piece⟩

theorem decorate (store : Store) (cap : Int) (piece : Nat) (side : Side) (place : Place)
    (content : Content) : SameOutline store (store.decorate cap piece side place content).store := by
  unfold Store.decorate
  split
  · exact refl store
  · exact setQueue store _ _

theorem clearDecorations (store : Store) (piece : Nat) :
    SameOutline store (store.clearDecorations piece) := (setQueue _ _ _).trans (setQueue _ _ _)

theorem applyPolicy (store : Store) (piece : Nat) (policy : EditPolicy) :
    SameOutline store (store.applyPolicy piece policy) := by
  unfold Store.applyPolicy
  split
  · exact (clearDecorations store piece).trans (setPiece rfl rfl)
  · exact setPiece rfl rfl

theorem edit (store : Store) (cap : Int) (piece : Nat) (content : Content) (policy : EditPolicy) :
    SameOutline store (store.edit cap piece content policy).store := by
  unfold Store.edit
  split
  · exact applyPolicy store piece policy
  · exact (applyPolicy store piece policy).trans (setPiece rfl rfl)

theorem chain (same : SameOutline before after) {start last : Option Int}
    {passed : List (Nat × Nat)} (path : Chain before arena start passed last) :
    Chain after arena start passed last := by
  induction path with
  | here => exact .here _
  | step found _ ih =>
    rw [← same.links] at ih
    apply Chain.step _ ih
    rw [slot?, same.arenas]
    exact found

theorem tiled (same : SameOutline before after) {length : Nat} {passed : List (Nat × Nat)}
    (tiled : Tiled before arena length passed) : Tiled after arena length passed where
  chain := same.chain tiled.chain
  every := by
    rw [same.arenas]
    exact tiled.every
  tiles := by
    have spans : (fun step : Nat × Nat => (after.piece step.2).span) =
        fun step => (before.piece step.2).span := funext fun step => same.spans step.2
    rw [spans]
    exact tiled.tiles

theorem slotsKnown (same : SameOutline before after) (slots : before.SlotsKnown arena) :
    after.SlotsKnown arena := by
  intro piece held
  rw [same.arenas] at held
  rw [same.size]
  exact slots piece held

end SameOutline

/-- An arena with one slot, whose piece covers a source of a given length and has no link. -/
structure Whole (store : Store) (arena piece length : Nat) : Prop where
  known : piece < store.pieces.size
  slots : store.arena arena = #[piece]
  start : (store.piece piece).span.start = 0
  stop : (store.piece piece).span.stop = length
  next : (store.piece piece).next = none

namespace Whole

variable {piece length : Nat}

theorem slotsKnown (whole : Whole store arena piece length) : store.SlotsKnown arena := by
  intro held among
  rw [whole.slots] at among
  cases Array.mem_singleton.mp among
  exact whole.known

theorem tiled (whole : Whole store arena piece length) : Tiled store arena length [(0, piece)] where
  chain := by
    have found : store.slot? arena 0 = some piece := by simp [slot?, whole.slots]
    have last : (store.stored piece).next = none := whole.next
    apply Chain.step found
    rw [last]
    exact .here none
  every := by
    simp [whole.slots]
  tiles := ⟨whole.start, whole.stop⟩

end Whole

theorem whole_document (length : Nat) (covers : 0 < length) :
    Whole (document length covers) 0 0 length where
  known := Nat.one_pos
  slots := rfl
  start := rfl
  stop := rfl
  next := rfl

end Store

/-- What may happen to a document: divisions in its arena, decorations, edits, new caps. -/
def Action.Revises (arena : Nat) : Action → Prop
  | .setCap _ | .decorate .. | .edit .. => True
  | .divideSlot target _ _ => target = arena
  | _ => False

namespace Workspace

variable {printable : Char → Bool} {arena length : Nat}

theorem tiled_perform {workspace : Workspace} {action : Action}
    (kept : workspace.store.SlotsKnown arena ∧
      ∃ passed, Store.Tiled workspace.store arena length passed) (only : action.Revises arena) :
    let after := (workspace.perform printable action).workspace.store
    after.SlotsKnown arena ∧ ∃ passed, Store.Tiled after arena length passed := by
  obtain ⟨slots, passed, tiled⟩ := kept
  cases action with
  | setCap => exact ⟨slots, passed, tiled⟩
  | decorate piece side place content =>
    have same := Store.SameOutline.decorate workspace.store workspace.cap piece side place content
    exact ⟨same.slotsKnown slots, passed, same.tiled tiled⟩
  | edit piece content policy =>
    have same := Store.SameOutline.edit workspace.store workspace.cap piece content policy
    exact ⟨same.slotsKnown slots, passed, same.tiled tiled⟩
  | divideSlot target index offset =>
    have divides : (Action.divideSlot target index offset).DividesIn arena := only
    rcases perform_dividesIn divides slots with same | ⟨piece, position, divided⟩
    · rw [same]
      exact ⟨slots, passed, tiled⟩
    · exact ⟨divided.slotsKnown slots, _, tiled.divided slots divided⟩
  | _ => exact only.elim

/-- However a document is revised, its links pass every slot once, its spans tile the source,
so that there are never more slots than positions, and a source that is long enough is
rendered as what the pieces contribute, in that order. -/
theorem run_tiles_document {workspace : Workspace} {piece : Nat}
    (whole : Store.Whole workspace.store arena piece length) {actions : List Action}
    (only : ∀ action ∈ actions, action.Revises arena) :
    ∃ passed, Walk.Drains (workspace.run printable actions).store { arena, head := 0 }
        ⟨passed, none⟩ ∧
      (passed.map Prod.fst).Perm
        (List.range ((workspace.run printable actions).store.arena arena).size) ∧
      Consecutive 0 (passed.map fun step =>
        ((workspace.run printable actions).store.piece step.2).span) length ∧
      ((workspace.run printable actions).store.arena arena).size ≤ length ∧
      ∀ source : String, length ≤ source.length →
        (workspace.run printable actions).store.render arena 0 source =
          .ok (String.join (passed.map fun step =>
            ((workspace.run printable actions).store.piece step.2).block source)) := by
  obtain ⟨_, passed, tiled⟩ := run_keeps (fun workspace => workspace.store.SlotsKnown arena ∧
    ∃ passed, Store.Tiled workspace.store arena length passed) tiled_perform
    ⟨whole.slotsKnown, _, whole.tiled⟩ only
  have stops := Walk.drains_iff.mpr (Store.trail_eq_stop_iff.mpr tiled.chain).symm
  exact ⟨passed, stops, tiled.slots_perm, tiled.tiles, tiled.size_le,
    fun source long => tiled.render_eq long⟩

/-- A document of eleven positions, divided, edited and divided again, with two refusals: an
edited piece is not divided, and a low cap admits no division. -/
theorem run_tiles_document_of_eleven :
    Store.Whole (Store.document 11 (by decide)) 0 0 11 ∧
    ∃ passed, Walk.Drains (({ store := Store.document 11 (by decide) } : Workspace).run
        (fun _ => true) [.divideSlot 0 0 5, .edit 1 (.plain " there") {}, .divideSlot 0 1 8,
          .setCap 3, .divideSlot 0 0 2, .setCap 20, .divideSlot 0 0 2]).store
        { arena := 0, head := 0 } ⟨passed, none⟩ ∧
      passed.map Prod.fst = [0, 2, 1] := by
  have whole := Store.whole_document 11 (by decide)
  have only : ∀ action ∈ [Action.divideSlot 0 0 5, .edit 1 (.plain " there") {}, .divideSlot 0 1 8,
      .setCap 3, .divideSlot 0 0 2, .setCap 20, .divideSlot 0 0 2], action.Revises 0 := by
    intro action among
    simp only [List.mem_cons, List.not_mem_nil, or_false] at among
    rcases among with rfl | rfl | rfl | rfl | rfl | rfl | rfl <;> trivial
  obtain ⟨passed, stops, _⟩ := @run_tiles_document (fun _ => true) 0 11
    { store := Store.document 11 (by decide) } 0 whole _ only
  have trailed := congrArg Delivery.items (Walk.drains_iff.mp stops)
  refine ⟨whole, passed, stops, ?_⟩
  rw [show passed = _ from trailed]
  rfl

end Workspace

end Patchwork
