import Patchwork.Proofs.Life
import Patchwork.Proofs.Substitution.Text

/-! # Decorations keep to positions

Each piece on the way through a document starts at one position of the source and stops at
another, and no other piece starts or stops there. Its intro is anchored at the first, its outro
at the second. A division leaves the intro with the left half and gives the outro to the right, so
both stay where they are, and nothing has been anchored yet at the position of the cut. What the
queues hold and what is rendered therefore depends on the decorations made at each anchor alone,
in their order there, and not on the divisions nor on how all these follow one another.
-/
namespace Patchwork

/-- The position where the decorations on one side of a span are anchored. -/
def Span.anchor (span : Span) : Side → Nat
  | .intro => span.start
  | .outro => span.stop

deriving instance DecidableEq for Fragment, Content

inductive Mark
  | cut (position : Nat)
  | decorate (side : Side) (position : Nat) (place : Place) (content : Content)
deriving DecidableEq

namespace Mark

def cut? : Mark → Option Nat
  | cut position => some position
  | decorate .. => none

def call? (side : Side) (position : Nat) : Mark → Option (Place × Content)
  | cut _ => none
  | decorate side' position' place content =>
    if side' = side ∧ position' = position then some (place, content) else none

/-- The positions of the cuts. -/
def cuts (marks : List Mark) : List Nat := marks.filterMap cut?

/-- The decorations at an anchor, in order. -/
def calls (side : Side) (position : Nat) (marks : List Mark) : List (Place × Content) :=
  marks.filterMap (call? side position)

variable {marks : List Mark} {side : Side} {position : Nat}

@[simp] theorem cuts_append_cut (cutting : Nat) :
    cuts (marks ++ [cut cutting]) = cuts marks ++ [cutting] := List.filterMap_append

@[simp] theorem cuts_append_decorate (place : Place) (content : Content) :
    cuts (marks ++ [decorate side position place content]) = cuts marks := by
  rw [cuts, List.filterMap_append]
  exact List.append_nil _

@[simp] theorem calls_append_cut (cutting : Nat) :
    calls side position (marks ++ [cut cutting]) = calls side position marks := by
  rw [calls, List.filterMap_append]
  exact List.append_nil _

theorem calls_append_decorate (side' : Side) (position' : Nat) (place : Place) (content : Content) :
    calls side position (marks ++ [decorate side' position' place content]) =
      if side' = side ∧ position' = position then calls side position marks ++ [(place, content)]
      else calls side position marks := by
  rw [calls, List.filterMap_append, List.filterMap_cons, call?]
  split <;> simp_all [calls]

end Mark

/-- A queue after some decorations, those that the cap admits. -/
def queued (cap : Int) (calls : List (Place × Content)) : List Fragment :=
  calls.foldl (fun items call =>
    match call.2.toFragment cap with
    | .ok fragment => call.1.insert fragment items
    | .error _ => items) []

theorem queued_append (cap : Int) (calls : List (Place × Content)) (place : Place)
    (content : Content) : queued cap (calls ++ [(place, content)]) =
      match content.toFragment cap with
      | .ok fragment => place.insert fragment (queued cap calls)
      | .error _ => queued cap calls := by
  rw [queued, List.foldl_append]
  rfl

/-- What is anchored on one side of a position, as text. -/
def anchoredText (cap : Int) (calls : Side → Nat → List (Place × Content)) (side : Side)
    (position : Nat) : String :=
  String.join ((queued cap (calls side position)).map Fragment.text)

/-- A position of a source with the decorations around it: an intro that starts with it and an
outro that stops behind it. -/
def decoratedAt (cap : Int) (calls : Side → Nat → List (Place × Content)) (source : String)
    (position : Nat) : String :=
  anchoredText cap calls .intro position ++ slice source position (position + 1) ++
    anchoredText cap calls .outro (position + 1)

/-- A source with all decorations at their anchors. -/
def decoratedSource (cap : Int) (calls : Side → Nat → List (Place × Content)) (length : Nat)
    (source : String) : String :=
  String.join ((List.range' 0 length).map (decoratedAt cap calls source))

/-- Where nothing is anchored between two positions of a stretch, its decorations are at its ends. -/
theorem join_decoratedAt (cap : Int) {calls : Side → Nat → List (Place × Content)} (source : String)
    (start count : Nat) (clear : ∀ side position, start < position →
      position < start + (count + 1) → calls side position = []) :
    String.join ((List.range' start (count + 1)).map (decoratedAt cap calls source)) =
      anchoredText cap calls .intro start ++ slice source start (start + (count + 1)) ++
        anchoredText cap calls .outro (start + (count + 1)) := by
  induction count generalizing start with
  | zero => simp [decoratedAt]
  | succ count ih =>
    have blank : ∀ side, anchoredText cap calls side (start + 1) = "" := fun side => by
      rw [anchoredText, clear side (start + 1) (by omega) (by omega)]
      rfl
    have stop : start + 1 + (count + 1) = start + (count + 1 + 1) := by omega
    have joined : slice source start (start + 1) ++ slice source (start + 1) (start + (count + 1 + 1)) =
        slice source start (start + (count + 1 + 1)) := slice_append source (by omega) (by omega)
    rw [List.range'_succ, List.map_cons, String.join_cons, ih (start + 1) fun side position low high =>
      clear side position (by omega) (by omega), stop, ← joined, decoratedAt]
    simp [blank, String.append_assoc]

namespace Piece

variable {κ : Type}

theorem edited_setQueue (piece : Piece κ) (side : Side) (queue : κ) :
    (piece.setQueue side queue).edited = piece.edited := by
  cases side <;> rfl

theorem queue_setQueue (piece : Piece κ) (side side' : Side) (queue : κ) :
    (piece.setQueue side queue).queue side' = if side = side' then queue else piece.queue side' := by
  cases side <;> cases side' <;> rfl

end Piece

/-- A piece as it is in the source, that holds what has been anchored at its ends. -/
structure Piece.HoldsMarks (cap : Int) (marks : List Mark) (piece : PieceView) : Prop where
  plain : piece.edited = none
  held : ∀ side, piece.queue side = queued cap (Mark.calls side (piece.span.anchor side) marks)

namespace Piece.HoldsMarks

variable {cap : Int} {marks : List Mark} {piece : PieceView} {position : Nat}

theorem intro_eq (holds : piece.HoldsMarks cap marks) :
    piece.intro = queued cap (Mark.calls .intro piece.span.start marks) := holds.held .intro

theorem outro_eq (holds : piece.HoldsMarks cap marks) :
    piece.outro = queued cap (Mark.calls .outro piece.span.stop marks) := holds.held .outro

theorem halves (holds : piece.HoldsMarks cap marks)
    (inside : piece.span.start < position ∧ position < piece.span.stop)
    (clear : ∀ side, Mark.calls side position marks = []) (next : Option Int) :
    HoldsMarks cap marks { (piece.halves position inside [] []).1 with next } ∧
      HoldsMarks cap marks (piece.halves position inside [] []).2 := by
  have none : ∀ side, queued cap (Mark.calls side position marks) = [] := fun side => by
    rw [clear side]
    rfl
  constructor
  · refine ⟨holds.plain, fun side => ?_⟩
    cases side with
    | intro => exact holds.held .intro
    | outro => exact (none .outro).symm
  · refine ⟨rfl, fun side => ?_⟩
    cases side with
    | intro => exact (none .intro).symm
    | outro => exact holds.held .outro

theorem cut (holds : piece.HoldsMarks cap marks) (cutting : Nat) :
    piece.HoldsMarks cap (marks ++ [.cut cutting]) :=
  ⟨holds.plain, fun side => by rw [Mark.calls_append_cut, holds.held side]⟩

theorem decorate (holds : piece.HoldsMarks cap marks) (side : Side) (place : Place)
    {content : Content} {fragment : Fragment} (kept : content.toFragment cap = .ok fragment) :
    (piece.setQueue side (place.insert fragment (piece.queue side))).HoldsMarks cap
      (marks ++ [.decorate side (piece.span.anchor side) place content]) := by
  refine ⟨?_, fun side' => ?_⟩
  · rw [edited_setQueue, holds.plain]
  · rw [span_setQueue, Mark.calls_append_decorate, queue_setQueue]
    by_cases same : side = side'
    · subst same
      simp only [true_and, if_true, queued_append, kept, holds.held]
    · simp only [same, false_and, if_false, holds.held]

theorem decorate_elsewhere (holds : piece.HoldsMarks cap marks) {side : Side}
    (apart : position ≠ piece.span.anchor side) (place : Place) (content : Content) :
    piece.HoldsMarks cap (marks ++ [.decorate side position place content]) := by
  refine ⟨holds.plain, fun side' => ?_⟩
  rw [Mark.calls_append_decorate, if_neg, holds.held]
  rintro ⟨rfl, here⟩
  exact apart here

theorem decorate_refused (holds : piece.HoldsMarks cap marks) {content : Content} {fault : Fault}
    (refused : content.toFragment cap = .error fault) (side : Side) (place : Place) :
    piece.HoldsMarks cap (marks ++ [.decorate side position place content]) := by
  refine ⟨holds.plain, fun side' => ?_⟩
  rw [Mark.calls_append_decorate, holds.held]
  split
  · rw [queued_append, refused]
  · rfl

end Piece.HoldsMarks

namespace Store

variable {before after store : Store} {arena length piece position : Nat}
  {passed : List (Nat × Nat)}

theorem Tiled.anchor_inj (tiled : Tiled store arena length passed) {step other : Nat × Nat}
    (passing : step ∈ passed) (passing' : other ∈ passed) {side : Side}
    (same : (store.piece step.2).span.anchor side = (store.piece other.2).span.anchor side) :
    step = other := by
  by_contra different
  have apart := tiled.apart passing passing' different
  have order := (store.piece step.2).span.start_lt_stop
  have order' := (store.piece other.2).span.start_lt_stop
  cases side <;> simp only [Span.anchor, Span.Apart] at same apart <;> omega

theorem Tiled.anchor_ne (tiled : Tiled store arena length passed) {step other : Nat × Nat}
    (passing : step ∈ passed) (passing' : other ∈ passed) (side : Side)
    (inside : (store.piece step.2).span.start < position ∧
      position < (store.piece step.2).span.stop) :
    (store.piece other.2).span.anchor side ≠ position := by
  intro here
  have order := (store.piece other.2).span.start_lt_stop
  by_cases same : step = other
  · subst same
    cases side <;> simp only [Span.anchor] at here <;> omega
  · have apart := tiled.apart passing passing' same
    cases side <;> simp only [Span.anchor, Span.Apart] at here apart <;> omega

theorem Divided.exists_anchor (divided : Divided before after arena piece position)
    {step : Nat × Nat} (known : step.2 < before.pieces.size) (side : Side) :
    ∃ other ∈ before.widen arena piece step,
      (after.piece other.2).span.anchor side = (before.piece step.2).span.anchor side := by
  by_cases same : step.2 = piece
  · cases side with
    | intro => exact ⟨step, mem_widen_self, by rw [same, divided.left]; rfl⟩
    | outro => exact ⟨_, mem_widen_new same, by rw [same, divided.right]; rfl⟩
  · exact ⟨step, mem_widen_self, by rw [divided.other known same]⟩

/-- What holds of both halves, and of the pieces that look as before, holds after a division. -/
theorem Divided.forall_widen (divided : Divided before after arena piece position)
    (known : ∀ step ∈ passed, step.2 < before.pieces.size) (holds : PieceView → Prop)
    (left : ∀ next, holds { ((before.piece piece).halves position divided.inside [] []).1 with next })
    (right : holds ((before.piece piece).halves position divided.inside [] []).2)
    (others : ∀ step ∈ passed, holds (before.piece step.2)) :
    ∀ other ∈ passed.flatMap (before.widen arena piece), holds (after.piece other.2) := by
  intro other passing
  rcases divided.mem_widen known passing with ⟨same | same, _⟩ | ⟨old, same⟩ <;> rw [same]
  · rw [divided.left]
    exact left _
  · rw [divided.right]
    exact right
  · exact others other old

/-- A document whose pieces hold what has been anchored at their ends, and that has been cut
where they start. -/
structure Anchored (cap : Int) (store : Store) (arena length : Nat) (marks : List Mark)
    (passed : List (Nat × Nat)) : Prop where
  sound : store.WellFormed
  tiled : Tiled store arena length passed
  holds : ∀ step ∈ passed, (store.piece step.2).HoldsMarks cap marks
  clear : ∀ side position, (∀ step ∈ passed, (store.piece step.2).span.anchor side ≠ position) →
    Mark.calls side position marks = []
  starts : ∀ position, (∃ step ∈ passed, (store.piece step.2).span.start = position) ↔
    position = 0 ∨ position ∈ Mark.cuts marks

namespace Anchored

variable {cap : Int} {marks : List Mark}

theorem slotsKnown (anchored : Anchored cap store arena length marks passed) :
    store.SlotsKnown arena := fun _ held => anchored.sound.slot_known arena held

theorem divided (anchored : Anchored cap before arena length marks passed)
    (sound : after.WellFormed) (divided : Divided before after arena piece position) :
    Anchored cap after arena length (marks ++ [.cut position])
      (passed.flatMap (before.widen arena piece)) := by
  have slots := anchored.slotsKnown
  have known := anchored.tiled.chain.known slots
  obtain ⟨slot, found⟩ := Array.mem_iff_getElem?.mp divided.held
  have here : (slot, piece) ∈ passed := anchored.tiled.mem_of_slot found
  -- Nothing has been anchored at the position of the cut.
  have uncalled : ∀ side, Mark.calls side position marks = [] := fun side =>
    anchored.clear side position fun other passing =>
      anchored.tiled.anchor_ne here passing side divided.inside
  refine ⟨sound, anchored.tiled.divided slots divided, ?_, ?_, ?_⟩
  · have halves := fun next => (anchored.holds _ here).halves divided.inside uncalled next
    exact divided.forall_widen known _ (fun next => (halves next).1.cut position)
      ((halves none).2.cut position) fun step passing => (anchored.holds step passing).cut position
  · intro side elsewhere unanchored
    rw [Mark.calls_append_cut]
    refine anchored.clear side elsewhere fun step passing same => ?_
    obtain ⟨other, inside, stays⟩ := divided.exists_anchor (known step passing) side
    exact unanchored other (List.mem_flatMap.mpr ⟨step, passing, inside⟩) (stays.trans same)
  · intro start
    rw [Mark.cuts_append_cut, List.mem_append, List.mem_singleton, ← or_assoc, ← anchored.starts]
    constructor
    · rintro ⟨other, passing, rfl⟩
      exact divided.forall_widen known (fun view =>
          (∃ step ∈ passed, (before.piece step.2).span.start = view.span.start) ∨
            view.span.start = position)
        (fun _ => .inl ⟨_, here, rfl⟩) (.inr rfl) (fun step passing => .inl ⟨step, passing, rfl⟩)
        other passing
    · rintro (⟨step, passing, rfl⟩ | rfl)
      · obtain ⟨other, inside, stays⟩ := divided.exists_anchor (known step passing) .intro
        exact ⟨other, List.mem_flatMap.mpr ⟨step, passing, inside⟩, stays⟩
      · refine ⟨_, List.mem_flatMap.mpr ⟨_, here, mem_widen_new rfl⟩, ?_⟩
        rw [divided.right]
        rfl

theorem decorated (anchored : Anchored cap store arena length marks passed) {step : Nat × Nat}
    (here : step ∈ passed) (side : Side) (place : Place) (content : Content) :
    Anchored cap (store.decorate cap step.2 side place content).store arena length
      (marks ++ [.decorate side ((store.piece step.2).span.anchor side) place content]) passed := by
  have same := SameOutline.decorate store cap step.2 side place content
  have slots := anchored.slotsKnown
  have known := anchored.tiled.chain.known slots
  have spans : ∀ other, ((store.decorate cap step.2 side place content).store.piece other).span =
      (store.piece other).span := same.spans
  refine ⟨anchored.sound.decorate cap step.2 side place content, same.tiled anchored.tiled, ?_, ?_,
    ?_⟩
  · intro other passing
    have holds := anchored.holds other passing
    cases kept : content.toFragment cap with
    | error fault =>
      simp only [Store.decorate, kept]
      exact holds.decorate_refused kept side place
    | ok fragment =>
      rw [piece_decorate anchored.sound (known step here) (known other passing) kept]
      split
      · exact (anchored.holds step here).decorate side place kept
      · rename_i apart
        refine holds.decorate_elsewhere (fun equal => apart ?_) place content
        rw [anchored.tiled.anchor_inj here passing equal]
  · intro side' position unanchored
    simp only [spans] at unanchored
    rw [Mark.calls_append_decorate, if_neg]
    · exact anchored.clear side' position unanchored
    · rintro ⟨rfl, equal⟩
      exact unanchored step here equal
  · intro position
    simp only [spans, Mark.cuts_append_decorate]
    exact anchored.starts position

theorem block_eq (anchored : Anchored cap store arena length marks passed) {step : Nat × Nat}
    (here : step ∈ passed) (source : String) :
    (store.piece step.2).block source =
      String.join ((List.range' (store.piece step.2).span.start (store.piece step.2).span.length).map
        (decoratedAt cap (Mark.calls · · marks) source)) := by
  have holds := anchored.holds step here
  obtain ⟨rest, count⟩ := Nat.exists_eq_add_one_of_ne_zero
    (Nat.ne_of_gt (store.piece step.2).span.length_pos)
  have stop : (store.piece step.2).span.start + (rest + 1) = (store.piece step.2).span.stop := by
    have order := (store.piece step.2).span.start_lt_stop
    simp only [Span.length] at count
    omega
  have clear : ∀ side position, (store.piece step.2).span.start < position →
      position < (store.piece step.2).span.start + (rest + 1) →
      Mark.calls side position marks = [] := fun side position low high =>
    anchored.clear side position fun other passing =>
      anchored.tiled.anchor_ne here passing side ⟨low, by omega⟩
  rw [count, join_decoratedAt cap source _ rest clear, stop, Piece.block, holds.intro_eq,
    holds.outro_eq]
  simp [Piece.shown, holds.plain, anchoredText]

/-- The document is rendered as the source with the decorations at their anchors. -/
theorem render_eq (anchored : Anchored cap store arena length marks passed) {source : String}
    (long : length ≤ source.length) : store.render arena 0 source =
      .ok (decoratedSource cap (Mark.calls · · marks) length source) := by
  have blocks := List.map_congr_left fun step (here : step ∈ passed) =>
    anchored.block_eq here source
  have spans := anchored.tiled.tiles.join_positions (decoratedAt cap (Mark.calls · · marks) source)
  rw [List.map_map] at spans
  rw [anchored.tiled.render_eq long, blocks]
  exact congrArg Except.ok spans

theorem map_view (anchored : Anchored cap store arena length marks passed) :
    passed.map (fun step => ((store.piece step.2).span, (store.piece step.2).intro,
      (store.piece step.2).outro)) =
      (passed.map fun step => (store.piece step.2).span).map fun span =>
        (span, queued cap (Mark.calls .intro span.start marks),
          queued cap (Mark.calls .outro span.stop marks)) := by
  rw [List.map_map]
  refine List.map_congr_left fun step here => ?_
  have holds := anchored.holds step here
  rw [Function.comp_apply, holds.intro_eq, holds.outro_eq]

theorem spans_eq (anchored : Anchored cap store arena length marks passed) {other : Store}
    {arena' : Nat} {cap' : Int} {marks' : List Mark} {passed' : List (Nat × Nat)}
    (anchored' : Anchored cap' other arena' length marks' passed')
    (cuts : ∀ position, position ∈ Mark.cuts marks ↔ position ∈ Mark.cuts marks') :
    (passed.map fun step => (store.piece step.2).span) =
      passed'.map fun step => (other.piece step.2).span := by
  refine anchored.tiled.tiles.eq_of_starts anchored'.tiled.tiles fun position => ?_
  simp only [List.map_map, List.mem_map, Function.comp_apply, anchored.starts, anchored'.starts, cuts]

end Anchored

/-- A document as it is at first: one piece without decorations, as it is in the source. -/
structure Blank (store : Store) (arena piece length : Nat) : Prop
    extends Whole store arena piece length where
  sound : store.WellFormed
  plain : (store.piece piece).edited = none
  bare : ∀ side, (store.piece piece).queue side = []

theorem blank_document (length : Nat) (covers : 0 < length) :
    Blank (document length covers) 0 0 length where
  toWhole := whole_document length covers
  sound := .document length covers
  plain := rfl
  bare := fun side => by cases side <;> rfl

theorem Blank.anchored (blank : Blank store arena piece length) (cap : Int) :
    Anchored cap store arena length [] [(0, piece)] where
  sound := blank.sound
  tiled := blank.tiled
  holds := by
    intro step passing
    cases List.mem_singleton.mp passing
    exact ⟨blank.plain, blank.bare⟩
  clear := fun _ _ _ => rfl
  starts := by
    simp [blank.start, Mark.cuts, eq_comm]

end Store

/-- Divisions in an arena, and decorations of the pieces on the way from its slot 0. -/
def Action.Anchors (arena : Nat) (store : Store) : Action → Prop
  | .divideSlot target _ _ => target = arena
  | .decorate piece _ _ _ => piece ∈ (store.trail arena 0).items.map Prod.snd
  | _ => False

instance (arena : Nat) (store : Store) : (action : Action) → Decidable (action.Anchors arena store)
  | .divideSlot target _ _ => inferInstanceAs (Decidable (target = arena))
  | .decorate piece _ _ _ =>
    inferInstanceAs (Decidable (piece ∈ (store.trail arena 0).items.map Prod.snd))
  | .setCap _ | .ask _ | .openArena | .create _ | .push .. | .edit .. | .divide .. | .setNext ..
  | .setStoreName .. | .setSpan .. | .setEdited .. | .openWalk .. | .openListing _ | .openParts ..
  | .openOutput .. | .pull .. => .isFalse not_false

namespace Workspace

variable {printable : Char → Bool} {workspace other : Workspace} {arena arena' piece piece' length : Nat}

/-- The cut that a division makes unless it is refused, or a decoration with its anchor. -/
def marks (workspace : Workspace) : Action → List Mark
  | .divideSlot arena index offset =>
    match (workspace.store.divideSlot workspace.cap arena index offset).result with
    | .ok _ => [.cut offset.toNat]
    | .error _ => []
  | .decorate piece side place content =>
    [.decorate side ((workspace.store.stored piece).span.anchor side) place content]
  | _ => []

theorem anchored_perform {cap : Int} {seen : List Mark} {action : Action}
    (only : action.Anchors arena workspace.store)
    (kept : workspace.cap = cap ∧
      ∃ passed, Store.Anchored cap workspace.store arena length seen passed) :
    let after := (workspace.perform printable action).workspace
    after.cap = cap ∧
      ∃ passed, Store.Anchored cap after.store arena length (seen ++ workspace.marks action) passed := by
  obtain ⟨rfl, passed, anchored⟩ := kept
  cases action with
  | divideSlot target index offset =>
    cases only
    refine ⟨rfl, ?_⟩
    rw [store_perform]
    have sound := anchored.sound.divideSlot workspace.cap arena index offset
    rcases Store.divideSlot_cases anchored.slotsKnown workspace.cap index offset with
      ⟨fault, refused⟩ | ⟨piece, position, _, rfl, accepted, divided⟩
    · simp only [marks, refused, List.append_nil]
      exact ⟨passed, anchored⟩
    · simp only [marks, accepted]
      exact ⟨_, anchored.divided sound divided⟩
  | decorate piece side place content =>
    refine ⟨rfl, passed, ?_⟩
    rw [store_perform]
    have trailed := Store.trail_eq_stop_iff.mpr anchored.tiled.chain
    simp only [Action.Anchors, trailed] at only
    obtain ⟨step, here, rfl⟩ := List.mem_map.mp only
    exact anchored.decorated here side place content
  | _ => exact only.elim

theorem anchored_run (blank : workspace.store.Blank arena piece length) {actions : List Action}
    (along : workspace.Along printable (fun now action => action.Anchors arena now.store) actions) :
    ∃ passed, Store.Anchored workspace.cap (workspace.run printable actions).store arena length
      (workspace.collect printable marks actions) passed :=
  (along_keeps (fun now seen => now.cap = workspace.cap ∧
      ∃ passed, Store.Anchored workspace.cap now.store arena length seen passed)
    anchored_perform ⟨rfl, _, blank.anchored workspace.cap⟩ along).2

/-- Two documents of one length that are divided and decorated under one cap, each by a run in
which the same decorations are made at each anchor in the same order, are rendered alike,
wherever they are divided and however divisions and decorations follow one another. If they are
also cut at the same positions, walks through them see the same spans and decorations. -/
theorem runs_agree_of_calls (blank : workspace.store.Blank arena piece length)
    (blank' : other.store.Blank arena' piece' length) (cap : workspace.cap = other.cap)
    {actions others : List Action}
    (along : workspace.Along printable (fun now action => action.Anchors arena now.store) actions)
    (along' : other.Along printable (fun now action => action.Anchors arena' now.store) others)
    (calls : ∀ side position,
      Mark.calls side position (workspace.collect printable marks actions) =
        Mark.calls side position (other.collect printable marks others)) :
    let now := (workspace.run printable actions).store
    let now' := (other.run printable others).store
    (∀ source : String, length ≤ source.length → ∃ text,
      now.render arena 0 source = .ok text ∧ now'.render arena' 0 source = .ok text) ∧
    ((∀ position, position ∈ Mark.cuts (workspace.collect printable marks actions) ↔
        position ∈ Mark.cuts (other.collect printable marks others)) →
      ∃ passed passed', Walk.Drains now { arena, head := 0 } ⟨passed, none⟩ ∧
        Walk.Drains now' { arena := arena', head := 0 } ⟨passed', none⟩ ∧
        passed.map (fun step => ((now.piece step.2).span, (now.piece step.2).intro,
          (now.piece step.2).outro)) =
        passed'.map fun step => ((now'.piece step.2).span, (now'.piece step.2).intro,
          (now'.piece step.2).outro)) := by
  intro now now'
  obtain ⟨passed, anchored⟩ := anchored_run blank along
  obtain ⟨passed', anchored'⟩ := anchored_run blank' along'
  rw [← cap] at anchored'
  have alike : (Mark.calls · · (workspace.collect printable marks actions)) =
      (Mark.calls · · (other.collect printable marks others)) :=
    funext fun side => funext (calls side)
  constructor
  · intro source long
    refine ⟨_, anchored.render_eq long, ?_⟩
    rw [alike]
    exact anchored'.render_eq long
  · intro cuts
    refine ⟨passed, passed', anchored.tiled.drains, anchored'.tiled.drains, ?_⟩
    rw [anchored.map_view, anchored'.map_view, anchored.spans_eq anchored' cuts]
    simp only [calls]

/-- Cut at two positions in either order and decorated before, between and after: the outro at the
end before it moves and when it has, another outro from both sides, an intro. -/
theorem runs_agree_of_calls_of_two_orders :
    let start : Workspace := { store := .document 6 (by decide) }
    let actions : List Action := [.decorate 0 .outro .back (.plain ">"), .divideSlot 0 0 4,
      .decorate 1 .intro .back (.plain "("), .divideSlot 0 0 2, .decorate 0 .outro .back (.plain "a"),
      .decorate 0 .outro .front (.plain "b")]
    let others : List Action := [.divideSlot 0 0 2, .decorate 0 .outro .back (.plain "a"),
      .divideSlot 0 1 4, .decorate 2 .outro .back (.plain ">"),
      .decorate 0 .outro .front (.plain "b"), .decorate 2 .intro .back (.plain "(")]
    let now := (start.run (fun _ => true) actions).store
    let now' := (start.run (fun _ => true) others).store
    start.store.Blank 0 0 6 ∧
    start.Along (fun _ => true) (fun now action => action.Anchors 0 now.store) actions ∧
    start.Along (fun _ => true) (fun now action => action.Anchors 0 now.store) others ∧
    (∀ side position, Mark.calls side position (start.collect (fun _ => true) marks actions) =
      Mark.calls side position (start.collect (fun _ => true) marks others)) ∧
    now.render 0 0 "abcdef" = .ok "abbacd(ef>" ∧ now'.render 0 0 "abcdef" = .ok "abbacd(ef>" ∧
    ∃ passed passed', Walk.Drains now { arena := 0, head := 0 } ⟨passed, none⟩ ∧
      Walk.Drains now' { arena := 0, head := 0 } ⟨passed', none⟩ ∧
      passed.map Prod.fst = [0, 2, 1] ∧ passed'.map Prod.fst = [0, 1, 2] ∧
      passed.map (fun step => ((now.piece step.2).span, (now.piece step.2).intro,
        (now.piece step.2).outro)) =
      passed'.map fun step => ((now'.piece step.2).span, (now'.piece step.2).intro,
        (now'.piece step.2).outro) := by
  intro start actions others now now'
  have blank := Store.blank_document 6 (by decide)
  have seen : start.collect (fun _ => true) marks actions =
      [.decorate .outro 6 .back (.plain ">"), .cut 4, .decorate .intro 4 .back (.plain "("), .cut 2,
        .decorate .outro 2 .back (.plain "a"), .decorate .outro 2 .front (.plain "b")] := by
    decide +kernel
  have seen' : start.collect (fun _ => true) marks others =
      [.cut 2, .decorate .outro 2 .back (.plain "a"), .cut 4, .decorate .outro 6 .back (.plain ">"),
        .decorate .outro 2 .front (.plain "b"), .decorate .intro 4 .back (.plain "(")] := by
    decide +kernel
  have same : ∀ side position,
      Mark.calls side position (start.collect (fun _ => true) marks actions) =
        Mark.calls side position (start.collect (fun _ => true) marks others) := by
    intro side position
    rw [seen, seen']
    simp only [Mark.calls, List.filterMap_cons, List.filterMap_nil, Mark.call?]
    by_cases first : position = 2
    · subst first
      cases side <;> rfl
    · by_cases second : position = 4
      · subst second
        cases side <;> rfl
      · by_cases third : position = 6
        · subst third
          cases side <;> rfl
        · simp [Ne.symm first, Ne.symm second, Ne.symm third]
  have along : start.Along (fun _ => true) (fun now action => action.Anchors 0 now.store) actions := by
    decide +kernel
  have along' : start.Along (fun _ => true) (fun now action => action.Anchors 0 now.store) others := by
    decide +kernel
  have cuts : ∀ position, position ∈ Mark.cuts (start.collect (fun _ => true) marks actions) ↔
      position ∈ Mark.cuts (start.collect (fun _ => true) marks others) := by
    intro position
    rw [seen, seen']
    exact (List.Perm.swap 2 4 []).mem_iff
  obtain ⟨rendered, walked⟩ := runs_agree_of_calls blank blank rfl along along' same
  obtain ⟨text, first, second⟩ := rendered "abcdef" (by decide)
  have shown : now.render 0 0 "abcdef" = .ok "abbacd(ef>" := by decide +kernel
  cases shown.symm.trans first
  obtain ⟨passed, passed', stops, stops', alike⟩ := walked cuts
  have trailed : passed = (now.trail 0 0).items := congrArg Delivery.items (Walk.drains_iff.mp stops)
  have trailed' : passed' = (now'.trail 0 0).items :=
    congrArg Delivery.items (Walk.drains_iff.mp stops')
  refine ⟨blank, along, along', same, shown, second, passed, passed', stops, stops', ?_, ?_, alike⟩
  · rw [trailed]
    decide +kernel
  · rw [trailed']
    decide +kernel

end Workspace

end Patchwork
