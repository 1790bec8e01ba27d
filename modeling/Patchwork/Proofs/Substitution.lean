import Patchwork.Proofs.Substitution.Text

/-! # Replacing spans of a document

To replace a span, its start is located by walking the arena, which divides the piece around
it if no piece starts there; its stop is located in the same way; then the piece between is
edited. Replacements that do not overlap can be made in any order: none is refused, and the
document is rendered as the source with every span replaced.

What holds between two replacements: the document is a tiling without decorations, an edited
piece shows exactly one span that was replaced, an unedited one no part of any, and no piece
ends inside a span that is still to be replaced. So no cut ever falls into an edited piece.
-/
namespace Patchwork

def Outcome.accepted? {α : Type} (outcome : Outcome α) : Option (α × Store) :=
  outcome.result.toOption.map fun value => (value, outcome.store)

theorem Outcome.accepted?_of_ok {α : Type} {outcome : Outcome α} {value : α}
    (ok : outcome.result = .ok value) : outcome.accepted? = some (value, outcome.store) := by
  simp [accepted?, ok, Except.toOption]

namespace Store

def meets (store : Store) (offset : Nat) (step : Nat × Nat) : Bool :=
  (store.piece step.2).span.start == offset || (store.piece step.2).contains offset

/-- The slot of the piece that starts at an offset, on a walk from slot 0. A piece that has the
offset inside is divided there first. -/
def locate (cap : Int) (arena offset : Nat) (store : Store) : Option (Nat × Store) :=
  match (store.trail arena 0).items.find? (store.meets offset) with
  | none => none
  | some (slot, piece) =>
    if (store.piece piece).span.start = offset then some (slot, store)
    else (store.divideSlot cap arena slot offset).accepted?

/-- An offset is located, unless the piece in a slot ends there already. -/
def locateStop (cap : Int) (arena slot offset : Nat) (store : Store) : Option Store := do
  let piece ← store.slot? arena slot
  if (store.piece piece).span.stop = offset then some store
  else (store.locate cap arena offset).map Prod.snd

def replace (cap : Int) (arena : Nat) (store : Store) (replacement : Replacement) :
    Option Store := do
  let (slot, opened) ← store.locate cap arena replacement.span.start
  let closed ← opened.locateStop cap arena slot replacement.span.stop
  let piece ← closed.slot? arena slot
  let (_, edited) ←
    (closed.edit cap piece replacement.content replacement.policy).accepted?
  some edited

def replaceAll (cap : Int) (arena : Nat) (store : Store) (replacements : List Replacement) :
    Option Store :=
  replacements.foldlM (replace cap arena) store

end Store

/-- What holds of a piece between two replacements. -/
structure Settled (finished pending : List Replacement) (piece : PieceView) : Prop where
  bare : piece.intro = [] ∧ piece.outro = []
  replaced : ∀ fragment, piece.edited = some fragment → ∃ replacement ∈ finished,
    replacement.span = piece.span ∧ replacement.content.text = fragment.text
  plain : piece.edited = none → ∀ replacement ∈ finished, replacement.span.Apart piece.span
  uncut : ∀ replacement ∈ pending, ¬replacement.span.Inside piece.span.stop

namespace Settled

variable {finished pending : List Replacement} {replacement : Replacement} {piece : PieceView}

theorem halves (settled : Settled finished pending piece) (fresh : piece.edited = none)
    {position : Nat} (inside : piece.span.start < position ∧ position < piece.span.stop)
    (clear : ∀ replacement ∈ pending, ¬replacement.span.Inside position) (next : Option Int) :
    Settled finished pending { (piece.halves position inside [] []).1 with next } ∧
      Settled finished pending (piece.halves position inside [] []).2 := by
  have apart := settled.plain fresh
  constructor
  · refine ⟨⟨settled.bare.1, rfl⟩, fun fragment changed => ?_, fun _ replacement among => ?_, clear⟩
    · cases fresh.symm.trans changed
    · have free := apart replacement among
      simp only [Span.Apart, Piece.halves] at free ⊢
      omega
  · refine ⟨⟨rfl, settled.bare.2⟩, fun fragment changed => ?_, fun _ replacement among => ?_,
      settled.uncut⟩
    · cases changed
    · have free := apart replacement among
      simp only [Span.Apart, Piece.halves] at free ⊢
      omega

theorem edit (settled : Settled finished (replacement :: pending) piece)
    (same : piece.span = replacement.span) {fragment : Fragment}
    (text : fragment.text = replacement.content.text) (overwrite storeName : Bool) :
    Settled (finished ++ [replacement]) pending
      { piece with
        edited := some fragment
        intro := if overwrite then [] else piece.intro
        outro := if overwrite then [] else piece.outro
        storeName } where
  bare := by
    simp [settled.bare]
  replaced := by
    rintro _ ⟨⟩
    exact ⟨replacement, List.mem_append_right _ List.mem_cons_self, same.symm, text.symm⟩
  plain := nofun
  uncut := fun other among => settled.uncut other (List.mem_cons_of_mem _ among)

theorem grow (settled : Settled finished (replacement :: pending) piece)
    (apart : replacement.span.Apart piece.span) :
    Settled (finished ++ [replacement]) pending piece where
  bare := settled.bare
  replaced := by
    intro fragment changed
    obtain ⟨made, among, shown⟩ := settled.replaced fragment changed
    exact ⟨made, List.mem_append_left _ among, shown⟩
  plain := by
    intro fresh made among
    rcases List.mem_append.mp among with old | new
    · exact settled.plain fresh made old
    · rw [List.mem_singleton.mp new]
      exact apart
  uncut := fun other among => settled.uncut other (List.mem_cons_of_mem _ among)

/-- Only a piece that is not edited has a position inside that no replacement has inside. -/
theorem fresh (settled : Settled finished pending piece) {position : Nat}
    (inside : piece.span.start < position ∧ position < piece.span.stop)
    (clear : ∀ replacement ∈ finished, ¬replacement.span.Inside position) : piece.edited = none := by
  cases changed : piece.edited with
  | none => rfl
  | some fragment =>
    obtain ⟨made, among, same, _⟩ := settled.replaced fragment changed
    refine absurd ?_ (clear made among)
    rw [same, Span.Inside]
    omega

theorem block_eq (settled : Settled finished pending piece) {replacements : List Replacement}
    (separate : Separate replacements) (made : ∀ {other}, other ∈ finished ↔ other ∈ replacements)
    (source : String) : piece.block source = substitutedOver replacements source piece.span := by
  have shown : piece.shown source = substitutedOver replacements source piece.span := by
    cases changed : piece.edited with
    | none =>
      rw [substitutedOver_of_apart fun other among => settled.plain changed other (made.mpr among)]
      simp [Piece.shown, changed]
    | some fragment =>
      obtain ⟨other, among, same, text⟩ := settled.replaced fragment changed
      rw [← same, substitutedOver_of_mem separate (made.mp among), text]
      simp [Piece.shown, changed]
  simp [Piece.block, settled.bare, shown]

end Settled

namespace Store

variable {store : Store} {cap : Int} {arena length : Nat} {finished pending : List Replacement}
  {passed : List (Nat × Nat)}

structure Progress (store : Store) (arena length : Nat) (finished pending : List Replacement)
    (passed : List (Nat × Nat)) : Prop where
  sound : store.WellFormed
  tiled : Tiled store arena length passed
  settled : ∀ step ∈ passed, Settled finished pending (store.piece step.2)

/-- Slots keep their pieces, and pieces their starts. -/
def Keeps (before after : Store) (passed passed' : List (Nat × Nat)) : Prop :=
  ∀ step ∈ passed, step ∈ passed' ∧
    (after.piece step.2).span.start = (before.piece step.2).span.start

theorem meets_iff {position : Nat} {step : Nat × Nat} : store.meets position step = true ↔
    (store.piece step.2).span.start ≤ position ∧ position < (store.piece step.2).span.stop := by
  have order := (store.piece step.2).span.start_lt_stop
  rw [meets, Bool.or_eq_true, beq_iff_eq, Piece.contains_natCast]
  omega

theorem Tiled.find_meets (tiled : Tiled store arena length passed) {position : Nat}
    (within : position < length) : ∃ slot piece,
      (store.trail arena 0).items.find? (store.meets position) = some (slot, piece) ∧
        (slot, piece) ∈ passed ∧ (store.piece piece).span.start ≤ position ∧
          position < (store.piece piece).span.stop := by
  obtain ⟨span, among, covers⟩ := tiled.tiles.exists_covering (Nat.zero_le position) within
  obtain ⟨step, passing, rfl⟩ := List.mem_map.mp among
  have some := List.find?_isSome.mpr ⟨step, passing, meets_iff.mpr covers⟩
  obtain ⟨⟨slot, piece⟩, found⟩ := Option.isSome_iff_exists.mp some
  refine ⟨slot, piece, ?_, List.mem_of_find?_eq_some found, meets_iff.mp (List.find?_some found)⟩
  rw [trail_eq_stop_iff.mpr tiled.chain]
  exact found

namespace Divided

variable {after : Store} {piece position : Nat}

theorem keeps (divided : Divided store after arena piece position)
    (known : ∀ step ∈ passed, step.2 < store.pieces.size) :
    Keeps store after passed (passed.flatMap (store.widen arena piece)) := by
  intro step passing
  refine ⟨List.mem_flatMap.mpr ⟨step, passing, mem_widen_self⟩, ?_⟩
  by_cases same : step.2 = piece
  · rw [same, divided.left]
    rfl
  · rw [divided.other (known step passing) same]

end Divided

namespace Progress

theorem slots (progress : Progress store arena length finished pending passed) :
    store.SlotsKnown arena := fun _ held => progress.sound.slot_known arena held

theorem slot? (progress : Progress store arena length finished pending passed) {slot piece : Nat}
    (passing : (slot, piece) ∈ passed) : store.slot? arena slot = some piece := by
  rw [slot?_natCast]
  exact progress.tiled.chain.slot_of_mem passing

/-- A cut that no replacement to come has inside is no obstacle to any of them. -/
theorem divided (progress : Progress store arena length finished pending passed)
    {after : Store} {piece position : Nat} (sound : after.WellFormed)
    (divided : Divided store after arena piece position)
    (clear : ∀ replacement ∈ pending, ¬replacement.span.Inside position) :
    Progress after arena length finished pending (passed.flatMap (store.widen arena piece)) where
  sound := sound
  tiled := progress.tiled.divided progress.slots divided
  settled := by
    intro other passing
    rcases divided.mem_widen (progress.tiled.chain.known progress.slots) passing with
      ⟨half, step, among, rfl⟩ | ⟨among, same⟩
    · have halves := (progress.settled step among).halves divided.fresh divided.inside clear
        (some ((store.arena arena).size : Int))
      rcases half with left | right
      · rw [left, divided.left]
        exact halves.1
      · rw [right, divided.right]
        exact halves.2
    · rw [same]
      exact progress.settled other among

theorem locate (progress : Progress store arena length finished pending passed) {position : Nat}
    (fits : (length : Int) ≤ cap) (within : position < length)
    (clear : ∀ replacement ∈ finished ++ pending, ¬replacement.span.Inside position) :
    ∃ slot piece after passed', store.locate cap arena position = some (slot, after) ∧
      Progress after arena length finished pending passed' ∧ (slot, piece) ∈ passed' ∧
        (after.piece piece).span.start = position ∧ Keeps store after passed passed' := by
  obtain ⟨slot, piece, found, passing, low, high⟩ := progress.tiled.find_meets within
  by_cases starts : (store.piece piece).span.start = position
  · refine ⟨slot, piece, store, passed, ?_, progress, passing, starts, fun _ among => ⟨among, rfl⟩⟩
    simp only [Store.locate, found]
    exact if_pos starts
  · have inside : (store.piece piece).span.start < position ∧
        position < (store.piece piece).span.stop := by omega
    have fresh := (progress.settled _ passing).fresh inside fun replacement among =>
      clear replacement (List.mem_append_left _ among)
    have bound := progress.tiled.stop_le_length passing
    have admits := Int.le_trans (Int.ofNat_le.mpr bound) fits
    obtain ⟨accepted, divided⟩ :=
      divideSlot_of_inside progress.slots (progress.slot? passing) fresh inside admits
    have sound := progress.sound.divideSlot cap arena slot position
    refine ⟨(store.arena arena).size, store.pieces.size, _, _, ?_,
      progress.divided sound divided fun replacement among =>
        clear replacement (List.mem_append_right _ among),
      List.mem_flatMap.mpr ⟨_, passing, mem_widen_new rfl⟩, ?_,
      divided.keeps (progress.tiled.chain.known progress.slots)⟩
    · simp only [Store.locate, found]
      exact (if_neg starts).trans (Outcome.accepted?_of_ok accepted)
    · rw [divided.right]
      rfl

theorem edit {replacement : Replacement}
    (progress : Progress store arena length finished (replacement :: pending) passed)
    {slot piece : Nat} (passing : (slot, piece) ∈ passed)
    (same : (store.piece piece).span = replacement.span) {fragment : Fragment}
    (measured : replacement.content.toFragment cap = .ok fragment) :
    Progress (store.edit cap piece replacement.content replacement.policy).store arena length
      (finished ++ [replacement]) pending passed where
  sound := progress.sound.edit cap piece replacement.content replacement.policy
  tiled := (SameOutline.edit store cap piece replacement.content replacement.policy).tiled
    progress.tiled
  settled := by
    intro other passing'
    have known := progress.tiled.chain.known progress.slots
    have before := progress.settled other passing'
    rw [piece_edit progress.sound (known _ passing) (known other passing') measured]
    split
    · rename_i edited
      subst edited
      exact before.edit same (Content.text_of_toFragment measured) _ _
    · rename_i apart
      apply before.grow
      rw [← same]
      apply progress.tiled.apart passing passing'
      rintro rfl
      exact apart rfl

variable {replacement : Replacement}

theorem stop_le (progress : Progress store arena length finished (replacement :: pending) passed)
    {slot piece : Nat} (passing : (slot, piece) ∈ passed)
    (starts : (store.piece piece).span.start = replacement.span.start) :
    replacement.span.stop ≤ (store.piece piece).span.stop := by
  have uncut := (progress.settled _ passing).uncut replacement List.mem_cons_self
  have covers := (store.piece piece).span.start_lt_stop
  simp only [Span.Inside] at uncut
  omega

theorem locateStop (progress : Progress store arena length finished (replacement :: pending) passed)
    (separate : Separate (finished ++ replacement :: pending)) (fits : (length : Int) ≤ cap)
    {slot piece : Nat} (passing : (slot, piece) ∈ passed)
    (starts : (store.piece piece).span.start = replacement.span.start) :
    ∃ closed passed', store.locateStop cap arena slot replacement.span.stop = some closed ∧
      Progress closed arena length finished (replacement :: pending) passed' ∧
        (slot, piece) ∈ passed' ∧ (closed.piece piece).span = replacement.span := by
  have order := replacement.span.start_lt_stop
  have held := progress.slot? passing
  by_cases stops : (store.piece piece).span.stop = replacement.span.stop
  · refine ⟨store, passed, ?_, progress, passing, Span.ext starts stops⟩
    simp only [Store.locateStop, held]
    exact if_pos stops
  · have beyond := progress.stop_le passing starts
    have bound := progress.tiled.stop_le_length passing
    obtain ⟨slot', piece', closed, passed', located, progress', passing', starts', keeps⟩ :=
      progress.locate fits (show replacement.span.stop < length by omega) fun other among =>
        separate.not_inside_edge among (List.mem_append_right _ List.mem_cons_self) (.inr rfl)
    obtain ⟨kept, start⟩ := keeps _ passing
    have starts_still : (closed.piece piece).span.start = replacement.span.start :=
      start.trans starts
    -- The piece cannot go on past the start of the piece that was located.
    have different : (slot, piece) ≠ (slot', piece') := by
      rintro ⟨⟩
      omega
    have apart := progress'.tiled.apart kept passing' different
    have covers := (closed.piece piece').span.start_lt_stop
    have reaches := progress'.stop_le kept starts_still
    simp only [Span.Apart] at apart
    refine ⟨closed, passed', ?_, progress', kept, Span.ext starts_still (by omega)⟩
    simp only [Store.locateStop, held, located]
    exact if_neg stops

theorem replace (progress : Progress store arena length finished (replacement :: pending) passed)
    (separate : Separate (finished ++ replacement :: pending)) (fits : (length : Int) ≤ cap)
    (within : replacement.span.stop ≤ length) (short : replacement.content.text.length ≤ cap) :
    ∃ after passed', store.replace cap arena replacement = some after ∧
      Progress after arena length (finished ++ [replacement]) pending passed' := by
  have order := replacement.span.start_lt_stop
  obtain ⟨slot, piece, opened, _, located, progress, passing, starts, _⟩ :=
    progress.locate fits (show replacement.span.start < length by omega) fun other among =>
      separate.not_inside_edge among (List.mem_append_right _ List.mem_cons_self) (.inl rfl)
  obtain ⟨closed, passed', stopped, progress, passing, same⟩ :=
    progress.locateStop separate fits passing starts
  obtain ⟨fragment, measured⟩ := Content.exists_toFragment short
  have accepted : (closed.edit cap piece replacement.content replacement.policy).result = .ok () := by
    simp [Store.edit, measured]
  refine ⟨_, passed', ?_, progress.edit passing same measured⟩
  simp [Store.replace, located, stopped, progress.slot? passing, Outcome.accepted?_of_ok accepted]

theorem replaceAll (progress : Progress store arena length finished pending passed)
    (separate : Separate (finished ++ pending)) (fits : (length : Int) ≤ cap)
    (within : ∀ replacement ∈ pending, replacement.span.stop ≤ length)
    (short : ∀ replacement ∈ pending, replacement.content.text.length ≤ cap) :
    ∃ final passed', store.replaceAll cap arena pending = some final ∧
      Progress final arena length (finished ++ pending) [] passed' := by
  induction pending generalizing store finished passed with
  | nil => exact ⟨store, passed, rfl, by rwa [List.append_nil]⟩
  | cons replacement pending ih =>
    obtain ⟨inside, within⟩ := List.forall_mem_cons.mp within
    obtain ⟨admitted, short⟩ := List.forall_mem_cons.mp short
    obtain ⟨after, passed', made, progress⟩ := progress.replace separate fits inside admitted
    rw [List.append_cons] at separate ⊢
    obtain ⟨final, passed'', done, progress⟩ := ih progress separate within short
    refine ⟨final, passed'', ?_, progress⟩
    rw [Store.replaceAll, List.foldlM_cons, made]
    exact done

theorem render_eq (progress : Progress store arena length finished [] passed)
    {replacements : List Replacement} (separate : Separate replacements)
    (made : finished.Perm replacements) {source : String} (long : source.length = length) :
    store.render arena 0 source = .ok (substituted replacements source) := by
  have blocks : (passed.map fun step => (store.piece step.2).block source) =
      (passed.map fun step => (store.piece step.2).span).map
        (substitutedOver replacements source) := by
    rw [List.map_map]
    exact List.map_congr_left fun step passing =>
      (progress.settled step passing).block_eq separate made.mem_iff source
  rw [progress.tiled.render_eq (Nat.le_of_eq long.symm), blocks,
    progress.tiled.tiles.join_substitutedOver, substituted, long, Nat.sub_zero,
    List.range_eq_range']

end Progress

theorem Whole.progress {piece : Nat} (whole : Whole store arena piece length)
    (sound : store.WellFormed) (bare : (store.piece piece).intro = [] ∧ (store.piece piece).outro = [])
    (fresh : (store.piece piece).edited = none)
    (within : ∀ replacement ∈ pending, replacement.span.stop ≤ length) :
    Progress store arena length [] pending [(0, piece)] where
  sound := sound
  tiled := whole.tiled
  settled := by
    intro step passing
    rw [List.mem_singleton.mp passing]
    refine ⟨bare, fun fragment changed => ?_, nofun, fun replacement among inside => ?_⟩
    · cases fresh.symm.trans changed
    · have bound := within replacement among
      rw [whole.stop, Span.Inside] at inside
      omega

/-- Replacements that do not overlap can be made in any order and with any policies. None is
refused, and the rendered text is the source with every span replaced at once. -/
theorem render_replaceAll_of_perm {piece : Nat} (sound : store.WellFormed)
    (whole : Whole store arena piece length)
    (bare : (store.piece piece).intro = [] ∧ (store.piece piece).outro = [])
    (fresh : (store.piece piece).edited = none) (fits : (length : Int) ≤ cap)
    {replacements order : List Replacement} (separate : Separate replacements)
    (within : ∀ replacement ∈ replacements, replacement.span.stop ≤ length)
    (short : ∀ replacement ∈ replacements, replacement.content.text.length ≤ cap)
    (ordered : order.Perm replacements) {source : String} (long : source.length = length) :
    ∃ final, store.replaceAll cap arena order = some final ∧
      final.render arena 0 source = .ok (substituted replacements source) := by
  have unmade : Separate ([] ++ order) := separate.perm ordered.symm
  have started := whole.progress sound bare fresh fun replacement among =>
    within replacement (ordered.mem_iff.mp among)
  obtain ⟨final, passed, done, progress⟩ := started.replaceAll unmade fits
    (fun replacement among => within replacement (ordered.mem_iff.mp among))
    (fun replacement among => short replacement (ordered.mem_iff.mp among))
  exact ⟨final, done, progress.render_eq separate ordered long⟩

/-- Three spans that meet, from last to first: a view, a deletion, a text as long as the cap. -/
theorem render_replaceAll_of_perm_of_adjacent :
    let replacements : List Replacement :=
      [⟨⟨0, 2, by decide⟩, .plain "123456", {}⟩,
        ⟨⟨2, 4, by decide⟩, .plain "", { overwrite := false }⟩,
        ⟨⟨4, 5, by decide⟩, .wrapped (.borrowed "xyz" ⟨1, 3, by decide⟩ (by decide)),
          { storeName := true }⟩]
    Separate replacements ∧
      ∃ final, (document 6 (by decide)).replaceAll 6 0 replacements.reverse = some final ∧
        final.render 0 0 "abcdef" = .ok "123456yzf" := by
  intro replacements
  have separate : Separate replacements := by
    simp [replacements, Separate, Span.Apart]
  have within : ∀ replacement ∈ replacements, replacement.span.stop ≤ 6 := by
    simp [replacements]
  have short : ∀ replacement ∈ replacements, (replacement.content.text.length : Int) ≤ 6 := by
    simp only [replacements, List.forall_mem_cons]
    exact ⟨by decide, by decide, by decide, List.forall_mem_nil _⟩
  have text : substituted replacements "abcdef" = "123456yzf" := by rfl
  rw [← text]
  exact ⟨separate, render_replaceAll_of_perm (.document 6 (by decide)) (whole_document 6 (by decide))
    ⟨rfl, rfl⟩ rfl (Int.le_refl 6) separate within short replacements.reverse_perm rfl⟩

end Store

end Patchwork
