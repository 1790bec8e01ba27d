import Patchwork.Proofs.Life
import Patchwork.Proofs.Tiling

/-! # Walks through an arena that is being divided

A walk reads the link of the piece it gave out last when it is asked to go on, and compares
what it has given out with the size the arena has then. While pieces are divided, pushed,
decorated and edited around it, the chain from its head only grows: it is always what lies
behind the walk and what lies ahead of it. A new right half comes to lie ahead exactly if its
left half does or was given out last, and the walk never has given out more than lies behind.
So it gives out the old chain in order and those halves, each once, and stops.
-/
namespace Patchwork

namespace Store

variable {before after store : Store} {arena : Nat}

/-- Slots keep their pieces and pieces their links, whatever is added. -/
structure Grown (before after : Store) (arena : Nat) : Prop where
  slot : ∀ {index piece}, before.slot? arena index = some piece →
    after.slot? arena index = some piece
  link : ∀ {piece}, piece < before.pieces.size →
    (after.stored piece).next = (before.stored piece).next
  slotsKnown : before.SlotsKnown arena → after.SlotsKnown arena

namespace Grown

theorem refl (store : Store) (arena : Nat) : Grown store store arena := ⟨id, fun _ => rfl, id⟩

theorem openArena (store : Store) (arena : Nat) : Grown store store.addArena arena where
  slot := by simp [slot?]
  link := fun _ => rfl
  slotsKnown := by
    intro slots piece held
    rw [arena_addArena] at held
    exact slots piece held

theorem create (store : Store) (view : PieceView) (arena : Nat) :
    Grown store (store.addPiece view) arena where
  slot := id
  link := by
    intro piece known
    rw [stored_addPiece, if_neg (Nat.ne_of_lt known)]
  slotsKnown := by
    intro slots piece held
    have known := slots piece held
    simp only [addPiece, Array.size_push]
    omega

theorem setPiece {id : Nat} {piece : StoredPiece} (next : piece.next = (store.stored id).next)
    (arena : Nat) : Grown store (store.setPiece id piece) arena where
  slot := fun found => found
  link := fun _ => stored_setPiece_keeps Piece.next next _
  slotsKnown := by
    intro slots piece held
    rw [size_pieces_setPiece]
    exact slots piece held

theorem push {target piece : Nat} (known : piece < store.pieces.size) (arena : Nat) :
    Grown store (store.appendSlot target piece) arena := by
  by_cases there : target < store.arenas.size ∧ target = arena
  · obtain ⟨there, rfl⟩ := there
    have pushed : (store.appendSlot target piece).arena target = (store.arena target).push piece := by
      rw [arena_appendSlot there, if_pos rfl]
    refine ⟨slot?_of_push pushed, fun _ => rfl, fun slots held among => ?_⟩
    rw [pushed] at among
    rcases Array.mem_push.mp among with old | rfl
    · exact slots held old
    · exact known
  · have same : (store.appendSlot target piece).arena arena = store.arena arena := by
      by_cases found : target < store.arenas.size
      · rw [arena_appendSlot found, if_neg fun here => there ⟨found, here⟩]
      · exact arena_appendSlot_of_unknown found arena
    refine ⟨fun found => ?_, fun _ => rfl, fun slots held among => slots held (same ▸ among)⟩
    simpa [slot?, same] using found

theorem chain (grown : Grown before after arena) (slots : before.SlotsKnown arena)
    {start last : Option Int} {passed : List (Nat × Nat)}
    (path : Chain before arena start passed last) : Chain after arena start passed last := by
  induction path with
  | here => exact .here _
  | step found _ ih =>
    rw [← grown.link (slots _ (mem_arena_of_slot? found))] at ih
    exact .step (grown.slot found) ih

end Grown

theorem SameOutline.grown (same : SameOutline before after) (arena : Nat) :
    Grown before after arena where
  slot := by simp [slot?, same.arenas]
  link := fun _ => same.links _
  slotsKnown := same.slotsKnown

end Store

namespace Walk

/-- The pieces of the chain, by the links as they are, from the one a walk gave out last on. -/
def fromLatest (walk : Walk) (store : Store) : List Nat :=
  let pieces := (store.trail walk.arena walk.head).items.map Prod.snd
  match walk.place with
  | .start => pieces
  | .after last => pieces.dropWhile (· != last)
  | .closed => []

variable {store after : Store} {walk : Walk} {behind ahead : List (Nat × Nat)}

/-- A walk that has not ended, on a chain of which it has passed one part and not the other. -/
structure Underway (store : Store) (walk : Walk) (behind ahead : List (Nat × Nat)) : Prop where
  chain : Store.Chain store walk.arena (some walk.head) (behind ++ ahead) none
  count : walk.yielded ≤ behind.length
  place : walk.place = .start ∧ behind = [] ∨
    ∃ passed slot piece, walk.place = .after piece ∧ behind = passed ++ [(slot, piece)]

namespace Underway

theorem start {arena : Nat} {head : Int} {passed : List (Nat × Nat)}
    (ends : Store.Chain store arena (some head) passed none) :
    Underway store { arena, head } [] passed := ⟨ends, Nat.le_refl 0, .inl ⟨rfl, rfl⟩⟩

theorem onward (underway : Underway store walk behind ahead) :
    Store.Chain store walk.arena (walk.pending store) ahead none := by
  have whole := underway.chain
  rcases underway.place with ⟨place, rfl⟩ | ⟨passed, slot, piece, place, rfl⟩
  · simpa [pending, place] using whole
  · rw [List.append_assoc] at whole
    obtain ⟨_, _, rest⟩ := whole.of_append
    cases rest with
    | step _ rest => simpa [pending, place] using rest

theorem next_nil (underway : Underway store walk behind []) :
    walk.next store = (.stop, walk.close) := by
  have onward := underway.onward
  cases pending : walk.pending store with
  | none => exact next_of_none pending
  | some index =>
    rw [pending] at onward
    cases onward

theorem next_cons {step : Nat × Nat} (underway : Underway store walk behind (step :: ahead)) :
    walk.next store =
      (.item step, { walk with yielded := walk.yielded + 1, place := .after step.2 }) := by
  have onward := underway.onward
  have fits := underway.chain.length_le Store.halts_none
  have count := underway.count
  simp only [List.length_append, List.length_cons] at fits
  cases pending : walk.pending store with
  | none =>
    rw [pending] at onward
    cases onward
  | some index =>
    rw [pending] at onward
    cases onward with
    | step found _ => exact next_of_room pending (Store.get_eq_ok_iff.mpr found) (by omega)

theorem item {step : Nat × Nat} (underway : Underway store walk behind (step :: ahead)) :
    Underway store { walk with yielded := walk.yielded + 1, place := .after step.2 }
      (behind ++ [step]) ahead where
  chain := by
    rw [List.append_assoc]
    exact underway.chain
  count := by
    have count := underway.count
    simp only [List.length_append, List.length_singleton]
    omega
  place := .inr ⟨behind, step.1, step.2, rfl, rfl⟩

theorem latest_apart (underway : Underway store walk behind ahead) {piece : Nat}
    (here : walk.place = .after piece) : ∃ passed slot, behind = passed ++ [(slot, piece)] ∧
      ∀ step ∈ passed ++ ahead, step.2 ≠ piece := by
  rcases underway.place with ⟨place, _⟩ | ⟨passed, slot, last, place, rfl⟩
  · cases here.symm.trans place
  cases here.symm.trans place
  have once := underway.chain.nodup_pieces Store.halts_none
  simp only [List.map_append, List.map_cons, List.append_assoc, List.cons_append,
    List.nil_append] at once
  have fresh := (List.nodup_cons.mp (List.nodup_middle.mp once)).1
  refine ⟨passed, slot, rfl, fun step among same => fresh ?_⟩
  rw [← List.map_append]
  exact List.mem_map.mpr ⟨step, among, same⟩

theorem grown (underway : Underway store walk behind ahead)
    (grown : Store.Grown store after walk.arena) (slots : store.SlotsKnown walk.arena) :
    Underway after walk behind ahead :=
  ⟨grown.chain slots underway.chain, underway.count, underway.place⟩

section Divided

variable {piece position : Nat}

theorem divided_elsewhere (underway : Underway store walk behind ahead)
    (slots : store.SlotsKnown walk.arena)
    (divided : Store.Divided store after walk.arena piece position)
    (elsewhere : walk.place ≠ .after piece) :
    Underway after walk (behind.flatMap (store.widen walk.arena piece))
      (ahead.flatMap (store.widen walk.arena piece)) where
  chain := by
    rw [← List.flatMap_append]
    exact divided.chain slots underway.chain
  count := Nat.le_trans underway.count
    (Store.sublist_flatMap_widen store walk.arena piece behind).length_le
  place := by
    rcases underway.place with ⟨place, rfl⟩ | ⟨passed, slot, last, place, rfl⟩
    · exact .inl ⟨place, rfl⟩
    · have apart : last ≠ piece := fun same => elsewhere (same ▸ place)
      refine .inr ⟨passed.flatMap (store.widen walk.arena piece), slot, last, place, ?_⟩
      simp [Store.widen, apart]

theorem divided_here (underway : Underway store walk behind ahead)
    (slots : store.SlotsKnown walk.arena)
    (divided : Store.Divided store after walk.arena piece position)
    (here : walk.place = .after piece) :
    Underway after walk behind
      (((store.arena walk.arena).size, store.pieces.size) :: ahead) := by
  obtain ⟨passed, slot, rfl, apart⟩ := underway.latest_apart here
  have grown := divided.chain slots underway.chain
  simp only [List.flatMap_append, List.flatMap_cons, List.flatMap_nil, List.append_nil,
    Store.flatMap_widen_of_forall_ne fun step among => apart step (List.mem_append_left _ among),
    Store.flatMap_widen_of_forall_ne fun step among => apart step (List.mem_append_right _ among),
    Store.widen, if_true] at grown
  refine ⟨?_, underway.count, .inr ⟨passed, slot, piece, here, rfl⟩⟩
  simpa using grown

end Divided

end Underway

theorem Underway.mem_fromLatest_iff (underway : Underway store walk behind ahead) {piece : Nat} :
    piece ∈ walk.fromLatest store ↔ walk.place = .after piece ∨ piece ∈ ahead.map Prod.snd := by
  have trailed := congrArg Delivery.items (Store.trail_eq_stop_iff.mpr underway.chain)
  rcases underway.place with ⟨place, rfl⟩ | ⟨passed, slot, last, place, rfl⟩
  · simp [fromLatest, place, trailed]
  · have once := underway.chain.nodup_pieces Store.halts_none
    simp only [List.map_append, List.map_cons, List.append_assoc, List.cons_append,
      List.nil_append] at once
    have fresh := (List.nodup_cons.mp (List.nodup_middle.mp once)).1
    have before : ∀ piece ∈ passed.map Prod.snd, (piece != last) = true := by
      intro piece among
      rw [bne_iff_ne]
      rintro rfl
      exact fresh (List.mem_append_left _ among)
    simp [fromLatest, place, trailed, List.dropWhile_append_of_pos before, eq_comm]

/-- A walk with what it has answered so far, the slots of the chain it began on and those of
right halves that came to lie ahead of it. -/
inductive Roams (store : Store) (walk : Walk) (first : List Nat) (answers : List (Pull Item))
    (halves : List Nat) : Prop
  | going {behind ahead : List (Nat × Nat)} (underway : Underway store walk behind ahead)
      (given : (Pull.slots answers).Sublist (behind.map Prod.fst))
      (kept : first.Sublist (Pull.slots answers ++ ahead.map Prod.fst))
      (all : ∀ slot, slot ∈ Pull.slots answers ++ ahead.map Prod.fst ↔
        slot ∈ first ∨ slot ∈ halves)
      (items : ∀ answer ∈ answers, answer.slot?.isSome)
      (latest : match walk.place with
        | .after piece => ∃ slot, (Pull.slots answers).getLast? = some slot ∧
            store.slot? walk.arena slot = some piece
        | _ => answers = [])
  | ended (closed : walk.place = .closed) (once : (Pull.slots answers).Nodup)
      (kept : first.Sublist (Pull.slots answers))
      (all : ∀ slot, slot ∈ Pull.slots answers ↔ slot ∈ first ∨ slot ∈ halves)
      (items : ∀ answer ∈ answers, answer = .stop ∨ answer.slot?.isSome)
      (stopped : .stop ∈ answers)

namespace Roams

variable {first halves : List Nat} {answers : List (Pull Item)}

theorem start {arena : Nat} {head : Int} {passed : List (Nat × Nat)}
    (ends : Store.Chain store arena (some head) passed none) :
    Roams store { arena, head } (passed.map Prod.fst) [] [] :=
  .going (.start ends) (List.Sublist.refl []) (List.Sublist.refl _) (by simp) (by simp) rfl

theorem asked (roams : Roams store walk first answers halves) :
    Roams store (walk.next store).2 first
      (answers ++ [(walk.next store).1.map fun step => .slot step.1 (store.stored step.2).span])
      halves := by
  cases roams with
  | @going behind ahead underway given kept all items latest =>
    cases ahead with
    | nil =>
      have once : (Pull.slots answers).Nodup := by
        apply given.nodup
        simpa using underway.chain.nodup_slots Store.halts_none
      simp only [underway.next_nil, Pull.map]
      refine .ended rfl ?_ ?_ ?_ ?_ ?_
      · simpa using once
      · simpa using kept
      · simpa using all
      · simp only [List.mem_append, List.mem_singleton]
        rintro answer (old | rfl)
        · exact .inr (items answer old)
        · exact .inl rfl
      · simp
    | cons step ahead =>
      have onward := underway.onward
      simp only [underway.next_cons, Pull.map]
      refine .going underway.item ?_ ?_ ?_ ?_ ?_
      · simpa using given
      · simpa using kept
      · simpa using all
      · simp only [List.mem_append, List.mem_singleton]
        rintro answer (old | rfl)
        · exact items answer old
        · rfl
      · have found := underway.item.chain.slot_of_mem (show step ∈ behind ++ [step] ++ ahead by simp)
        exact ⟨step.1, by simp, by rwa [Store.slot?_natCast]⟩
  | ended closed once kept all items stopped =>
    have stops : walk.next store = (.stop, walk.close) := next_of_none (by simp [pending, closed])
    simp only [stops, Pull.map]
    refine .ended rfl ?_ ?_ ?_ ?_ ?_
    · simpa using once
    · simpa using kept
    · simpa using all
    · simp only [List.mem_append, List.mem_singleton]
      rintro answer (old | rfl)
      · exact items answer old
      · exact .inl rfl
    · simp

theorem grown (roams : Roams store walk first answers halves)
    (grown : Store.Grown store after walk.arena) (slots : store.SlotsKnown walk.arena) :
    Roams after walk first answers halves := by
  cases roams with
  | going underway given kept all items latest =>
    refine .going (underway.grown grown slots) given kept all items ?_
    split at latest
    · obtain ⟨slot, last, found⟩ := latest
      exact ⟨slot, last, grown.slot found⟩
    · exact latest
  | ended closed once kept all items stopped => exact .ended closed once kept all items stopped

/-- A right half comes to lie ahead if its left half does or was given out last. -/
theorem divided {piece position : Nat} (roams : Roams store walk first answers halves)
    (slots : store.SlotsKnown walk.arena)
    (divided : Store.Divided store after walk.arena piece position) :
    Roams after walk first answers (halves ++
      if piece ∈ walk.fromLatest store then [(store.arena walk.arena).size] else []) := by
  cases roams with
  | @going behind ahead underway given kept all items latest =>
    have latest : match walk.place with
        | .after piece => ∃ slot, (Pull.slots answers).getLast? = some slot ∧
            after.slot? walk.arena slot = some piece
        | _ => answers = [] := by
      split at latest
      · obtain ⟨slot, last, found⟩ := latest
        exact ⟨slot, last, divided.slot?_of_slot? found⟩
      · exact latest
    by_cases here : walk.place = .after piece
    · rw [if_pos (underway.mem_fromLatest_iff.mpr (.inl here))]
      refine .going (underway.divided_here slots divided here) given ?_ ?_ items latest
      · exact kept.trans ((List.Sublist.refl _).append (List.sublist_cons_self _ _))
      · intro slot
        have before := all slot
        simp only [List.mem_append, List.map_cons, List.mem_cons, List.not_mem_nil] at before ⊢
        grind
    · have widened := underway.divided_elsewhere slots divided here
      have reached : piece ∈ walk.fromLatest store ↔ piece ∈ ahead.map Prod.snd :=
        underway.mem_fromLatest_iff.trans (or_iff_right here)
      refine .going widened ?_ ?_ ?_ items latest
      · exact given.trans ((Store.sublist_flatMap_widen _ _ _ _).map Prod.fst)
      · exact kept.trans ((List.Sublist.refl _).append
          ((Store.sublist_flatMap_widen _ _ _ _).map Prod.fst))
      · intro slot
        have before := all slot
        simp only [List.mem_append, Store.mem_slots_flatMap_widen, reached] at before ⊢
        grind
  | ended closed once kept all items stopped =>
    rw [if_neg (by simp [fromLatest, closed]), List.append_nil]
    exact .ended closed once kept all items stopped

theorem nodup (roams : Roams store walk first answers halves) : (Pull.slots answers).Nodup := by
  cases roams with
  | going underway given =>
    apply given.nodup
    have once := underway.chain.nodup_slots Store.halts_none
    rw [List.map_append] at once
    exact once.of_append_left
  | ended closed once => exact once

theorem not_mem_fault (roams : Roams store walk first answers halves) (reason : Fault) :
    .fault reason ∉ answers := by
  intro failed
  cases roams with
  | going underway given kept all items latest => exact Bool.false_ne_true (items _ failed)
  | ended closed once kept all items stopped =>
    rcases items _ failed with other | gives
    · cases other
    · exact Bool.false_ne_true gives

theorem stop_mem (roams : Roams store walk first answers halves)
    (many : first.length + halves.length < answers.length) : .stop ∈ answers := by
  cases roams with
  | @going behind ahead underway given kept all items latest =>
    have once := underway.chain.nodup_slots Store.halts_none
    rw [List.map_append] at once
    have due : (Pull.slots answers ++ ahead.map Prod.fst).Nodup :=
      (given.append (List.Sublist.refl _)).nodup once
    have among : Pull.slots answers ++ ahead.map Prod.fst ⊆ first ++ halves :=
      fun slot given => List.mem_append.mpr ((all slot).mp given)
    have bound := due.length_le_of_subset among
    have full : (Pull.slots answers).length = answers.length :=
      List.filterMap_length_eq_length.mpr items
    simp only [List.length_append] at bound
    omega
  | ended closed once kept all items stopped => exact stopped

theorem of_stop_mem (roams : Roams store walk first answers halves) (stopped : .stop ∈ answers) :
    first.Sublist (Pull.slots answers) ∧
      ∀ slot, slot ∈ Pull.slots answers ↔ slot ∈ first ∨ slot ∈ halves := by
  cases roams with
  | going underway given kept all items latest => exact absurd (items _ stopped) (by decide)
  | ended closed once kept all items _ => exact ⟨kept, all⟩

theorem latest (roams : Roams store walk first answers halves) :
    match walk.place with
    | .start => answers = []
    | .after piece => .stop ∉ answers ∧ ∃ slot, (Pull.slots answers).getLast? = some slot ∧
        store.slot? walk.arena slot = some piece
    | .closed => .stop ∈ answers := by
  cases roams with
  | going underway given kept all items latest =>
    rcases underway.place with ⟨place, _⟩ | ⟨passed, slot, piece, place, _⟩
    · simpa [place] using latest
    · rw [place] at latest ⊢
      exact ⟨fun stopped => absurd (items _ stopped) (by decide), latest⟩
  | ended closed once kept all items stopped => simpa [closed] using stopped

end Roams

@[simp] theorem arena_next (walk : Walk) (store : Store) :
    (walk.next store).2.arena = walk.arena := by
  unfold next
  split
  · rfl
  · split
    · rfl
    · split <;> rfl

end Walk

theorem Cursor.next_walk (store : Store) (walk : Walk) :
    Cursor.next store (.walk walk) =
      ((walk.next store).1.map fun step => .slot step.1 (store.stored step.2).span,
        .walk (walk.next store).2) := rfl

def Cursor.OwesSlots (store : Store) (cursor : Cursor) (count : Nat) : Prop :=
  ∃ walk, cursor = .walk walk ∧
    ∃ behind ahead, Walk.Underway store walk behind ahead ∧ ahead.length = count

theorem Cursor.stop_mem_pull_walk {store : Store} {walk : Walk} {first halves : List Nat}
    {answers : List (Pull Item)} (roams : Walk.Roams store walk first answers halves) :
    ∃ count, .stop ∈ (Cursor.pull store count (.walk walk)).1.answers := by
  cases roams with
  | @going behind ahead underway given kept all items latest =>
    refine ⟨ahead.length + 1, Cursor.stop_mem_pull (OwesSlots store) ?_ ?_
      ⟨walk, rfl, behind, ahead, underway, rfl⟩⟩
    · rintro _ ⟨walk, rfl, behind, ahead, underway, none⟩
      cases List.eq_nil_of_length_eq_zero none
      rw [Cursor.next_walk, underway.next_nil]
      rfl
    · rintro _ count ⟨walk, rfl, behind, ahead, underway, due⟩
      obtain ⟨step, ahead, rfl⟩ := List.exists_cons_of_length_eq_add_one due
      rw [Cursor.next_walk, underway.next_cons]
      exact ⟨_, _, rfl, _, rfl, _, ahead, underway.item, Nat.succ.inj due⟩
  | ended closed once kept all items stopped =>
    have stops : walk.next store = (.stop, walk.close) :=
      Walk.next_of_none (by simp [Walk.pending, closed])
    refine ⟨1, ?_⟩
    rw [Cursor.answers_pull_one, Cursor.next_walk, stops]
    exact List.mem_singleton_self _

/-- What may happen around a walk through an arena: anything but a link set by hand, a division
that bypasses the slots of the arena, and a push of what is no piece. -/
def Action.SparesLinks (arena : Nat) (store : Store) : Action → Prop
  | .setNext .. | .divide .. => False
  | .push _ piece => piece < store.pieces.size
  | .divideSlot target _ _ => target = arena
  | _ => True

instance (arena : Nat) (store : Store) :
    (action : Action) → Decidable (action.SparesLinks arena store)
  | .setNext .. | .divide .. => .isFalse id
  | .push _ piece => inferInstanceAs (Decidable (piece < store.pieces.size))
  | .divideSlot target _ _ => inferInstanceAs (Decidable (target = arena))
  | .setCap _ | .ask _ | .openArena | .create _ | .decorate .. | .edit .. | .setStoreName ..
  | .setSpan .. | .setEdited .. | .openWalk .. | .openListing _ | .openParts .. | .openOutput ..
  | .pull .. => .isTrue trivial

namespace Workspace

variable {printable : Char → Bool} {workspace : Workspace} {id arena : Nat} {head : Int}
  {passed : List (Nat × Nat)}

/-- The slot of a right half whose left half a walk gave out last or has before it. -/
def halfAhead (id : Nat) (workspace : Workspace) : Action → List Nat
  | .divideSlot arena index offset =>
    match workspace.cursors[id]?, workspace.store.slot? arena index,
      (workspace.store.divideSlot workspace.cap arena index offset).result with
    | some (.walk walk), some piece, .ok slot =>
      if piece ∈ walk.fromLatest workspace.store then [slot] else []
    | _, _, _ => []
  | _ => []

theorem grown_perform {action : Action} (only : action.SparesLinks arena workspace.store)
    (undivided : ∀ target index offset, action ≠ .divideSlot target index offset) :
    Store.Grown workspace.store (workspace.perform printable action).workspace.store arena := by
  rw [store_perform]
  cases action with
  | setNext | divide => exact only.elim
  | divideSlot target index offset => exact absurd rfl (undivided target index offset)
  | push target piece => exact .push only arena
  | create view => exact .create _ view arena
  | openArena => exact .openArena _ arena
  | decorate piece side place content =>
    exact (Store.SameOutline.decorate _ _ piece side place content).grown arena
  | edit piece content policy => exact (Store.SameOutline.edit _ _ piece content policy).grown arena
  | setStoreName piece storeName => exact .setPiece (by rfl) arena
  | setSpan piece span => exact .setPiece (by rfl) arena
  | setEdited piece content =>
    cases content with
    | none => exact .setPiece (by rfl) arena
    | some content =>
      dsimp only
      split
      · exact .setPiece (by rfl) arena
      · exact .refl _ arena
  | _ => exact .refl _ arena

def Walking (arena : Nat) (first : List Nat) (store : Store) (cursor : Cursor)
    (answers : List (Pull Item)) (halves : List Nat) : Prop :=
  ∃ walk, cursor = .walk walk ∧ walk.arena = arena ∧ store.SlotsKnown arena ∧
    Walk.Roams store walk first answers halves

theorem walking_next {store : Store} {cursor : Cursor} {first halves : List Nat}
    {answers : List (Pull Item)} (walking : Walking arena first store cursor answers halves) :
    Walking arena first store (cursor.next store).2 (answers ++ [(cursor.next store).1]) halves := by
  obtain ⟨walk, rfl, there, slots, roams⟩ := walking
  exact ⟨_, rfl, (Walk.arena_next walk store).trans there, slots, roams.asked⟩

theorem walking_perform {cursor : Cursor} {first halves : List Nat} {answers : List (Pull Item)}
    {action : Action} (only : action.SparesLinks arena workspace.store)
    (held : workspace.cursors[id]? = some cursor)
    (walking : Walking arena first workspace.store cursor answers halves) :
    Walking arena first (workspace.perform printable action).workspace.store cursor answers
      (halves ++ halfAhead id workspace action) := by
  obtain ⟨walk, rfl, rfl, slots, roams⟩ := walking
  by_cases divides : ∃ target index offset, action = .divideSlot target index offset
  · obtain ⟨target, index, offset, rfl⟩ := divides
    cases only
    rw [store_perform]
    rcases Store.divideSlot_cases slots workspace.cap index offset with
      ⟨fault, refused⟩ | ⟨piece, position, found, rfl, accepted, divided⟩
    · have none_ahead : halfAhead id workspace (.divideSlot walk.arena index offset) = [] := by
        simp only [halfAhead, held, refused]
        split <;> simp_all
      rw [none_ahead, List.append_nil]
      simp only [refused]
      exact ⟨walk, rfl, rfl, slots, roams⟩
    · simp only [halfAhead, held, found, accepted]
      exact ⟨walk, rfl, rfl, divided.slotsKnown slots, roams.divided slots divided⟩
  · have undivided : halfAhead id workspace action = [] := by
      cases action with
      | divideSlot target index offset => exact absurd ⟨target, index, offset, rfl⟩ divides
      | _ => rfl
    have grown : Store.Grown workspace.store (workspace.perform printable action).workspace.store
        walk.arena := grown_perform only fun target index offset same =>
      divides ⟨target, index, offset, same⟩
    rw [undivided, List.append_nil]
    exact ⟨walk, rfl, rfl, grown.slotsKnown slots, roams.grown grown slots⟩

/-- However an arena is divided, pushed to, decorated and edited between the requests to a walk,
the walk never fails and never gives out a slot twice. It stops at the latest when it has given
out as many slots as the chain had at first and right halves came to lie ahead of it. Then it has
given out the slots of that chain, in their order, and those of these halves, and no other. -/
theorem walk_run_of_divisions (slots : workspace.store.SlotsKnown arena)
    (held : workspace.cursors[id]? = some (.walk { arena, head }))
    (ends : Store.Chain workspace.store arena (some head) passed none) {actions : List Action}
    (along : workspace.Along printable (fun now action => action.SparesLinks arena now.store)
      actions) :
    let answers := workspace.answers printable id actions
    let halves := workspace.collect printable (halfAhead id) actions
    (∀ reason, .fault reason ∉ answers) ∧
    (Pull.slots answers).Nodup ∧
    (passed.length + halves.length < answers.length → .stop ∈ answers) ∧
    (∃ count, .stop ∈ workspace.answers printable id (actions ++ [.pull id count])) ∧
    (.stop ∈ answers → (passed.map Prod.fst).Sublist (Pull.slots answers) ∧
      ∀ slot, slot ∈ Pull.slots answers ↔ slot ∈ passed.map Prod.fst ∨ slot ∈ halves) ∧
    ∃ walk, (workspace.run printable actions).cursors[id]? = some (.walk walk) ∧
      match walk.place with
      | .start => answers = []
      | .after piece => .stop ∉ answers ∧ ∃ slot, (Pull.slots answers).getLast? = some slot ∧
          (workspace.run printable actions).store.slot? arena slot = some piece
      | .closed => .stop ∈ answers := by
  intro answers halves
  obtain ⟨_, kept, walk, rfl, rfl, _, roams⟩ := life_keeps (Walking arena (passed.map Prod.fst))
    walking_next (fun _ only held walking => walking_perform only held walking) (fun _ _ => rfl)
    held ⟨_, rfl, rfl, slots, .start ends⟩ along
  simp only [List.nil_append] at roams
  refine ⟨roams.not_mem_fault, roams.nodup, fun many => roams.stop_mem (by simpa using many), ?_,
    roams.of_stop_mem, walk, kept, roams.latest⟩
  obtain ⟨count, stopped⟩ := Cursor.stop_mem_pull_walk roams
  refine ⟨count, ?_⟩
  rw [answers_append_pull kept]
  exact List.mem_append_right _ stopped

/-- Ten positions, divided before the first request, where the walk is, behind it and ahead of
it. Between these a decoration, an edit, a division it forbids, and a second slot for a piece. -/
theorem walk_run_of_divisions_of_ten :
    let start : Workspace :=
      { store := .document 10 (by decide), cursors := #[.walk { arena := 0, head := 0 }] }
    let actions : List Action := [.divideSlot 0 0 4, .pull 0 1, .divideSlot 0 0 2,
      .decorate 0 .outro .back (.plain ">"), .pull 0 1, .divideSlot 0 0 1, .divideSlot 0 1 7,
      .edit 1 (.plain "new") {}, .divideSlot 0 1 5, .push 0 0, .pull 0 9]
    start.store.SlotsKnown 0 ∧ Store.Chain start.store 0 (some 0) [(0, 0)] none ∧
    start.Along (fun _ => true) (fun now action => action.SparesLinks 0 now.store) actions ∧
    start.collect (fun _ => true) (halfAhead 0) actions = [1, 2, 4] ∧
    Pull.slots (start.answers (fun _ => true) 0 actions) = [0, 2, 1, 4] ∧
    ∀ slot, slot ∈ [0, 2, 1, 4] ↔ slot ∈ [0] ∨ slot ∈ [1, 2, 4] := by
  intro start actions
  have whole := Store.whole_document 10 (by decide)
  have along : start.Along (fun _ => true) (fun now action => action.SparesLinks 0 now.store)
      actions := by decide +kernel
  have halves : start.collect (fun _ => true) (halfAhead 0) actions = [1, 2, 4] := by
    decide +kernel
  have given : Pull.slots (start.answers (fun _ => true) 0 actions) = [0, 2, 1, 4] := by
    decide +kernel
  have held : start.cursors[0]? = some (.walk { arena := 0, head := 0 }) := rfl
  have met := walk_run_of_divisions whole.slotsKnown held whole.tiled.chain along
  have stopped := met.2.2.1 (by decide +kernel)
  refine ⟨whole.slotsKnown, whole.tiled.chain, along, halves, given, ?_⟩
  rw [← halves, ← given]
  exact (met.2.2.2.2.1 stopped).2

end Workspace

end Patchwork
