import Patchwork.Proofs.Division
import Patchwork.Proofs.Walk

/-! # Divisions among any links

Links may run in circles, dangle, or lead through several slots of one piece. A division then
keeps how a walk ends, and a walk that ends passes the new slot directly after the divided piece,
if it passes that piece at all. The one exception is a link to the number that the new slot gets.
It led nowhere and now leads to the right half, so a walk that passed the divided piece before it
comes back to the right half again and again.
-/
namespace Patchwork.Store

variable {before after store : Store} {arena : Nat} {start last : Option Int}

/-- What a walk passes, and the same with a new step directly after the one that passes a piece,
if there is one. -/
def Inserted (piece : Nat) (new : Nat × Nat) (passed others : List (Nat × Nat)) : Prop :=
  (piece ∉ passed.map Prod.snd ∧ others = passed) ∨
    ∃ first slot rest, passed = first ++ (slot, piece) :: rest ∧
      piece ∉ (first ++ rest).map Prod.snd ∧ others = first ++ (slot, piece) :: new :: rest

/-- The new slot comes after one slot at most, since no piece is passed twice. -/
theorem Chain.inserted_widen {piece : Nat} {passed : List (Nat × Nat)}
    (chain : Chain before arena start passed last) (halts : Halts before arena last) :
    Inserted piece ((before.arena arena).size, before.pieces.size) passed
      (passed.flatMap (before.widen arena piece)) := by
  have apart : ∀ {steps : List (Nat × Nat)}, piece ∉ steps.map Prod.snd →
      steps.flatMap (before.widen arena piece) = steps :=
    fun missing => flatMap_widen_of_forall_ne fun step among same =>
      missing (List.mem_map.mpr ⟨step, among, same⟩)
  by_cases passes : piece ∈ passed.map Prod.snd
  · obtain ⟨first, slot, rest, rfl, elsewhere⟩ := chain.exists_place halts passes
    refine .inr ⟨first, slot, rest, rfl, elsewhere, ?_⟩
    rw [List.map_append, List.mem_append, not_or] at elsewhere
    rw [List.flatMap_append, List.flatMap_cons, apart elsewhere.1, apart elsewhere.2]
    simp [widen]
  · exact .inl ⟨passes, apart passes⟩

namespace Divided

variable {piece position : Nat}

theorem halts (divided : Divided before after arena piece position)
    (halts : Halts before arena last) (other : last ≠ some ((before.arena arena).size : Int)) :
    Halts after arena last := by
  cases last with
  | none => exact halts_none
  | some index =>
    have missing := slot?_eq_none_iff.mp (halts_some.mp halts)
    refine halts_some.mpr (slot?_eq_none_iff.mpr fun inside => ?_)
    rw [divided.arena_eq, Array.size_push] at inside
    have new : index ≠ (before.arena arena).size := fun same => other (congrArg some same)
    omega

theorem endless (divided : Divided before after arena piece position)
    (slots : before.SlotsKnown arena) (endless : Endless before arena start) :
    Endless after arena start := by
  refine endless_of_longer fun count => ?_
  obtain ⟨passed, last, chain, rfl⟩ := endless count
  exact ⟨_, last, divided.chain slots chain, (sublist_flatMap_widen before arena piece passed).length_le⟩

/-- From the right half the links lead back to the slot that it has been given. -/
theorem endless_of_captured (divided : Divided before after arena piece position)
    (slots : before.SlotsKnown arena) {passed : List (Nat × Nat)}
    (chain : Chain before arena start passed (some ((before.arena arena).size : Int)))
    (passes : piece ∈ passed.map Prod.snd) : Endless after arena start := by
  obtain ⟨⟨slot, _⟩, among, rfl⟩ := List.mem_map.mp passes
  obtain ⟨first, rest, rfl⟩ := List.append_of_mem among
  obtain ⟨middle, fore, aft⟩ := chain.of_append
  cases aft with
  | step found tail =>
    have onward := divided.chain slots tail
    rw [← divided.next_right] at onward
    have loop := (Chain.step divided.slot?_new onward).endless_of_loop
    rw [← divided.next_left] at loop
    exact loop.of_chain ((divided.chain slots fore).trans
      (.step (divided.slot?_of_slot? found) (.here _)))

theorem drains_of_halts (divided : Divided before after arena piece position)
    (slots : before.SlotsKnown arena) {head : Int} {passed : List (Nat × Nat)}
    (chain : Chain before arena (some head) passed last) (halts : Halts before arena last)
    (other : last ≠ some ((before.arena arena).size : Int)) :
    ∃ others, Inserted piece ((before.arena arena).size, before.pieces.size) passed others ∧
      Walk.Drains after { arena, head } ⟨others, after.haltFault arena last⟩ :=
  ⟨_, chain.inserted_widen halts, Walk.drains_iff.mpr
    (trail_of_chain (divided.chain slots chain) (divided.halts halts other)).symm⟩

end Divided

theorem exists_drains_of_endless {head : Int} (endless : Endless store arena (some head)) :
    ∃ passed, Walk.Drains store { arena, head } ⟨passed, some (.endlessChain head)⟩ := by
  obtain ⟨passed, _, _, _, trailed⟩ := trail_of_endless endless
  exact ⟨passed, Walk.drains_iff.mpr trailed.symm⟩

/-- What a division makes of a walk along any links. Let the new slot's number be neither the head nor
the link of a piece on the way. Then a walk that stops still stops, one that fails at a number that is
no slot fails at the same number, one that reports an endless chain still does, and in the first two
cases it passes what it passed and the right half directly after the divided piece. A walk that failed
at the new slot's number, and passes the divided piece, then reports an endless chain. -/
theorem drains_divideSlot (slots : store.SlotsKnown arena) {cap index offset : Int} {slot : Nat}
    (done : (store.divideSlot cap arena index offset).result = .ok slot) (head : Int) :
    let size := (store.arena arena).size
    let half := (size, store.pieces.size)
    let after := (store.divideSlot cap arena index offset).store
    ∃ piece, store.slot? arena index = some piece ∧ slot = size ∧
      (head ≠ size →
        (∀ passed last, Chain store arena (some head) passed last →
          ∀ step ∈ passed, (store.stored step.2).next ≠ some (size : Int)) →
        (∀ passed, Walk.Drains store { arena, head } ⟨passed, none⟩ →
          ∃ others, Inserted piece half passed others ∧
            Walk.Drains after { arena, head } ⟨others, none⟩) ∧
        (∀ passed missing,
          Walk.Drains store { arena, head } ⟨passed, some (.noSuchSlot missing size)⟩ →
          ∃ others, Inserted piece half passed others ∧
            Walk.Drains after { arena, head } ⟨others, some (.noSuchSlot missing (size + 1))⟩) ∧
        ∀ passed, Walk.Drains store { arena, head } ⟨passed, some (.endlessChain head)⟩ →
          ∃ others, Walk.Drains after { arena, head } ⟨others, some (.endlessChain head)⟩) ∧
      ∀ passed, Walk.Drains store { arena, head } ⟨passed, some (.noSuchSlot size size)⟩ →
        piece ∈ passed.map Prod.snd →
        ∃ others, Walk.Drains after { arena, head } ⟨others, some (.endlessChain head)⟩ := by
  intro size half after
  rcases divideSlot_cases slots cap index offset with
    ⟨fault, refused⟩ | ⟨piece, position, found, _, gives, divided⟩
  · rw [refused] at done
    cases done
  have grown : (after.arena arena).size = size + 1 := by rw [divided.arena_eq, Array.size_push]
  have same : slot = size := Except.ok.inj (done.symm.trans gives)
  refine ⟨piece, found, same, fun apart unlinked => ⟨?_, ?_, ?_⟩, ?_⟩
  · intro passed drained
    have chain := trail_eq_stop_iff.mp (Walk.drains_iff.mp drained).symm
    exact divided.drains_of_halts slots chain halts_none nofun
  · intro passed missing drained
    obtain ⟨chain, nowhere, _⟩ := trail_eq_missing_iff.mp (Walk.drains_iff.mp drained).symm
    have other : some missing ≠ some (size : Int) := by
      rcases chain.last_eq with ⟨_, here⟩ | ⟨step, among, linked⟩
      · exact fun new => apart (Option.some.inj (here.trans new))
      · exact linked ▸ unlinked _ _ chain step among
    rw [← grown]
    exact divided.drains_of_halts slots chain (halts_some.mpr nowhere) other
  · intro passed drained
    have endless := (trail_eq_endless_iff.mp (Walk.drains_iff.mp drained).symm).1
    exact exists_drains_of_endless (divided.endless slots endless)
  · intro passed drained passes
    obtain ⟨chain, _⟩ := trail_eq_missing_iff.mp (Walk.drains_iff.mp drained).symm
    exact exists_drains_of_endless (divided.endless_of_captured slots chain passes)

/-- A piece of six positions in two slots, divided in the second. Linked to a number that stays none, it
is followed by its right half; linked to the new slot's number, it starts an endless chain. -/
theorem drains_divideSlot_of_shared_piece :
    let store (link : Int) := ((document 6 (by decide)).appendSlot 0 0).setNext 0 (some link)
    let after (link : Int) := ((store link).divideSlot 6 0 1 3).store
    (∀ link, (store link).SlotsKnown 0) ∧
    (∀ link ∈ [7, 2], ((store link).divideSlot 6 0 1 3).result = .ok 2) ∧
    Walk.Drains (after 7) { arena := 0, head := 0 } ⟨[(0, 0), (2, 1)], some (.noSuchSlot 7 3)⟩ ∧
    ∃ passed, Walk.Drains (after 2) { arena := 0, head := 0 } ⟨passed, some (.endlessChain 0)⟩ := by
  intro store after
  have holds : ∀ link, ∀ piece ∈ (store link).arena 0, piece = 0 := by
    intro link piece held
    have among : piece ∈ [0, 0] := Array.mem_toList_iff.mpr held
    simpa using among
  have slots : ∀ link, (store link).SlotsKnown 0 := by
    intro link piece held
    rw [holds link piece held]
    exact Nat.one_pos
  have done : ∀ link ∈ [7, 2], ((store link).divideSlot 6 0 1 3).result = .ok 2 := by decide +kernel
  refine ⟨slots, done, ?_, ?_⟩
  · obtain ⟨piece, found, _, kept, _⟩ := drains_divideSlot (slots 7) (done 7 (by decide)) 0
    cases Option.some.inj found
    have elsewhere : ∀ passed last, Chain (store 7) 0 (some 0) passed last → ∀ step ∈ passed,
        ((store 7).stored step.2).next ≠ some 2 := by
      intro passed last chain step among
      rw [holds 7 step.2 (Array.mem_of_getElem? (chain.slot_of_mem among))]
      decide
    obtain ⟨others, inserted, drained⟩ := (kept (by decide) elsewhere).2.1 [(0, 0)] 7
      (Walk.drains_iff.mpr rfl)
    rcases inserted with ⟨missing, _⟩ | ⟨first, slot, rest, whole, _, rfl⟩
    · exact absurd (List.mem_singleton_self 0) missing
    · rcases List.append_eq_singleton_iff.mp whole.symm with ⟨rfl, here⟩ | ⟨_, none⟩
      · cases here
        exact drained
      · cases none
  · obtain ⟨piece, found, _, _, captured⟩ := drains_divideSlot (slots 2) (done 2 (by decide)) 0
    cases Option.some.inj found
    exact captured [(0, 0)] (Walk.drains_iff.mpr rfl) (List.mem_singleton_self 0)

end Patchwork.Store
