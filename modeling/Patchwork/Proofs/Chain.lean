import Mathlib.Data.List.Nodup
import Patchwork.Store.Trail

/-! # Chains of links

Following links from a pending one, with no bound on how far. A chain that ends, at a piece
without a link or at a number that is no slot, passes every slot and every piece at most
once. So it is never longer than the arena, and a trail, which counts its steps, tells it
from links that can be followed for ever.
-/
namespace Patchwork.Store

variable {store : Store} {arena : Nat}

/-- From one pending link to another, with the slots and pieces passed on the way. -/
inductive Chain (store : Store) (arena : Nat) : Option Int → List (Nat × Nat) → Option Int → Prop
  | here (pending : Option Int) : Chain store arena pending [] pending
  | step {index : Int} {piece : Nat} {passed : List (Nat × Nat)} {last : Option Int}
      (found : store.slot? arena index = some piece)
      (rest : Chain store arena (store.stored piece).next passed last) :
      Chain store arena (some index) ((index.toNat, piece) :: passed) last

/-- A pending link that leads nowhere: none at all, or a number that is no slot. -/
def Halts (store : Store) (arena : Nat) (pending : Option Int) : Prop :=
  pending.bind (store.slot? arena) = none

/-- Links that can be followed any number of times. -/
def Endless (store : Store) (arena : Nat) (pending : Option Int) : Prop :=
  ∀ count, ∃ passed last, Chain store arena pending passed last ∧ passed.length = count

@[simp] theorem halts_none : Halts store arena none := rfl

@[simp] theorem halts_some {index : Int} :
    Halts store arena (some index) ↔ store.slot? arena index = none := Iff.rfl

theorem exists_of_not_halts {pending : Option Int} (onward : ¬Halts store arena pending) :
    ∃ index piece, pending = some index ∧ store.slot? arena index = some piece := by
  obtain ⟨piece, found⟩ := Option.ne_none_iff_exists'.mp onward
  obtain ⟨index, given, slot⟩ := Option.bind_eq_some_iff.mp found
  exact ⟨index, piece, given, slot⟩

namespace Chain

variable {start middle last other : Option Int} {passed others : List (Nat × Nat)}

theorem trans (first : Chain store arena start passed middle)
    (second : Chain store arena middle others last) :
    Chain store arena start (passed ++ others) last := by
  induction first with
  | here => exact second
  | step found _ ih => exact .step found (ih second)

theorem of_append (chain : Chain store arena start (passed ++ others) last) :
    ∃ middle, Chain store arena start passed middle ∧ Chain store arena middle others last := by
  induction passed generalizing start with
  | nil => exact ⟨start, .here start, chain⟩
  | cons step passed ih =>
    cases chain with
    | step found rest =>
      obtain ⟨middle, first, second⟩ := ih rest
      exact ⟨middle, .step found first, second⟩

theorem slot_of_mem (chain : Chain store arena start passed last) {step : Nat × Nat}
    (passing : step ∈ passed) : (store.arena arena)[step.1]? = some step.2 := by
  induction chain with
  | here => cases passing
  | @step index piece _ _ found _ ih =>
    rcases List.mem_cons.mp passing with rfl | later
    · have inside := slot?_isSome_iff.mp (Option.isSome_of_eq_some found)
      simpa [slot?, inside.1] using found
    · exact ih later

/-- Two chains from one link part only where one of them ends. -/
theorem initial (ended : Chain store arena start passed last) (halts : Halts store arena last)
    (chain : Chain store arena start others other) :
    ∃ left, passed = others ++ left ∧ Chain store arena other left last := by
  induction chain generalizing passed with
  | here pending => exact ⟨passed, rfl, ended⟩
  | step found _ ih =>
    cases ended with
    | here => simp [Halts, found] at halts
    | step found' rest =>
      cases found.symm.trans found'
      obtain ⟨left, rfl, onward⟩ := ih rest
      exact ⟨left, rfl, onward⟩

theorem eq_of_length (chain : Chain store arena start passed last)
    (chain' : Chain store arena start others other) (same : passed.length = others.length) :
    passed = others := by
  induction chain generalizing others with
  | here => exact (List.eq_nil_of_length_eq_zero same.symm).symm
  | step found _ ih =>
    cases chain' with
    | here => cases same
    | step found' rest =>
      cases found.symm.trans found'
      rw [ih rest (Nat.succ.inj same)]

theorem eq_of_halts (chain : Chain store arena start passed last) (halts : Halts store arena start) :
    passed = [] ∧ start = last := by
  cases chain with
  | here => exact ⟨rfl, rfl⟩
  | step found _ => simp [Halts, found] at halts

theorem unique (first : Chain store arena start passed last) (halts : Halts store arena last)
    (second : Chain store arena start others other) (halts' : Halts store arena other) :
    passed = others ∧ last = other := by
  obtain ⟨left, rfl, onward⟩ := first.initial halts second
  obtain ⟨rfl, rfl⟩ := onward.eq_of_halts halts'
  exact ⟨List.append_nil _, rfl⟩

/-- Coming back to a piece would mean going on from it in two ways of different length. -/
theorem nodup_pieces (chain : Chain store arena start passed last) (halts : Halts store arena last) :
    (passed.map Prod.snd).Nodup := by
  induction chain with
  | here => exact List.nodup_nil
  | @step index piece passed last found rest ih =>
    refine List.nodup_cons.mpr ⟨fun again => ?_, ih halts⟩
    obtain ⟨⟨slot, _⟩, passing, rfl⟩ := List.mem_map.mp again
    obtain ⟨before, after, rfl⟩ := List.append_of_mem passing
    obtain ⟨_, _, onward⟩ := rest.of_append
    cases onward with
    | step _ tail =>
      have same := (rest.unique halts tail halts).1
      have longer := congrArg List.length same
      simp only [List.length_append, List.length_cons] at longer
      omega

theorem exists_place (chain : Chain store arena start passed last) (halts : Halts store arena last)
    {piece : Nat} (passes : piece ∈ passed.map Prod.snd) :
    ∃ first slot rest, passed = first ++ (slot, piece) :: rest ∧
      piece ∉ (first ++ rest).map Prod.snd := by
  obtain ⟨⟨slot, _⟩, among, rfl⟩ := List.mem_map.mp passes
  obtain ⟨first, rest, rfl⟩ := List.append_of_mem among
  have once := chain.nodup_pieces halts
  rw [List.map_append, List.map_cons, List.nodup_middle, List.nodup_cons, ← List.map_append] at once
  exact ⟨first, slot, rest, rfl, once.1⟩

theorem nodup_slots (chain : Chain store arena start passed last) (halts : Halts store arena last) :
    (passed.map Prod.fst).Nodup := by
  have contents : passed.map Prod.snd =
      (passed.map Prod.fst).map fun slot => (store.arena arena)[slot]?.getD 0 := by
    rw [List.map_map]
    apply List.map_congr_left
    intro step passing
    simp [chain.slot_of_mem passing]
  exact List.Nodup.of_map _ (contents ▸ chain.nodup_pieces halts)

theorem last_eq (chain : Chain store arena start passed last) :
    passed = [] ∧ start = last ∨ ∃ step ∈ passed, (store.stored step.2).next = last := by
  induction chain with
  | here => exact .inl ⟨rfl, rfl⟩
  | step _ _ ih =>
    right
    rcases ih with ⟨_, linked⟩ | ⟨step, among, linked⟩
    · exact ⟨_, List.mem_cons_self, linked⟩
    · exact ⟨step, List.mem_cons_of_mem _ among, linked⟩

theorem slot_lt (chain : Chain store arena start passed last) {slot : Nat}
    (passing : slot ∈ passed.map Prod.fst) : slot < (store.arena arena).size := by
  obtain ⟨step, member, rfl⟩ := List.mem_map.mp passing
  exact (Array.getElem?_eq_some_iff.mp (chain.slot_of_mem member)).1

theorem length_le (chain : Chain store arena start passed last) (halts : Halts store arena last) :
    passed.length ≤ (store.arena arena).size := by
  have inside : passed.map Prod.fst ⊆ List.range (store.arena arena).size :=
    fun _ passing => List.mem_range.mpr (chain.slot_lt passing)
  simpa using (chain.nodup_slots halts).length_le_of_subset inside

theorem not_endless (chain : Chain store arena start passed last) (halts : Halts store arena last) :
    ¬Endless store arena start := by
  intro endless
  obtain ⟨others, other, longer, count⟩ := endless (passed.length + 1)
  obtain ⟨left, same, _⟩ := chain.initial halts longer
  have := congrArg List.length same
  simp only [List.length_append] at this
  omega

end Chain

theorem ends_or_endless (store : Store) (arena : Nat) (start : Option Int) :
    (∃ passed last, Chain store arena start passed last ∧ Halts store arena last) ∨
      Endless store arena start := by
  by_cases ends : ∃ passed last, Chain store arena start passed last ∧ Halts store arena last
  · exact .inl ends
  · right
    intro count
    induction count with
    | zero => exact ⟨[], start, .here start, rfl⟩
    | succ count ih =>
      obtain ⟨passed, last, chain, rfl⟩ := ih
      have onward : ¬Halts store arena last := fun halts => ends ⟨passed, last, chain, halts⟩
      obtain ⟨index, piece, rfl, slot⟩ := exists_of_not_halts onward
      exact ⟨_, _, chain.trans (.step slot (.here _)), by simp⟩

theorem endless_of_longer {start : Option Int}
    (longer : ∀ count, ∃ passed last, Chain store arena start passed last ∧ count ≤ passed.length) :
    Endless store arena start := by
  intro count
  obtain ⟨passed, last, chain, long⟩ := longer count
  rw [← List.take_append_drop count passed] at chain
  obtain ⟨middle, first, _⟩ := chain.of_append
  exact ⟨_, middle, first, List.length_take_of_le long⟩

theorem Endless.of_chain {start middle : Option Int} (endless : Endless store arena middle)
    {passed : List (Nat × Nat)} (chain : Chain store arena start passed middle) :
    Endless store arena start := by
  refine endless_of_longer fun count => ?_
  obtain ⟨others, last, onward, rfl⟩ := endless count
  exact ⟨_, last, chain.trans onward, by simp⟩

theorem Chain.endless_of_loop {start : Option Int} {step : Nat × Nat} {passed : List (Nat × Nat)}
    (loop : Chain store arena start (step :: passed) start) : Endless store arena start := by
  refine endless_of_longer fun count => ?_
  induction count with
  | zero => exact ⟨[], start, .here start, Nat.le_refl 0⟩
  | succ count ih =>
    obtain ⟨others, last, chain, long⟩ := ih
    refine ⟨_, last, loop.trans chain, ?_⟩
    simp only [List.length_append, List.length_cons]
    omega

end Patchwork.Store
