import Patchwork.Cursor.Walk
import Patchwork.Proofs.Chain

/-! # Walks to their end

A trail is the chain from its head, cut off where it would be longer than the arena. A walk
that is asked for items until it has no more, in a store that stands still, gives out the
trail. Hence a walk stops, fails at a number that is no slot, or reports an endless chain
exactly as the links do.
-/
namespace Patchwork

namespace Store

variable {store : Store} {arena : Nat}

/-- The fault of an end that is not a piece without a link. -/
def haltFault (store : Store) (arena : Nat) (last : Option Int) : Option Fault :=
  last.map fun index => .noSuchSlot index (store.arena arena).size

theorem follow_of_halts {last : Option Int} (halts : Halts store arena last) (head : Int)
    (room : Nat) :
    store.follow arena head room last = ⟨[], store.haltFault arena last⟩ := by
  cases last with
  | none => simp [follow, haltFault]
  | some index =>
    simp [follow, get_of_none (halts_some.mp halts), haltFault]

theorem follow_of_chain {start last : Option Int} {passed : List (Nat × Nat)}
    (chain : Chain store arena start passed last) (head : Int) (room : Nat) :
    store.follow arena head (passed.length + room) start =
      (store.follow arena head room last).prepend passed := by
  induction chain with
  | here => simp [Delivery.prepend]
  | step found _ ih =>
    rw [List.length_cons, Nat.add_right_comm, follow, get_eq_ok_iff.mpr found]
    simp only [ih]
    rfl

theorem trail_of_chain {head : Int} {last : Option Int} {passed : List (Nat × Nat)}
    (chain : Chain store arena (some head) passed last) (halts : Halts store arena last) :
    store.trail arena head = ⟨passed, store.haltFault arena last⟩ := by
  obtain ⟨room, size⟩ := Nat.exists_eq_add_of_le (chain.length_le halts)
  rw [trail, size, follow_of_chain chain, follow_of_halts halts]
  simp [Delivery.prepend]

theorem trail_of_endless {head : Int} (endless : Endless store arena (some head)) :
    ∃ passed last, Chain store arena (some head) passed last ∧
      passed.length = (store.arena arena).size ∧
      store.trail arena head = ⟨passed, some (.endlessChain head)⟩ := by
  obtain ⟨passed, last, chain, full⟩ := endless (store.arena arena).size
  refine ⟨passed, last, chain, full, ?_⟩
  have onward : ¬Halts store arena last := fun halts => chain.not_endless halts endless
  obtain ⟨index, piece, rfl, slot⟩ := exists_of_not_halts onward
  have cut := follow_of_chain chain head 0
  rw [Nat.add_zero, full] at cut
  rw [trail, cut, follow, get_eq_ok_iff.mpr slot]
  simp [Delivery.prepend]

theorem trail_cases (store : Store) (arena : Nat) (head : Int) :
    (∃ passed last, Chain store arena (some head) passed last ∧ Halts store arena last ∧
      store.trail arena head = ⟨passed, store.haltFault arena last⟩) ∨
    Endless store arena (some head) ∧ ∃ passed last, Chain store arena (some head) passed last ∧
      passed.length = (store.arena arena).size ∧
      store.trail arena head = ⟨passed, some (.endlessChain head)⟩ := by
  rcases ends_or_endless store arena (some head) with ⟨passed, last, chain, halts⟩ | endless
  · exact .inl ⟨passed, last, chain, halts, trail_of_chain chain halts⟩
  · exact .inr ⟨endless, trail_of_endless endless⟩

theorem trail_eq_stop_iff {head : Int} {passed : List (Nat × Nat)} :
    store.trail arena head = ⟨passed, none⟩ ↔ Chain store arena (some head) passed none := by
  constructor
  · intro stops
    rcases trail_cases store arena head with ⟨_, last, chain, _, same⟩ | ⟨_, _, _, _, _, same⟩
    · rw [stops] at same
      cases last with
      | none => cases same; exact chain
      | some index => cases same
    · rw [stops] at same
      cases same
  · intro chain
    exact trail_of_chain chain halts_none

theorem trail_eq_missing_iff {head index : Int} {size : Nat} {passed : List (Nat × Nat)} :
    store.trail arena head = ⟨passed, some (.noSuchSlot index size)⟩ ↔
      Chain store arena (some head) passed (some index) ∧ store.slot? arena index = none ∧
        size = (store.arena arena).size := by
  constructor
  · intro breaks
    rcases trail_cases store arena head with ⟨_, last, chain, halts, same⟩ | ⟨_, _, _, _, _, same⟩
    · rw [breaks] at same
      cases last with
      | none => cases same
      | some other => cases same; exact ⟨chain, halts, rfl⟩
    · rw [breaks] at same
      cases same
  · rintro ⟨chain, missing, rfl⟩
    exact trail_of_chain chain (halts_some.mpr missing)

theorem trail_eq_endless_iff {head : Int} {passed : List (Nat × Nat)} :
    store.trail arena head = ⟨passed, some (.endlessChain head)⟩ ↔
      Endless store arena (some head) ∧ passed.length = (store.arena arena).size ∧
        ∃ last, Chain store arena (some head) passed last := by
  constructor
  · intro circles
    rcases trail_cases store arena head with
      ⟨_, last, _, _, same⟩ | ⟨endless, _, last, chain, full, same⟩
    · rw [circles] at same
      cases last <;> cases same
    · rw [circles] at same
      cases same
      exact ⟨endless, full, last, chain⟩
  · rintro ⟨endless, full, last, chain⟩
    obtain ⟨others, other, chain', full', same⟩ := trail_of_endless endless
    rw [same, chain.eq_of_length chain' (full.trans full'.symm)]

end Store

/-- Everything a walk gives out when it is asked again and again in one store. -/
inductive Walk.Drains (store : Store) : Walk → Delivery (Nat × Nat) → Prop
  | stop {walk later : Walk} (asked : walk.next store = (.stop, later)) :
      Drains store walk ⟨[], none⟩
  | fault {walk later : Walk} {reason : Fault} (asked : walk.next store = (.fault reason, later)) :
      Drains store walk ⟨[], some reason⟩
  | item {walk later : Walk} {step : Nat × Nat} {rest : Delivery (Nat × Nat)}
      (asked : walk.next store = (.item step, later)) (onward : Drains store later rest) :
      Drains store walk (rest.cons step)

namespace Walk

variable {store : Store}

theorem Drains.unique {walk : Walk} {first second : Delivery (Nat × Nat)}
    (drained : Drains store walk first) (again : Drains store walk second) : first = second := by
  induction drained generalizing second with
  | stop asked => cases again <;> simp_all
  | fault asked => cases again <;> simp_all
  | item asked _ ih =>
    cases again with
    | stop asked' => simp_all
    | fault asked' => simp_all
    | item asked' onward' =>
      rw [asked] at asked'
      cases asked'
      rw [ih onward']

theorem drains_of_halts {walk : Walk} (halts : Store.Halts store walk.arena (walk.pending store)) :
    Drains store walk ⟨[], store.haltFault walk.arena (walk.pending store)⟩ := by
  cases pending : walk.pending store with
  | none => exact .stop (next_of_none pending)
  | some index =>
    rw [pending] at halts
    exact .fault (next_of_error pending (Store.get_of_none halts))

/-- The slots a walk has not given out yet are the room that is left to a trail. -/
theorem drains_follow (room : Nat) {walk : Walk}
    (count : walk.yielded + room = (store.arena walk.arena).size) :
    Drains store walk (store.follow walk.arena walk.head room (walk.pending store)) := by
  induction room generalizing walk with
  | zero =>
    by_cases halts : Store.Halts store walk.arena (walk.pending store)
    · rw [Store.follow_of_halts halts]
      exact drains_of_halts halts
    · obtain ⟨index, piece, pending, slot⟩ := Store.exists_of_not_halts halts
      have found := Store.get_eq_ok_iff.mpr slot
      rw [pending, Store.follow, found]
      exact .fault (next_of_full pending found count)
  | succ room ih =>
    by_cases halts : Store.Halts store walk.arena (walk.pending store)
    · rw [Store.follow_of_halts halts]
      exact drains_of_halts halts
    · obtain ⟨index, piece, pending, slot⟩ := Store.exists_of_not_halts halts
      have found := Store.get_eq_ok_iff.mpr slot
      rw [pending, Store.follow, found]
      refine .item (next_of_room pending found (by omega)) (ih ?_)
      change walk.yielded + 1 + room = (store.arena walk.arena).size
      omega

theorem drains_trail (store : Store) (arena : Nat) (head : Int) :
    Drains store { arena, head } (store.trail arena head) :=
  drains_follow (store.arena arena).size (Nat.zero_add _)

theorem drains_iff {arena : Nat} {head : Int} {delivery : Delivery (Nat × Nat)} :
    Drains store { arena, head } delivery ↔ delivery = store.trail arena head :=
  ⟨fun drained => drained.unique (drains_trail store arena head),
    fun same => same ▸ drains_trail store arena head⟩

/-- A walk ends as the links from its head do. It stops after the chain that ends without a
link, fails after the chain that leads to a number outside the arena, and reports an endless
chain, after as many steps as there are slots, when the links can be followed for ever. -/
theorem drains_as_links_lead (store : Store) (arena : Nat) (head : Int) :
    (∃! delivery, Drains store { arena, head } delivery) ∧
    Drains store { arena, head } (store.trail arena head) ∧
    ((store.trail arena head).fault = none ∨
      (∃ index size, (store.trail arena head).fault = some (.noSuchSlot index size)) ∨
      (store.trail arena head).fault = some (.endlessChain head)) ∧
    (∀ passed, Drains store { arena, head } ⟨passed, none⟩ ↔
      Store.Chain store arena (some head) passed none) ∧
    (∀ passed, Drains store { arena, head } ⟨passed, none⟩ →
      (passed.map Prod.fst).Nodup ∧ (passed.map Prod.snd).Nodup) ∧
    (∀ passed index size, Drains store { arena, head } ⟨passed, some (.noSuchSlot index size)⟩ ↔
      Store.Chain store arena (some head) passed (some index) ∧
        ¬(0 ≤ index ∧ index < (store.arena arena).size) ∧ size = (store.arena arena).size) ∧
    (∀ passed, Drains store { arena, head } ⟨passed, some (.endlessChain head)⟩ ↔
      Store.Endless store arena (some head) ∧ passed.length = (store.arena arena).size ∧
        ∃ last, Store.Chain store arena (some head) passed last) ∧
    ∀ passed, Store.Chain store arena (some head) passed none →
      passed.length = (store.arena arena).size →
      ∀ items, ¬Drains store { arena, head } ⟨items, some (.endlessChain head)⟩ := by
  refine ⟨⟨_, drains_trail store arena head, fun _ drained => drains_iff.mp drained⟩,
    drains_trail store arena head, ?_, ?_, ?_, ?_, ?_, ?_⟩
  · rcases Store.trail_cases store arena head with ⟨_, last, _, _, same⟩ | ⟨_, _, _, _, _, same⟩
    · rw [same]
      cases last with
      | none => exact .inl rfl
      | some index => exact .inr (.inl ⟨index, _, rfl⟩)
    · rw [same]
      exact .inr (.inr rfl)
  · intro passed
    rw [drains_iff, eq_comm, Store.trail_eq_stop_iff]
  · intro passed drained
    have chain := Store.trail_eq_stop_iff.mp (drains_iff.mp drained).symm
    exact ⟨chain.nodup_slots Store.halts_none, chain.nodup_pieces Store.halts_none⟩
  · intro passed index size
    rw [drains_iff, eq_comm, Store.trail_eq_missing_iff, Store.slot?_eq_none_iff]
  · intro passed
    rw [drains_iff, eq_comm, Store.trail_eq_endless_iff]
  · intro passed chain _ items drained
    have endless := (Store.trail_eq_endless_iff.mp (drains_iff.mp drained).symm).1
    exact chain.not_endless Store.halts_none endless

end Walk

end Patchwork
