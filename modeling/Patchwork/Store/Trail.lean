import Patchwork.Store.Basic

/-! # Trails

Following the links of an arena from a head, and what the pieces on the way show. A
trail ends at a piece without a link, at a number that is no slot, or after as many
pieces as the arena has slots. Everything here reads one store that stands still.
-/
namespace Patchwork

/-- What came out, in order, and the fault that ended it, if one did. -/
structure Delivery (α : Type) where
  items : List α
  fault : Option Fault := none

namespace Delivery

variable {α β : Type}

def cons (item : α) (rest : Delivery α) : Delivery α := ⟨item :: rest.items, rest.fault⟩

@[simp] theorem items_cons (item : α) (rest : Delivery α) :
    (rest.cons item).items = item :: rest.items := rfl

@[simp] theorem fault_cons (item : α) (rest : Delivery α) : (rest.cons item).fault = rest.fault := rfl

def prepend (items : List α) (rest : Delivery α) : Delivery α := ⟨items ++ rest.items, rest.fault⟩

@[simp] theorem items_prepend (items : List α) (rest : Delivery α) :
    (rest.prepend items).items = items ++ rest.items := rfl

@[simp] theorem fault_prepend (items : List α) (rest : Delivery α) :
    (rest.prepend items).fault = rest.fault := rfl

/-- Every item opens into items of its own. The first that does not open is the end, and
`last` is the end when all of them open. -/
def opening (open? : α → Except Fault (List β)) (last : Option Fault) : List α → Delivery β
  | [] => ⟨[], last⟩
  | item :: rest =>
    match open? item with
    | .error fault => ⟨[], some fault⟩
    | .ok inner => (opening open? last rest).prepend inner

def expand (delivery : Delivery α) (open? : α → Except Fault (List β)) : Delivery β :=
  opening open? delivery.fault delivery.items

section Opening

variable {open? : α → Except Fault (List β)} {last : Option Fault} {items : List α}

theorem opening_of_forall {inner : α → List β} (opens : ∀ item ∈ items, open? item = .ok (inner item)) :
    opening open? last items = ⟨items.flatMap inner, last⟩ := by
  induction items with
  | nil => rfl
  | cons item items ih =>
    obtain ⟨opened, rest⟩ := List.forall_mem_cons.mp opens
    simp [opening, opened, ih rest, prepend]

theorem fault_opening_eq_none_iff : (opening open? last items).fault = none ↔
    last = none ∧ ∀ item ∈ items, ∃ inner, open? item = .ok inner := by
  induction items with
  | nil => simp [opening]
  | cons item items ih =>
    cases opened : open? item with
    | error fault => simp [opening, opened]
    | ok inner => simp [opening, opened, ih]

end Opening

end Delivery

namespace Store

/-- Slots with their pieces, from a pending link on, while there is room for more. -/
def follow (store : Store) (arena : Nat) (head : Int) :
    Nat → Option Int → Delivery (Nat × Nat)
  | _, none => ⟨[], none⟩
  | room, some index =>
    match store.get arena index with
    | .error fault => ⟨[], some fault⟩
    | .ok piece =>
      match room with
      | 0 => ⟨[], some (.endlessChain head)⟩
      | room + 1 => (store.follow arena head room (store.stored piece).next).cons (index.toNat, piece)

def trail (store : Store) (arena : Nat) (head : Int) : Delivery (Nat × Nat) :=
  store.follow arena head (store.arena arena).size (some head)

def output (store : Store) (arena : Nat) (head : Int) (source : String) : Delivery String :=
  (store.trail arena head).expand fun step => (store.piece step.2).output source

/-- The texts of a whole output joined; a fault leaves no text at all. -/
def render (store : Store) (arena : Nat) (head : Int) (source : String) : Except Fault String :=
  let shown := store.output arena head source
  match shown.fault with
  | some fault => .error fault
  | none => .ok (String.join shown.items)

end Store

end Patchwork
