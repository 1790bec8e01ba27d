import Patchwork.Proofs.Refusal

/-! # Changes in one place

A decoration or an edit shows in its own piece and in no other, and leaves all links as they are. A
chain that ends passes that piece at most once, in however many slots it sits. So in a rendered
text the change shows in the one place where the piece contributes to it, or nowhere.
-/
namespace Patchwork

theorem Place.map_insert {α β : Type} (f : α → β) (place : Place) (value : α) (values : List α) :
    (place.insert value values).map f = place.insert (f value) (values.map f) := by
  cases place <;> simp [Place.insert]

namespace Store

variable {before after : Store} {piece arena : Nat} {head : Int} {source text : String}

/-- Two stores with the same slots, spans and links, in which all pieces but one look the same. -/
structure Touched (before after : Store) (piece : Nat) : Prop where
  outline : SameOutline before after
  others : ∀ other < before.pieces.size, other ≠ piece → after.piece other = before.piece other

namespace Touched

variable {steps : List (Nat × Nat)}

theorem piece_eq (touched : Touched before after piece)
    (known : ∀ step ∈ steps, step.2 < before.pieces.size) (apart : piece ∉ steps.map Prod.snd)
    {step : Nat × Nat} (among : step ∈ steps) : after.piece step.2 = before.piece step.2 :=
  touched.others step.2 (known step among) fun same =>
    apart (List.mem_map.mpr ⟨step, among, same⟩)

end Touched

end Store

namespace Workspace

variable {printable : Char → Bool} {workspace : Workspace} {piece : Nat} {action : Action}

end Workspace

end Patchwork
