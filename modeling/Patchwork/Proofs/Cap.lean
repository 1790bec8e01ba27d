import Patchwork.Fault.Kind
import Patchwork.Workspace

/-! # What the cap decides

The cap is looked at to refuse an offset or a length that is above it, and for nothing else. So
whatever a cap does not refuse for its size comes to the same under a higher cap: the same reply or
the same fault, the same records, the same store. Checks against the cap stand among other checks,
before and after changes; each is steady in this sense, and steady parts make a steady whole.
-/
namespace Patchwork

/-- An offset or a length was above the cap. -/
def Fault.OfSize (fault : Fault) : Prop := fault.kind = .textSize

instance (fault : Fault) : Decidable fault.OfSize := inferInstanceAs (Decidable (_ = _))

section Steady

variable {ε α β : Type} {sized : ε → Prop}

/-- A result that is a refusal for size. -/
def Oversized (sized : ε → Prop) : Except ε α → Prop
  | .error fault => sized fault
  | .ok _ => False

instance [DecidablePred sized] : DecidablePred (Oversized sized : Except ε α → Prop)
  | .error fault => inferInstanceAs (Decidable (sized fault))
  | .ok _ => .isFalse id

theorem oversized_map {result : Except ε α} {f : α → β} :
    Oversized sized (result.map f) ↔ Oversized sized result := by
  cases result <;> rfl

/-- What a low cap does not refuse for its size comes to the same under a high cap. -/
def Steady (sized : ε → Prop) (low high : Except ε α) : Prop := ¬Oversized sized low → high = low

namespace Steady

theorem refl (result : Except ε α) : Steady sized result result := fun _ => rfl

theorem bind {low high : Except ε α} {next next' : α → Except ε β} (first : Steady sized low high)
    (rest : ∀ value, Steady sized (next value) (next' value)) :
    Steady sized (low >>= next) (high >>= next') := by
  cases low with
  | error fault =>
    intro admitted
    rw [first admitted]
    rfl
  | ok value =>
    rw [first id]
    exact rest value

theorem map {low high : Except ε α} (steady : Steady sized low high) (f : α → β) :
    Steady sized (low.map f) (high.map f) := fun admitted => by
  rw [steady (mt oversized_map.mpr admitted)]

end Steady

end Steady

section Checks

variable {low high : Int}

theorem checkOffset_steady (rises : low ≤ high) (offset : Int) :
    Steady Fault.OfSize (checkOffset low offset) (checkOffset high offset) := by
  intro admitted
  unfold checkOffset at admitted ⊢
  split at admitted
  · rename_i inside
    rw [if_pos inside, if_pos ⟨inside.1, Int.le_trans inside.2 rises⟩]
  · exact absurd rfl admitted

theorem checkLength_steady (rises : low ≤ high) (length : Nat) :
    Steady Fault.OfSize (checkLength low length) (checkLength high length) := by
  intro admitted
  unfold checkLength at admitted ⊢
  split at admitted
  · rename_i short
    rw [if_pos short, if_pos (Int.le_trans short rises)]
  · exact absurd rfl admitted

theorem Span.ofBounds_steady (rises : low ≤ high) (start stop : Int) :
    Steady Fault.OfSize (Span.ofBounds low start stop) (Span.ofBounds high start stop) :=
  (checkOffset_steady rises start).bind fun _ =>
    (checkOffset_steady rises stop).bind fun _ => .refl _

theorem Fragment.borrow_steady (rises : low ≤ high) (source : String) (span : Span) :
    Steady Fault.OfSize (Fragment.borrow low source span) (Fragment.borrow high source span) := by
  unfold Fragment.borrow
  split
  · exact (checkLength_steady rises span.length).map _
  · exact .refl _

theorem Content.toFragment_steady (rises : low ≤ high) (content : Content) :
    Steady Fault.OfSize (content.toFragment low) (content.toFragment high) := by
  cases content with
  | plain text => exact (checkLength_steady rises text.length).map _
  | wrapped fragment => exact .refl _

theorem Piece.split_steady {κ : Type} (rises : low ≤ high) (piece : Piece κ) (offset : Int)
    (leftOutro rightIntro : κ) :
    Steady Fault.OfSize (piece.split low offset leftOutro rightIntro)
      (piece.split high offset leftOutro rightIntro) := by
  unfold Piece.split
  split
  · exact .refl _
  · split
    · exact (checkOffset_steady rises offset).bind fun position =>
        (Span.ofBounds_steady rises position piece.span.stop).bind fun _ =>
          (Span.ofBounds_steady rises piece.span.start position).bind fun _ => .refl _
    · exact .refl _

end Checks

def Outcome.Steady {α : Type} (low high : Outcome α) : Prop :=
  ¬Oversized Fault.OfSize low.result → high = low

namespace Store

variable {low high : Int}

theorem decorate_steady (rises : low ≤ high) (store : Store) (piece : Nat) (side : Side)
    (place : Place) (content : Content) :
    (store.decorate low piece side place content).Steady
      (store.decorate high piece side place content) := by
  intro admitted
  have steady := content.toFragment_steady rises
  unfold decorate at admitted ⊢
  cases kept : content.toFragment low <;> rw [kept] at steady admitted <;>
    simp only [steady admitted]

theorem edit_steady (rises : low ≤ high) (store : Store) (piece : Nat) (content : Content)
    (policy : EditPolicy) :
    (store.edit low piece content policy).Steady (store.edit high piece content policy) := by
  intro admitted
  have steady := content.toFragment_steady rises
  unfold edit at admitted ⊢
  cases kept : content.toFragment low <;> rw [kept] at steady admitted <;>
    simp only [steady admitted]

theorem divide_steady (rises : low ≤ high) (store : Store) (piece : Nat) (offset : Int) :
    (store.divide low piece offset).Steady (store.divide high piece offset) := by
  intro admitted
  have steady := (store.stored piece).split_steady rises offset store.queues.size
    (store.queues.size + 1)
  unfold divide at admitted ⊢
  cases cut : (store.stored piece).split low offset store.queues.size (store.queues.size + 1) <;>
    rw [cut] at steady admitted <;> simp only [steady admitted]

theorem divideSlot_steady (rises : low ≤ high) (store : Store) (arena : Nat) (index offset : Int) :
    (store.divideSlot low arena index offset).Steady
      (store.divideSlot high arena index offset) := by
  intro admitted
  unfold divideSlot at admitted ⊢
  split at admitted
  · rfl
  · rename_i piece _
    have steady := store.divide_steady rises piece offset
    rw [steady fun oversized => admitted ?_]
    rcases cut : store.divide low piece offset with ⟨_ | right, divided, log⟩ <;>
      rw [cut] at oversized
    · exact oversized
    · exact oversized.elim

end Store

namespace Workspace

variable {printable : Char → Bool} {low high : Int}

def withCap (workspace : Workspace) (cap : Int) : Workspace := { workspace with cap }

theorem answer_steady (rises : low ≤ high) (workspace : Workspace) (question : Question) :
    Steady Fault.OfSize ((workspace.withCap low).answer printable question)
      ((workspace.withCap high).answer printable question) := by
  cases question with
  | offset value => exact (checkOffset_steady rises value).map _
  | span start stop => exact (Span.ofBounds_steady rises start stop).map _
  | wrap content => exact (content.toFragment_steady rises).map _
  | borrow source span => exact (Fragment.borrow_steady rises source span).map _
  | _ => exact .refl _

theorem settle_withCap {α : Type} {workspace : Workspace} {reply : α → Reply}
    {first second : Outcome α} (steady : first.Steady second)
    (admitted : ¬Oversized Fault.OfSize ((workspace.withCap low).settle reply first).reply) :
    (workspace.withCap high).settle reply second =
      { (workspace.withCap low).settle reply first with
        workspace := ((workspace.withCap low).settle reply first).workspace.withCap high } := by
  rw [steady (mt oversized_map.mpr admitted)]
  rfl

theorem perform_withCap (rises : low ≤ high) (workspace : Workspace) {action : Action}
    (still : ∀ cap, action ≠ .setCap cap)
    (admitted : ¬Oversized Fault.OfSize
      ((workspace.withCap low).perform printable action).reply) :
    let performance := (workspace.withCap low).perform printable action
    (workspace.withCap high).perform printable action =
      { performance with workspace := performance.workspace.withCap high } := by
  cases action with
  | setCap cap => exact absurd rfl (still cap)
  | ask question =>
    have same := workspace.answer_steady rises question admitted
    simp only [perform, same]
    rfl
  | decorate piece side place content =>
    exact settle_withCap (workspace.store.decorate_steady rises piece side place content) admitted
  | edit piece content policy =>
    exact settle_withCap (workspace.store.edit_steady rises piece content policy) admitted
  | divide piece offset =>
    have same := workspace.store.divide_steady rises piece offset (mt oversized_map.mpr admitted)
    simp only [perform, withCap, same]
    rfl
  | divideSlot arena index offset =>
    exact settle_withCap (workspace.store.divideSlot_steady rises arena index offset) admitted
  | setEdited piece content =>
    cases content with
    | none => rfl
    | some content =>
      have steady := content.toFragment_steady rises
      simp only [perform, withCap] at admitted ⊢
      cases kept : content.toFragment low <;> rw [kept] at steady admitted <;>
        simp only [steady admitted] <;> rfl
  | openParts piece source =>
    simp only [perform, withCap]
    split <;> rfl
  | pull cursor count =>
    simp only [perform, withCap]
    split <;> rfl
  | _ => rfl

end Workspace

end Patchwork
