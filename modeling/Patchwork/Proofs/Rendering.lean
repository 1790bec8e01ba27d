import Patchwork.Proofs.Walk

/-! # Rendered texts

What a piece contributes to a rendered text, and when. A text is rendered exactly when the
links lead to a piece without a link and the source is long enough for every piece on the
way that still shows it; the text is then what the pieces contribute, in that order.
-/
namespace Patchwork

namespace Piece

variable {κ : Type}

/-- The text between the decorations of a piece whose source is long enough. -/
def shown (piece : Piece κ) (source : String) : String :=
  match piece.edited with
  | some replacement => replacement.text
  | none => slice source piece.span.start piece.span.stop

/-- A piece fits a source that it does not show, or that reaches the end of its span. -/
def Fits (piece : Piece κ) (source : String) : Prop :=
  piece.edited = none → piece.span.stop ≤ source.length

/-- Everything a piece contributes: its intro, what it shows, its outro. -/
def block (piece : PieceView) (source : String) : String :=
  String.join (piece.intro.map Fragment.text) ++ piece.shown source ++
    String.join (piece.outro.map Fragment.text)

/-- The same in parts, as a piece gives them out. -/
def texts (piece : PieceView) (source : String) : List String :=
  piece.intro.map Fragment.text ++ piece.shown source :: piece.outro.map Fragment.text

theorem join_texts (piece : PieceView) (source : String) :
    String.join (piece.texts source) = piece.block source := by
  simp [texts, block, String.append_assoc]

theorem content_eq_ok_iff {piece : Piece κ} {source text : String} :
    piece.content source = .ok text ↔ piece.Fits source ∧ piece.shown source = text := by
  cases changed : piece.edited with
  | some replacement => simp [content, Fits, shown, changed]
  | none => simp [content, Fits, shown, changed, Span.read_eq_ok_iff, Span.cut]

theorem output_eq_ok_iff {piece : PieceView} {source : String} {texts : List String} :
    piece.output source = .ok texts ↔ piece.Fits source ∧ piece.texts source = texts := by
  cases given : piece.content source with
  | error fault =>
    have unfit : ¬piece.Fits source := by
      intro fits
      have read := content_eq_ok_iff.mpr ⟨fits, rfl⟩
      simp [given] at read
    simp [output, given, Except.map, unfit]
  | ok text =>
    obtain ⟨fits, rfl⟩ := content_eq_ok_iff.mp given
    simp [output, given, Except.map, fits, Piece.texts]

end Piece

namespace Store

variable {store : Store} {arena : Nat} {head : Int} {source text : String}

/-- While every piece on a trail fits, nothing but the trail's own fault ends the output. -/
theorem output_of_fits
    (fits : ∀ step ∈ (store.trail arena head).items, (store.piece step.2).Fits source) :
    store.output arena head source =
      ⟨(store.trail arena head).items.flatMap fun step => (store.piece step.2).texts source,
        (store.trail arena head).fault⟩ :=
  Delivery.opening_of_forall fun step passing =>
    Piece.output_eq_ok_iff.mpr ⟨fits step passing, rfl⟩

theorem join_flatMap_texts (store : Store) (passed : List (Nat × Nat)) (source : String) :
    String.join (passed.flatMap fun step => (store.piece step.2).texts source) =
      String.join (passed.map fun step => (store.piece step.2).block source) := by
  induction passed with
  | nil => rfl
  | cons step passed ih => simp [String.join_append, ih, Piece.join_texts]

theorem render_eq_ok_iff :
    store.render arena head source = .ok text ↔
      ∃ passed, Chain store arena (some head) passed none ∧
        (∀ step ∈ passed, (store.piece step.2).Fits source) ∧
        text = String.join (passed.map fun step => (store.piece step.2).block source) := by
  constructor
  · intro rendered
    cases ending : (store.output arena head source).fault with
    | some fault => simp [render, ending] at rendered
    | none =>
      obtain ⟨stops, opened⟩ := Delivery.fault_opening_eq_none_iff.mp ending
      have fits : ∀ step ∈ (store.trail arena head).items,
          (store.piece step.2).Fits source := by
        intro step passing
        obtain ⟨texts, given⟩ := opened step passing
        exact (Piece.output_eq_ok_iff.mp given).1
      refine ⟨(store.trail arena head).items, trail_eq_stop_iff.mp ?_, fits, ?_⟩
      · rw [← stops]
      · simp only [render, ending, Except.ok.injEq] at rendered
        rw [← rendered, output_of_fits fits, join_flatMap_texts]
  · rintro ⟨passed, chain, fits, rfl⟩
    have trailed := trail_eq_stop_iff.mpr chain
    have items : (store.trail arena head).items = passed := congrArg Delivery.items trailed
    rw [← items] at fits
    simp only [render, output_of_fits fits, trailed, join_flatMap_texts]

end Store

end Patchwork
