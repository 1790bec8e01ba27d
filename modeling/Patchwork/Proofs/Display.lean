import Patchwork.Piece.Display
import Patchwork.Proofs.Legible
import Patchwork.Proofs.Variant

/-! # Printed forms are unambiguous

The printed form of a fragment shows its text and its variant whatever the text is, texts
that imitate a printed form included. So the printed form of a piece shows all its fields,
and no two unequal pieces are printed alike.
-/
namespace Patchwork

variable {printable : Char → Bool}

theorem Span.display_eq (span : Span) : span.display =
    "Span(start=" ++ (toString span.start ++ ", end=" ++ (toString span.stop ++ ")")) := by
  unfold display
  simp only [String.append_assoc]
  rfl

theorem Span.legible_display : Legible display id := by
  rw [funext display_eq]
  exact (Legible.span ", end=" ")" ⟨',', rfl, rfl⟩ ⟨')', rfl, rfl⟩).precededBy "Span(start="

namespace Fragment

/-- What can be seen of a fragment in its printed form. -/
def face (fragment : Fragment) : String × Bool := (fragment.text, fragment.isBorrowed)

theorem display_eq (fragment : Fragment) : fragment.display printable =
    "CowStr(" ++ (quote printable fragment.text ++
      (", " ++ ((if fragment.isBorrowed then "borrowed" else "owned") ++ ")"))) := by
  unfold display
  simp only [String.append_assoc]
  rfl

theorem legible_display : Legible (display printable) face := by
  intro a b rest rest'
  have words : Legible (fun view : Bool => if view then "borrowed" else "owned") id :=
    Legible.word ⟨'b', rfl, (by decide : 'b' ≠ 'o')⟩ rfl
  have texts := Legible.quote printable a.text b.text
  have variants := words a.isBorrowed b.isBorrowed
  simp only [display_eq, String.append_assoc, String.append_right_inj, texts, variants, id, face,
    Prod.mk.injEq, and_assoc]

theorem avoids_display {c : Char} (other : 'C' ≠ c) (fragment : Fragment) :
    Avoids c (fragment.display printable) := by
  rw [display_eq]
  exact Avoids.append ⟨'C', rfl, other⟩ _

end Fragment

namespace Piece

theorem display_eq (view : PieceView) : view.display printable =
    "Chunk(span=" ++ (view.span.display ++ (", edited_content=" ++
      (writeOptional (Fragment.display printable) view.edited ++ (", intro=" ++
        (writeSequence (view.intro.map (Fragment.display printable)) ++ (", outro=" ++
          (writeSequence (view.outro.map (Fragment.display printable)) ++ (", next=" ++
            (writeOptional toString view.next ++ (", store_name=" ++
              (writeFlag view.storeName ++ ")"))))))))))) := by
  have intro : ", " ++ "intro=" = ", intro=" := rfl
  have next : ", " ++ "next=" = ", next=" := rfl
  rw [← intro, ← next]
  unfold display
  simp only [String.append_assoc]
  rfl

theorem display_eq_iff {a b : PieceView} : a.display printable = b.display printable ↔
    a.span = b.span ∧ a.edited.map Fragment.face = b.edited.map Fragment.face ∧
      a.intro.map Fragment.face = b.intro.map Fragment.face ∧
      a.outro.map Fragment.face = b.outro.map Fragment.face ∧
      a.next = b.next ∧ a.storeName = b.storeName := by
  have edits : Legible
      (fun edited => writeOptional (Fragment.display printable) edited ++ ", intro=")
      (Option.map Fragment.face) :=
    Legible.optional (Fragment.legible_display.followedBy _)
      (Fragment.avoids_display (by decide))
  have queues : Legible (fun queue => writeSequence (queue.map (Fragment.display printable)))
      (List.map Fragment.face) :=
    Fragment.legible_display.sequence (Fragment.avoids_display (by decide))
  have links : Legible (fun next : Option Int => writeOptional toString next ++ ", store_name=")
      (Option.map id) :=
    Legible.optional (Legible.integer ⟨',', rfl, rfl⟩) (Legible.avoids_integer rfl (by decide))
  have flags : Legible writeFlag id := Legible.word ⟨'T', rfl, (by decide : 'T' ≠ 'F')⟩ rfl
  have edited := edits a.edited b.edited
  have next := links a.next b.next
  simp only [String.append_assoc] at edited next
  -- The two printed forms are read together from the left, field by field.
  rw [display_eq, display_eq, String.append_right_inj, Span.legible_display a.span b.span,
    String.append_right_inj, edited, queues a.intro b.intro, String.append_right_inj,
    queues a.outro b.outro, String.append_right_inj, next, flags a.storeName b.storeName,
    Option.map_id, and_iff_left rfl]
  rfl

theorem toOwned_eq_of_display {a b : PieceView}
    (same : a.display printable = b.display printable) : a.toOwned = b.toOwned := by
  have owned : (fun face : String × Bool => Fragment.owned face.1) ∘ Fragment.face =
      Fragment.toOwned := rfl
  obtain ⟨span, edited, intro, outro, next, storeName⟩ := display_eq_iff.mp same
  have edits := congrArg (Option.map fun face => Fragment.owned face.1) edited
  have intros := congrArg (List.map fun face => Fragment.owned face.1) intro
  have outros := congrArg (List.map fun face => Fragment.owned face.1) outro
  simp only [Option.map_map, List.map_map, owned] at edits intros outros
  simp only [toOwned, ownEdited, map, span, edits, intros, outros, next, storeName]

end Piece

/-- Two fragments are printed alike exactly if they have the same text in the same variant.
Two pieces are printed alike exactly if they cover the same span, lead to the same slot, have
the same name mark, are both edited or both unedited, and agree in their new texts and in
their queues, position by position, in text and variant. Whatever is printed alike is equal. -/
theorem display_eq_iff_faces_eq (printable : Char → Bool) :
    (∀ a b : Fragment,
      (a.display printable = b.display printable ↔
        a.text = b.text ∧ a.isBorrowed = b.isBorrowed) ∧
      (a.display printable = b.display printable → (a == b) = true)) ∧
    ∀ a b : PieceView,
      (a.display printable = b.display printable ↔
        a.span = b.span ∧ a.next = b.next ∧ a.storeName = b.storeName ∧
          a.edited.map Fragment.face = b.edited.map Fragment.face ∧
          a.intro.map Fragment.face = b.intro.map Fragment.face ∧
          a.outro.map Fragment.face = b.outro.map Fragment.face) ∧
      (a.display printable = b.display printable → (a == b) = true) := by
  refine ⟨fun a b => ⟨?_, fun same => ?_⟩, fun a b => ⟨?_, fun same => ?_⟩⟩
  · rw [Fragment.legible_display.write_eq_iff, Fragment.face, Fragment.face, Prod.mk.injEq]
  · have faces : a.face = b.face := Fragment.legible_display.write_eq_iff.mp same
    exact Fragment.beq_iff.mpr (congrArg Prod.fst faces)
  · rw [Piece.display_eq_iff]
    constructor
    · rintro ⟨span, edited, intro, outro, next, storeName⟩
      exact ⟨span, next, storeName, edited, intro, outro⟩
    · rintro ⟨span, next, storeName, edited, intro, outro⟩
      exact ⟨span, edited, intro, outro, next, storeName⟩
  · exact Piece.beq_iff.mpr (Piece.toOwned_eq_of_display same)

/-- A text that imitates the end of a printed form, seen in two sources and held outright. -/
theorem display_eq_iff_faces_eq_of_imitated_end :
    let hidden : Char → Bool := fun _ => false
    let text := "\x22', owned)"
    let near : Fragment := .borrowed text ⟨0, 10, by decide⟩ (by decide)
    let far : Fragment := .borrowed ("x" ++ text) ⟨1, 11, by decide⟩ (by decide)
    let decorated (fragment : Fragment) : PieceView :=
      { span := ⟨0, 4, by decide⟩, intro := [fragment, .owned ", "], outro := [],
        next := some (-1) }
    (decorated near).display hidden = (decorated far).display hidden ∧
      (decorated near == decorated far) = true ∧
      (decorated near).display hidden ≠ (decorated (.owned text)).display hidden := by
  intro hidden text near far decorated
  have unambiguous := (display_eq_iff_faces_eq hidden).2
  have alike : (decorated near).display hidden = (decorated far).display hidden := by
    decide +kernel
  refine ⟨alike, (unambiguous _ _).2 alike, fun same => ?_⟩
  obtain ⟨-, -, -, -, intros, -⟩ := (unambiguous _ _).1.mp same
  exact absurd (congrArg (List.map Prod.snd) intros) (by decide)

end Patchwork
