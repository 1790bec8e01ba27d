import Patchwork.EditPolicy
import Patchwork.Piece
import Patchwork.Text.Quoted
import Patchwork.Text.Written

/-! # Printed forms

Spans, fragments, pieces and policies as text for a reader. Unlike equality, the printed
form of a fragment tells an owned text from a view.
-/
namespace Patchwork

def Span.display (span : Span) : String := s!"Span(start={span.start}, end={span.stop})"

def Fragment.display (printable : Char → Bool) (fragment : Fragment) : String :=
  let variant := if fragment.isBorrowed then "borrowed" else "owned"
  s!"CowStr({quote printable fragment.text}, {variant})"

def EditPolicy.display (policy : EditPolicy) : String :=
  s!"EditOptions(overwrite={writeFlag policy.overwrite}, " ++
    s!"store_name={writeFlag policy.storeName})"

def Piece.display (printable : Char → Bool) (piece : Piece (List Fragment)) : String :=
  let queue (fragments : List Fragment) :=
    writeSequence (fragments.map fun fragment => fragment.display printable)
  let edited := writeOptional (fun fragment => fragment.display printable) piece.edited
  s!"Chunk(span={piece.span.display}, edited_content={edited}, " ++
    s!"intro={queue piece.intro}, outro={queue piece.outro}, " ++
    s!"next={writeOptional toString piece.next}, store_name={writeFlag piece.storeName})"

end Patchwork
