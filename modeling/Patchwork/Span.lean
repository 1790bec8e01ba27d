import Patchwork.Text.Slice

/-! # Spans of a source text

A span is a non-empty half-open range of positions, and cuts out the slice of a source
that lies between its ends.
-/
namespace Patchwork

@[ext] structure Span where
  start : Nat
  stop : Nat
  start_lt_stop : start < stop
deriving DecidableEq

namespace Span

def length (span : Span) : Nat := span.stop - span.start

theorem length_pos (span : Span) : 0 < span.length := by
  have := span.start_lt_stop
  simp only [length]
  omega

/-- An offset lies inside when it cuts the span into two non-empty parts. -/
def Inside (span : Span) (offset : Int) : Prop := span.start < offset ∧ offset < span.stop

instance (span : Span) (offset : Int) : Decidable (span.Inside offset) :=
  inferInstanceAs (Decidable (_ ∧ _))

def Apart (first second : Span) : Prop := first.stop ≤ second.start ∨ second.stop ≤ first.start

theorem Apart.symm {first second : Span} (apart : first.Apart second) : second.Apart first :=
  Or.symm apart

/-- The part of a source that the span covers. -/
def cut (span : Span) (source : String) : String := slice source span.start span.stop

theorem length_cut {span : Span} {source : String} (fits : span.stop ≤ source.length) :
    (span.cut source).length = span.length := length_slice fits

theorem cut_ne_empty {span : Span} {source : String} (fits : span.stop ≤ source.length) :
    span.cut source ≠ "" := by
  intro empty
  have long := length_cut fits
  have short := span.length_pos
  rw [empty] at long
  simp only [String.length_empty] at long
  omega

/-- Square and round bracket: the start is covered and the stop is not. -/
def brackets (span : Span) : String := s!"[{span.start}, {span.stop})"

end Span

end Patchwork
