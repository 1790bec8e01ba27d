import Mathlib.Data.List.Pairwise
import Patchwork.EditPolicy
import Patchwork.Fragment
import Patchwork.Proofs.Tiling

/-! # Substituted texts

What a source becomes when texts are put in the place of some of its spans, position by
position: a position where a span starts becomes its text, a later position of the span
becomes nothing, and every other position stays. The spans do not overlap, so the order in
which they are given does not matter. Over a span that is replaced, and over one that no
replacement touches, the positions join to the replacing text and to the slice of the source.
-/
namespace Patchwork

/-- A span of a source, what is to stand in its place, and how to edit it in. -/
structure Replacement where
  span : Span
  content : Content
  policy : EditPolicy := {}

/-- What a position of a source becomes. -/
def substitutedAt (replacements : List Replacement) (source : String) (position : Nat) : String :=
  match replacements.find? fun replacement => replacement.span.start == position with
  | some replacement => replacement.content.text
  | none =>
    if replacements.any fun replacement => decide (replacement.span.Inside position) then ""
    else slice source position (position + 1)

/-- A source with every span replaced by its text. -/
def substituted (replacements : List Replacement) (source : String) : String :=
  String.join ((List.range source.length).map (substitutedAt replacements source))

/-- Replacements of spans that do not overlap. -/
def Separate (replacements : List Replacement) : Prop :=
  replacements.Pairwise fun first second => first.span.Apart second.span

namespace Separate

variable {replacements : List Replacement} {source : String}

theorem perm (separate : Separate replacements) {order : List Replacement}
    (ordered : replacements.Perm order) : Separate order :=
  (ordered.pairwise_iff Span.Apart.symm).mp separate

theorem apart (separate : Separate replacements) {first second : Replacement}
    (among : first ∈ replacements) (among' : second ∈ replacements) (different : first ≠ second) :
    first.span.Apart second.span := by
  have symmetric : Std.Symm fun first second : Replacement => first.span.Apart second.span :=
    ⟨fun _ _ => Span.Apart.symm⟩
  exact List.Pairwise.forall separate among among' different

theorem eq_of_common (separate : Separate replacements) {first second : Replacement}
    (among : first ∈ replacements) (among' : second ∈ replacements) (position : Nat)
    (covers : first.span.start ≤ position ∧ position < first.span.stop)
    (covers' : second.span.start ≤ position ∧ position < second.span.stop) : first = second := by
  by_contra different
  have apart := separate.apart among among' different
  simp only [Span.Apart] at apart
  omega

/-- No replacement reaches over an edge of another, nor over its own. -/
theorem not_inside_edge (separate : Separate replacements) {first second : Replacement}
    (among : first ∈ replacements) (among' : second ∈ replacements) {position : Nat}
    (edge : position = second.span.start ∨ position = second.span.stop) :
    ¬first.span.Inside position := by
  rintro ⟨above, below⟩
  have order := second.span.start_lt_stop
  by_cases same : first = second
  · subst same
    omega
  · have apart := separate.apart among among' same
    simp only [Span.Apart] at apart
    omega

theorem substitutedAt_start (separate : Separate replacements) {replacement : Replacement}
    (among : replacement ∈ replacements) :
    substitutedAt replacements source replacement.span.start = replacement.content.text := by
  have order := replacement.span.start_lt_stop
  unfold substitutedAt
  split
  · rename_i found given
    have starts := List.find?_some given
    have order' := found.span.start_lt_stop
    simp only [beq_iff_eq] at starts
    rw [separate.eq_of_common (List.mem_of_find?_eq_some given) among replacement.span.start
      ⟨by omega, by omega⟩ ⟨by omega, by omega⟩]
  · rename_i missing
    have differs := List.find?_eq_none.mp missing replacement among
    simp at differs

theorem substitutedAt_inside (separate : Separate replacements) {replacement : Replacement}
    (among : replacement ∈ replacements) {position : Nat}
    (inside : replacement.span.Inside position) :
    substitutedAt replacements source position = "" := by
  obtain ⟨above, below⟩ := inside
  unfold substitutedAt
  split
  · rename_i found given
    have starts := List.find?_some given
    have order := found.span.start_lt_stop
    simp only [beq_iff_eq] at starts
    have same := separate.eq_of_common (List.mem_of_find?_eq_some given) among position
      ⟨by omega, by omega⟩ ⟨by omega, by omega⟩
    subst same
    omega
  · rw [if_pos]
    exact List.any_eq_true.mpr ⟨replacement, among, decide_eq_true ⟨above, below⟩⟩

end Separate

variable {replacements : List Replacement} {source : String}

theorem substitutedAt_clear {position : Nat} (clear : ∀ replacement ∈ replacements,
    ¬(replacement.span.start ≤ position ∧ position < replacement.span.stop)) :
    substitutedAt replacements source position = slice source position (position + 1) := by
  unfold substitutedAt
  split
  · rename_i found given
    have starts := List.find?_some given
    have order := found.span.start_lt_stop
    have free := clear found (List.mem_of_find?_eq_some given)
    simp only [beq_iff_eq] at starts
    omega
  · rw [if_neg]
    intro some
    obtain ⟨replacement, among, inside⟩ := List.any_eq_true.mp some
    have within := of_decide_eq_true inside
    have free := clear replacement among
    simp only [Span.Inside] at within
    omega

/-- What the positions of a span become together. -/
def substitutedOver (replacements : List Replacement) (source : String) (span : Span) : String :=
  String.join ((List.range' span.start span.length).map (substitutedAt replacements source))

theorem substitutedOver_of_mem (separate : Separate replacements) {replacement : Replacement}
    (among : replacement ∈ replacements) :
    substitutedOver replacements source replacement.span = replacement.content.text := by
  obtain ⟨rest, count⟩ := Nat.exists_eq_add_one_of_ne_zero
    (Nat.ne_of_gt replacement.span.length_pos)
  have stop : replacement.span.stop = replacement.span.start + rest + 1 := by
    have order := replacement.span.start_lt_stop
    simp only [Span.length] at count
    omega
  have blank : (List.range' (replacement.span.start + 1) rest).map
      (substitutedAt replacements source) = List.replicate rest "" := by
    apply List.eq_replicate_iff.mpr
    refine ⟨by simp, fun text shown => ?_⟩
    obtain ⟨position, inside, rfl⟩ := List.mem_map.mp shown
    rw [List.mem_range'_1] at inside
    exact separate.substitutedAt_inside among ⟨by omega, by omega⟩
  rw [substitutedOver, count, List.range'_succ, List.map_cons, blank,
    separate.substitutedAt_start among, String.join_cons, join_blank, String.append_empty]

theorem substitutedOver_of_apart {span : Span}
    (apart : ∀ replacement ∈ replacements, replacement.span.Apart span) :
    substitutedOver replacements source span = slice source span.start span.stop := by
  have order := span.start_lt_stop
  have kept : (List.range' span.start span.length).map (substitutedAt replacements source) =
      (List.range' span.start span.length).map fun position =>
        slice source position (position + 1) := by
    apply List.map_congr_left
    intro position covered
    apply substitutedAt_clear
    intro replacement among both
    rw [List.mem_range'_1] at covered
    have free := apart replacement among
    simp only [Span.Apart, Span.length] at free covered
    omega
  rw [substitutedOver, kept, join_slices, Span.length]
  congr 1
  omega

theorem Consecutive.join_substitutedOver {low high : Nat} {spans : List Span}
    (tiles : Consecutive low spans high) :
    String.join (spans.map (substitutedOver replacements source)) =
      String.join ((List.range' low (high - low)).map (substitutedAt replacements source)) :=
  tiles.join_positions _

end Patchwork
