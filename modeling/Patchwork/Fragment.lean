import Patchwork.Limit

/-! # Fragments

A fragment is a text held outright or a view of part of a source. Which of the two
it is shows in its printed form only: length, text and equality see the text. Texts
come plain or as fragments, and are compared and put into sets in either form.
-/
namespace Patchwork

inductive Fragment
  | owned (text : String)
  | borrowed (source : String) (span : Span) (fits : span.stop ≤ source.length)

namespace Fragment

def text : Fragment → String
  | owned text => text
  | borrowed source span _ => span.cut source

/-- The number of code points, known without reading a view's source. -/
def length : Fragment → Nat
  | owned text => text.length
  | borrowed _ span _ => span.length

theorem length_text (fragment : Fragment) : fragment.text.length = fragment.length := by
  cases fragment with
  | owned text => rfl
  | borrowed source span fits => exact Span.length_cut fits

def isBorrowed : Fragment → Bool
  | owned _ => false
  | borrowed .. => true

/-- Fragments are compared by their texts. -/
instance : BEq Fragment := ⟨fun a b => a.text == b.text⟩

@[simp] theorem beq_iff {a b : Fragment} : (a == b) = true ↔ a.text = b.text := by
  change (a.text == b.text) = true ↔ _
  exact beq_iff_eq

/-- A view of part of a source: the part has to fit the source, then the cap. -/
def borrow (cap : Int) (source : String) (span : Span) : Except Fault Fragment :=
  if fits : span.stop ≤ source.length then
    (checkLength cap span.length).map fun _ => borrowed source span fits
  else .error (.spanPastEnd span source.length)

end Fragment

inductive Content
  | plain (text : String)
  | wrapped (fragment : Fragment)

namespace Content

def text : Content → String
  | plain text => text
  | wrapped fragment => fragment.text

/-- A plain text is measured and owned. A fragment was measured when it was made and is kept as it is. -/
def toFragment (cap : Int) : Content → Except Fault Fragment
  | plain text => (checkLength cap text.length).map fun _ => .owned text
  | wrapped fragment => .ok fragment

theorem text_of_toFragment {cap : Int} {content : Content} {fragment : Fragment}
    (kept : content.toFragment cap = .ok fragment) : fragment.text = content.text := by
  cases content with
  | wrapped inner =>
    cases kept
    rfl
  | plain text =>
    cases measured : checkLength cap text.length with
    | error fault => simp [toFragment, measured, Except.map] at kept
    | ok length =>
      simp only [toFragment, measured, Except.map, Except.ok.injEq] at kept
      subst kept
      rfl

theorem exists_toFragment {cap : Int} {content : Content} (short : content.text.length ≤ cap) :
    ∃ fragment, content.toFragment cap = .ok fragment := by
  cases content with
  | wrapped fragment => exact ⟨fragment, rfl⟩
  | plain text =>
    have measured : checkLength cap text.length = .ok text.length :=
      checkLength_eq_ok_iff.mpr ⟨rfl, short⟩
    exact ⟨.owned text, by simp [toFragment, measured, Except.map]⟩

end Content

/-- How many values remain when equal ones are counted once. -/
def distinctCount {α : Type} [BEq α] (values : List α) : Nat := values.eraseDups.length

/-- Whether a compared value is text, and the same text. -/
def Fragment.sameText (fragment : Fragment) : Option Content → Bool
  | some content => fragment.text == content.text
  | none => false

namespace Content

/-- Comparison of two texts. A plain text leaves it to a fragment to compare the two. -/
def equals : Content → Content → Bool
  | .plain text, .plain other => text == other
  | .plain text, .wrapped fragment => fragment.sameText (some (.plain text))
  | .wrapped fragment, other => fragment.sameText (some other)

theorem equals_iff {a b : Content} : a.equals b = true ↔ a.text = b.text := by
  cases a with
  | wrapped fragment => exact beq_iff_eq
  | plain text =>
    cases b with
    | plain other => exact beq_iff_eq
    | wrapped fragment => exact beq_iff_eq.trans eq_comm

/-- A set takes two texts for one if they hash alike and are equal. -/
@[reducible] def setTest (hash : String → Int) : BEq Content :=
  ⟨fun a b => hash a.text == hash b.text && a.equals b⟩

theorem setTest_iff {hash : String → Int} {a b : Content} :
    (setTest hash).beq a b = true ↔ a.equals b = true := by
  change (hash a.text == hash b.text && a.equals b) = true ↔ _
  rw [Bool.and_eq_true, equals_iff, beq_iff_eq]
  exact and_iff_right_of_imp (congrArg hash)

def distinct (hash : String → Int) (values : List Content) : Nat :=
  @distinctCount Content (setTest hash) values

end Content

/-- What comparing two values tells: whether the first equals the second, whether it does not, and
whether the second equals the first. -/
structure Comparison where
  equal : Bool
  unequal : Bool
  reversed : Bool
deriving DecidableEq

/-- A comparison stands for its plain answer. -/
instance : Coe Comparison Bool := ⟨Comparison.equal⟩

/-- A fragment compared with a value that may be no text. Such a value leaves it to the fragment to
compare the two. -/
def Fragment.compare (fragment : Fragment) (other : Option Content) : Comparison :=
  { equal := fragment.sameText other
    unequal := !fragment.sameText other
    reversed :=
      match other with
      | some content => content.equals (.wrapped fragment)
      | none => fragment.sameText none }

end Patchwork
