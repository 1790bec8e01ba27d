import Patchwork.EditPolicy
import Patchwork.Script.Expr

/-! # Inquiries

Single questions about values, asked in a scene of their own: checks, comparisons and
readings that need no pieces.
-/
namespace Patchwork.Script

inductive Inquiry
  | offset (value : Int)
  | span (start stop : Int) (source : Option TextExpr)
  | sameSpan (left right : SpanExpr)
  | fragment (value : TextExpr)
  /-- The right-hand side is absent when it is not text. -/
  | sameText (left : TextExpr) (right : Option TextExpr)
  | policy (data : Option Datum)

inductive Finding
  | offset (value : Nat)
  | span (span : Span) (length : Nat) (text : Option String)
  | sameSpan (equal : Bool) (distinct : Nat)
  | fragment (fragment : Fragment)
  | sameText (comparison : Comparison) (distinct : Option Nat)
  | policy (policy : EditPolicy)

/-- A hash of texts. Which one it is shows nowhere. -/
def textHash (text : String) : Int := (hash text).toNat

/-- The policy that options ask for. Without options it is the default policy. -/
def policyOf (options : Option Datum) : Result EditPolicy :=
  match options with
  | none => .ok {}
  | some datum => (EditPolicy.ofDatum datum).mapError .options

namespace Scene

def inquire (scene : Scene) : Inquiry → Result Finding
  | .offset value => do
    let offset ← Result.ofFault (checkOffset scene.workspace.cap value)
    .ok (.offset offset)
  | .span start stop source => do
    let span ← scene.span (.bounds start stop)
    let length ← Result.ofFault span.measure
    let text ← source.mapM fun source => do
      let content ← scene.content source
      Result.ofFault (span.read content.text)
    .ok (.span span length text)
  | .sameSpan left right => do
    let left ← scene.span left
    let right ← scene.span right
    .ok (.sameSpan (left == right) (distinctCount [left, right]))
  | .fragment value => do
    let fragment ← scene.fragment value
    .ok (.fragment fragment)
  | .sameText left right => do
    let fragment ← scene.fragment left
    let content ← right.mapM scene.content
    .ok (.sameText (fragment.compare content)
      (content.map fun content => Content.distinct textHash [.wrapped fragment, content]))
  | .policy data => do
    let policy ← policyOf data
    .ok (.policy policy)

end Scene

end Patchwork.Script
