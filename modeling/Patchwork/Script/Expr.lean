import Patchwork.Workspace

/-! # Expressions of a script

A script names what it makes and uses it later by name. A scene is a workspace with the
names bound so far. Expressions are evaluated in a scene, their parts from left to right,
and the first failure is the failure of the whole.
-/
namespace Patchwork.Script

inductive SpanExpr
  | bounds (start stop : Int)
  | named (name : String)

inductive TextExpr
  | plain (text : String)
  | own (inner : TextExpr)
  | borrow (source : String) (span : SpanExpr)
  | named (name : String)

inductive PieceExpr
  | named (name : String)
  | slot (arena : String) (index : Int)

inductive Binding
  | span (span : Span)
  | fragment (fragment : Fragment)
  | arena (arena : Nat)
  | piece (piece : Nat)
  | cursor (cursor : Nat)

inductive Failure
  | fault (fault : Fault)
  | options (errors : List OptionError)
  | unbound (name : String)

abbrev Result := Except Failure

def Result.ofFault {α : Type} (result : Except Fault α) : Result α := result.mapError .fault

structure Scene where
  workspace : Workspace := {}
  names : List (String × Binding) := []

namespace Scene

/-- A later binding of a name replaces the earlier one. -/
def bind (scene : Scene) (name : String) (binding : Binding) : Scene :=
  { scene with names := (name, binding) :: scene.names.filter fun entry => entry.1 != name }

def lookup? (scene : Scene) (name : String) : Option Binding := scene.names.lookup name

theorem lookup?_bind_self (scene : Scene) (name : String) (binding : Binding) :
    (scene.bind name binding).lookup? name = some binding := by
  simp [lookup?, bind]

theorem lookup?_bind_of_ne (scene : Scene) {name other : String} (binding : Binding)
    (different : other ≠ name) : (scene.bind name binding).lookup? other = scene.lookup? other := by
  have unlike : (other == name) = false := beq_eq_false_iff_ne.mpr different
  simp only [lookup?, bind, List.lookup_cons, unlike]
  induction scene.names with
  | nil => rfl
  | cons entry rest ih =>
    obtain ⟨key, value⟩ := entry
    by_cases same : key = name
    · subst same
      simpa [List.lookup_cons, unlike] using ih
    · by_cases hit : other = key
      · simp [same, hit]
      · have missed : (other == key) = false := beq_eq_false_iff_ne.mpr hit
        simpa [List.filter_cons, same, List.lookup_cons, missed] using ih

/-- What a name stands for. A name bound to another kind of value counts as unbound. -/
def resolve {α : Type} (scene : Scene) (select : Binding → Option α) (name : String) : Result α :=
  match (scene.lookup? name).bind select with
  | some value => .ok value
  | none => .error (.unbound name)

def arena (scene : Scene) : String → Result Nat :=
  scene.resolve fun
    | .arena id => some id
    | _ => none

def cursor (scene : Scene) : String → Result Nat :=
  scene.resolve fun
    | .cursor id => some id
    | _ => none

def span (scene : Scene) : SpanExpr → Result Span
  | .bounds start stop => .ofFault (Span.ofBounds scene.workspace.cap start stop)
  | .named name =>
    scene.resolve (fun
      | .span span => some span
      | _ => none) name

def content (scene : Scene) : TextExpr → Result Content
  | .plain text => .ok (.plain text)
  | .own inner => do
    let content ← scene.content inner
    let fragment ← Result.ofFault (content.toFragment scene.workspace.cap)
    .ok (.wrapped fragment)
  | .borrow source span => do
    let span ← scene.span span
    let fragment ← Result.ofFault (Fragment.borrow scene.workspace.cap source span)
    .ok (.wrapped fragment)
  | .named name =>
    (scene.resolve (fun
      | .fragment fragment => some fragment
      | _ => none) name).map .wrapped

def fragment (scene : Scene) (expr : TextExpr) : Result Fragment := do
  let content ← scene.content expr
  .ofFault (content.toFragment scene.workspace.cap)

def piece (scene : Scene) : PieceExpr → Result Nat
  | .named name =>
    scene.resolve (fun
      | .piece id => some id
      | _ => none) name
  | .slot arena index => do
    let arena ← scene.arena arena
    .ofFault (scene.workspace.store.get arena index)

end Scene

end Patchwork.Script
