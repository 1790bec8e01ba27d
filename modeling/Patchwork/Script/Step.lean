import Patchwork.Script.Inquiry

/-! # Steps of a script

A step is one action on named values. It is first turned into an action, which can fail
without touching anything; then the workspace performs the action and a result may get a
name. A step tells about the piece it is aimed at, once that piece has been found, even if
the step fails afterwards.
-/
namespace Patchwork.Script

structure Draft where
  span : SpanExpr
  edited : Option TextExpr := none
  intro : List TextExpr := []
  outro : List TextExpr := []
  next : Option Int := none
  storeName : Bool := false

inductive Step
  | setCap (value : Int)
  | span (start stop : Int) (name : Option String)
  | spanText (span : SpanExpr) (source : TextExpr)
  | fragment (value : TextExpr) (name : Option String)
  | arena (name : String)
  | create (draft : Draft) (name : Option String)
  | push (arena : String) (piece : PieceExpr)
  | get (arena : String) (index : Int) (name : Option String)
  | size (arena : String)
  | listing (arena : String)
  | decorate (side : Side) (place : Place) (piece : PieceExpr) (text : TextExpr)
  | edit (piece : PieceExpr) (text : TextExpr) (options : Option Datum)
  | setNext (piece : PieceExpr) (next : Option Int)
  | setStoreName (piece : PieceExpr) (storeName : Bool)
  | setSpan (piece : PieceExpr) (span : SpanExpr)
  | setEdited (piece : PieceExpr) (text : Option TextExpr)
  | bounds (piece : PieceExpr)
  | contains (piece : PieceExpr) (offset : Int)
  | isEdited (piece : PieceExpr)
  | divide (piece : PieceExpr) (offset : Int) (name : Option String)
  | divideSlot (arena : String) (index offset : Int)
  | fragments (piece : PieceExpr) (source : TextExpr)
  | walk (arena : String) (head : Int)
  | output (arena : String) (head : Int) (source : TextExpr)
  | render (arena : String) (head : Int) (source : TextExpr)
  | openWalk (arena : String) (head : Int) (name : String)
  | openParts (piece : PieceExpr) (source : TextExpr) (name : String)
  | openOutput (arena : String) (head : Int) (source : TextExpr) (name : String)
  | openListing (arena : String) (name : String)
  | pull (cursor : String) (count : Nat)
  | compare (left right : PieceExpr)
  | display (piece : PieceExpr)

def Step.name? : Step → Option String
  | .span _ _ name | .fragment _ name | .create _ name | .get _ _ name | .divide _ _ name => name
  | .arena name | .openWalk _ _ name | .openParts _ _ name | .openOutput _ _ _ name
  | .openListing _ name => some name
  | _ => none

def Binding.ofReply : Reply → Option Binding
  | .span value | .measured value _ => some (.span value)
  | .fragment value => some (.fragment value)
  | .arena id => some (.arena id)
  | .piece id => some (.piece id)
  | .half id _ => some (.piece id)
  | .cursor id => some (.cursor id)
  | _ => none

namespace Scene

def view (scene : Scene) (draft : Draft) : Result PieceView := do
  let span ← scene.span draft.span
  let edited ← draft.edited.mapM scene.fragment
  let intro ← draft.intro.mapM scene.fragment
  let outro ← draft.outro.mapM scene.fragment
  .ok { span, edited, intro, outro, next := draft.next, storeName := draft.storeName }

def action (scene : Scene) : Step → Result Action
  | .setCap value => .ok (.setCap value)
  | .span start stop _ => do
    let span ← scene.span (.bounds start stop)
    .ok (.ask (.measure span))
  | .spanText span source => do
    let span ← scene.span span
    let source ← scene.content source
    .ok (.ask (.spanText span source))
  | .fragment value _ => do
    let content ← scene.content value
    .ok (.ask (.wrap content))
  | .arena _ => .ok .openArena
  | .create draft _ => do
    let view ← scene.view draft
    .ok (.create view)
  | .push arena piece => do
    let arena ← scene.arena arena
    let piece ← scene.piece piece
    .ok (.push arena piece)
  | .get arena index _ => do
    let arena ← scene.arena arena
    .ok (.ask (.slot arena index))
  | .size arena => do
    let arena ← scene.arena arena
    .ok (.ask (.size arena))
  | .listing arena => do
    let arena ← scene.arena arena
    .ok (.ask (.listing arena))
  | .decorate side place piece text => do
    let piece ← scene.piece piece
    let content ← scene.content text
    .ok (.decorate piece side place content)
  | .edit piece text options => do
    let piece ← scene.piece piece
    let content ← scene.content text
    let policy ← policyOf options
    .ok (.edit piece content policy)
  | .setNext piece next => do
    let piece ← scene.piece piece
    .ok (.setNext piece next)
  | .setStoreName piece storeName => do
    let piece ← scene.piece piece
    .ok (.setStoreName piece storeName)
  | .setSpan piece span => do
    let piece ← scene.piece piece
    let span ← scene.span span
    .ok (.setSpan piece span)
  | .setEdited piece text => do
    let piece ← scene.piece piece
    let content ← text.mapM scene.content
    .ok (.setEdited piece content)
  | .bounds piece => do
    let piece ← scene.piece piece
    .ok (.ask (.bounds piece))
  | .contains piece offset => do
    let piece ← scene.piece piece
    .ok (.ask (.contains piece offset))
  | .isEdited piece => do
    let piece ← scene.piece piece
    .ok (.ask (.isEdited piece))
  | .divide piece offset _ => do
    let piece ← scene.piece piece
    .ok (.divide piece offset)
  | .divideSlot arena index offset => do
    let arena ← scene.arena arena
    .ok (.divideSlot arena index offset)
  | .fragments piece source => do
    let piece ← scene.piece piece
    let source ← scene.content source
    .ok (.ask (.fragments piece source))
  | .walk arena head => do
    let arena ← scene.arena arena
    .ok (.ask (.walk arena head))
  | .output arena head source => do
    let arena ← scene.arena arena
    let source ← scene.content source
    .ok (.ask (.output arena head source))
  | .render arena head source => do
    let arena ← scene.arena arena
    let source ← scene.content source
    .ok (.ask (.render arena head source))
  | .openWalk arena head _ => do
    let arena ← scene.arena arena
    .ok (.openWalk arena head)
  | .openParts piece source _ => do
    let piece ← scene.piece piece
    let source ← scene.content source
    .ok (.openParts piece source)
  | .openOutput arena head source _ => do
    let arena ← scene.arena arena
    let source ← scene.content source
    .ok (.openOutput arena head source)
  | .openListing arena _ => do
    let arena ← scene.arena arena
    .ok (.openListing arena)
  | .pull cursor count => do
    let cursor ← scene.cursor cursor
    .ok (.pull cursor count)
  | .compare left right => do
    let left ← scene.piece left
    let right ← scene.piece right
    .ok (.ask (.compare left right))
  | .display piece => do
    let piece ← scene.piece piece
    .ok (.ask (.display piece))

/-- The piece a step is aimed at and tells about, if it can be found. -/
def subject? (scene : Scene) : Step → Option Nat
  | .push arena piece =>
    match scene.arena arena with
    | .ok _ => (scene.piece piece).toOption
    | .error _ => none
  | .decorate _ _ piece _ | .edit piece _ _ | .setNext piece _ | .setStoreName piece _
  | .setSpan piece _ | .setEdited piece _ | .bounds piece | .divide piece _ _ =>
    (scene.piece piece).toOption
  | .divideSlot arena index _ => (scene.piece (.slot arena index)).toOption
  | _ => none

end Scene

structure Answer where
  result : Result Reply
  subject : Option PieceView
  log : List Event

namespace Scene

/-- A step without a subject tells about the piece that its reply stands for. -/
def subjectAfter (subject : Option Nat) (reply : Except Fault Reply) : Option Nat :=
  match subject, reply with
  | some piece, _ => some piece
  | none, .ok (.piece piece) => some piece
  | none, _ => none

def named (scene : Scene) (name? : Option String) : Except Fault Reply → Scene
  | .ok reply =>
    match name?, Binding.ofReply reply with
    | some name, some binding => scene.bind name binding
    | _, _ => scene
  | .error _ => scene

def perform (printable : Char → Bool) (scene : Scene) (step : Step) : Answer × Scene :=
  let subject := scene.subject? step
  match scene.action step with
  | .error failure =>
    ({ result := .error failure, subject := subject.map scene.workspace.store.piece, log := [] }, scene)
  | .ok action =>
    let done := scene.workspace.perform printable action
    ({ result := .ofFault done.reply
       subject := (subjectAfter subject done.reply).map done.workspace.store.piece
       log := done.log },
     { scene with workspace := done.workspace }.named step.name? done.reply)

end Scene

/-- The state of a name at the end of a script; only arenas and pieces have one. -/
inductive State
  | arena (views : List PieceView)
  | piece (view : PieceView)

namespace Scene

def states (scene : Scene) : List (String × State) :=
  scene.names.filterMap fun
    | (name, .arena id) => some (name, .arena (scene.workspace.store.listing id))
    | (name, .piece id) => some (name, .piece (scene.workspace.store.piece id))
    | _ => none

/-- A failed step does not keep the steps after it from running. -/
def run (printable : Char → Bool) : Scene → List Step → List Answer × Scene
  | scene, [] => ([], scene)
  | scene, step :: steps =>
    let (answer, scene) := scene.perform printable step
    let (answers, last) := scene.run printable steps
    (answer :: answers, last)

end Scene

end Patchwork.Script
