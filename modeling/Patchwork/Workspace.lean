import Patchwork.Cursor
import Patchwork.Piece.Display
import Patchwork.Store.Change

/-! # The workspace

The cap in force, a store and the cursors that read it. An action is one use of the
library on handles and ready values, and a workspace performs it: the reply or fault, the
workspace afterwards and the records written. Questions leave the workspace as it is.
-/
namespace Patchwork

structure Workspace where
  cap : Int := defaultCap
  store : Store := {}
  cursors : Array Cursor := #[]

/-- What can be asked without changing anything. -/
inductive Question
  | offset (value : Int)
  | span (start stop : Int)
  | measure (span : Span)
  | spanText (span : Span) (source : Content)
  | wrap (content : Content)
  | borrow (source : String) (span : Span)
  | size (arena : Nat)
  | slot (arena : Nat) (index : Int)
  | listing (arena : Nat)
  | bounds (piece : Nat)
  | contains (piece : Nat) (offset : Int)
  | isEdited (piece : Nat)
  | compare (left right : Nat)
  | display (piece : Nat)
  | fragments (piece : Nat) (source : Content)
  | walk (arena : Nat) (head : Int)
  | output (arena : Nat) (head : Int) (source : Content)
  | render (arena : Nat) (head : Int) (source : Content)

inductive Action
  | setCap (cap : Int)
  | ask (question : Question)
  | openArena
  | create (view : PieceView)
  | push (arena : Nat) (piece : Nat)
  | decorate (piece : Nat) (side : Side) (place : Place) (content : Content)
  | edit (piece : Nat) (content : Content) (policy : EditPolicy)
  | divide (piece : Nat) (offset : Int)
  | divideSlot (arena : Nat) (index offset : Int)
  | setNext (piece : Nat) (next : Option Int)
  | setStoreName (piece : Nat) (storeName : Bool)
  | setSpan (piece : Nat) (span : Span)
  | setEdited (piece : Nat) (content : Option Content)
  | openWalk (arena : Nat) (head : Int)
  | openListing (arena : Nat)
  | openParts (piece : Nat) (source : Content)
  | openOutput (arena : Nat) (head : Int) (source : Content)
  | pull (cursor : Nat) (count : Nat)

inductive Reply
  | done
  | flag (value : Bool)
  | number (value : Nat)
  | text (value : String)
  | texts (values : List String)
  | span (value : Span)
  | measured (value : Span) (length : Nat)
  | fragment (value : Fragment)
  | comparison (equal same : Bool)
  | views (values : List PieceView)
  | batch (value : Batch)
  | arena (id : Nat)
  | piece (id : Nat)
  | half (id : Nat) (view : PieceView)
  | cursor (id : Nat)

namespace Workspace

def answer (printable : Char → Bool) (workspace : Workspace) : Question → Except Fault Reply
  | .offset value => (checkOffset workspace.cap value).map .number
  | .span start stop => (Span.ofBounds workspace.cap start stop).map .span
  | .measure span => span.measure.map (.measured span)
  | .spanText span source => (span.read source.text).map .text
  | .wrap content => (content.toFragment workspace.cap).map .fragment
  | .borrow source span => (Fragment.borrow workspace.cap source span).map .fragment
  | .size arena => .ok (.number (workspace.store.arena arena).size)
  | .slot arena index => (workspace.store.get arena index).map .piece
  | .listing arena => .ok (.views (workspace.store.listing arena))
  | .bounds piece => .ok (.span (workspace.store.stored piece).span)
  | .contains piece offset => .ok (.flag ((workspace.store.stored piece).contains offset))
  | .isEdited piece => .ok (.flag (workspace.store.stored piece).isEdited)
  | .compare left right =>
    .ok (.comparison (workspace.store.piece left == workspace.store.piece right) (left == right))
  | .display piece => .ok (.text ((workspace.store.piece piece).display printable))
  | .fragments piece source => ((workspace.store.piece piece).output source.text).map .texts
  | .walk arena head =>
    .ok (.batch (.ofDelivery (fun step => .slot step.1 (workspace.store.stored step.2).span)
      (workspace.store.trail arena head)))
  | .output arena head source =>
    .ok (.batch (.ofDelivery .text (workspace.store.output arena head source.text)))
  | .render arena head source => (workspace.store.render arena head source.text).map .text

end Workspace

/-- What performing an action comes to. -/
structure Performance where
  reply : Except Fault Reply
  workspace : Workspace
  log : List Event := []

namespace Workspace

def settle {α : Type} (workspace : Workspace) (reply : α → Reply) (outcome : Outcome α) :
    Performance :=
  { reply := outcome.result.map reply
    workspace := { workspace with store := outcome.store }
    log := outcome.log }

def withStore (workspace : Workspace) (store : Store) : Performance :=
  { reply := .ok .done, workspace := { workspace with store } }

def openCursor (workspace : Workspace) (cursor : Cursor) : Performance :=
  { reply := .ok (.cursor workspace.cursors.size)
    workspace := { workspace with cursors := workspace.cursors.push cursor } }

def refuse (workspace : Workspace) (fault : Fault) : Performance :=
  { reply := .error fault, workspace }

def perform (printable : Char → Bool) (workspace : Workspace) : Action → Performance
  | .setCap cap => { reply := .ok .done, workspace := { workspace with cap } }
  | .ask question => { reply := workspace.answer printable question, workspace }
  | .openArena => workspace.settle .arena workspace.store.openArena
  | .create view => workspace.settle .piece (workspace.store.create view)
  | .push arena piece => workspace.settle .number (workspace.store.push arena piece)
  | .decorate piece side place content =>
    workspace.settle (fun _ => .done)
      (workspace.store.decorate workspace.cap piece side place content)
  | .edit piece content policy =>
    workspace.settle (fun _ => .done) (workspace.store.edit workspace.cap piece content policy)
  | .divide piece offset =>
    let outcome := workspace.store.divide workspace.cap piece offset
    workspace.settle (fun right => .half right (outcome.store.piece right)) outcome
  | .divideSlot arena index offset =>
    workspace.settle .number (workspace.store.divideSlot workspace.cap arena index offset)
  | .setNext piece next => workspace.withStore (workspace.store.setNext piece next)
  | .setStoreName piece storeName =>
    workspace.withStore (workspace.store.setStoreName piece storeName)
  | .setSpan piece span => workspace.withStore (workspace.store.setSpan piece span)
  | .setEdited piece none => workspace.withStore (workspace.store.setEdited piece none)
  | .setEdited piece (some content) =>
    match content.toFragment workspace.cap with
    | .error fault => workspace.refuse fault
    | .ok fragment => workspace.withStore (workspace.store.setEdited piece (some fragment))
  | .openWalk arena head => workspace.openCursor (.walk { arena, head })
  | .openListing arena => workspace.openCursor (.listing { arena })
  | .openParts piece source =>
    match Part.ofPiece workspace.store piece source.text with
    | .error fault => workspace.refuse fault
    | .ok parts => workspace.openCursor (.parts parts)
  | .openOutput arena head source =>
    workspace.openCursor (.output { walk := { arena, head }, source := source.text })
  | .pull cursor count =>
    match workspace.cursors[cursor]? with
    | none => { reply := .ok (.batch ⟨[], .stopped⟩), workspace }
    | some current =>
      let (batch, later) := current.pull workspace.store count
      { reply := .ok (.batch batch)
        workspace := { workspace with cursors := workspace.cursors.setIfInBounds cursor later } }

/-- A list of actions, one after the other whether or not they are refused. -/
def run (printable : Char → Bool) (workspace : Workspace) (actions : List Action) : Workspace :=
  actions.foldl (fun workspace action => (workspace.perform printable action).workspace) workspace

@[simp] theorem run_nil (printable : Char → Bool) (workspace : Workspace) :
    workspace.run printable [] = workspace := rfl

@[simp] theorem run_cons (printable : Char → Bool) (workspace : Workspace) (action : Action)
    (actions : List Action) : workspace.run printable (action :: actions) =
      (workspace.perform printable action).workspace.run printable actions := rfl

theorem run_keeps {printable : Char → Bool} {allowed : Action → Prop} (kept : Workspace → Prop)
    (step : ∀ {workspace action}, kept workspace → allowed action →
      kept (workspace.perform printable action).workspace)
    {workspace : Workspace} {actions : List Action} (start : kept workspace)
    (only : ∀ action ∈ actions, allowed action) : kept (workspace.run printable actions) := by
  induction actions generalizing workspace with
  | nil => exact start
  | cons action actions ih =>
    obtain ⟨first, rest⟩ := List.forall_mem_cons.mp only
    exact ih (step start first) rest

def performances (printable : Char → Bool) : Workspace → List Action → List Performance
  | _, [] => []
  | workspace, action :: actions =>
    let performance := workspace.perform printable action
    performance :: performance.workspace.performances printable actions

end Workspace

end Patchwork
