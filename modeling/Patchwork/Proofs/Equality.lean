import Patchwork.Proofs.Frame
import Patchwork.Proofs.Locality
import Patchwork.Proofs.Split
import Patchwork.Proofs.Variant

/-! # Equal pieces answer alike

Two pieces are equal if they show the same texts in the same places, in whichever variants. What a call
comes to on a piece can be told from the piece as it is seen, the call and the cap, and variants make no
difference to it: they are replaced by owned texts before or after the call, all the same. So equal
pieces that are asked for the same give equal answers, refusals included, and stay equal.
-/
namespace Patchwork

namespace Content

/-- The same text in the same form: both plain, or both fragments in whichever variants. -/
def Alike : Content → Content → Prop
  | plain text, plain other => text = other
  | wrapped fragment, wrapped other => fragment.text = other.text
  | _, _ => False

instance decidableAlike : ∀ a b : Content, Decidable (a.Alike b)
  | plain text, plain other => inferInstanceAs (Decidable (text = other))
  | wrapped fragment, wrapped other => inferInstanceAs (Decidable (fragment.text = other.text))
  | plain _, wrapped _ | wrapped _, plain _ => inferInstanceAs (Decidable False)

def ownWrapped : Content → Content
  | plain text => .plain text
  | wrapped fragment => .wrapped fragment.toOwned

theorem Alike.ownWrapped_eq {a b : Content} (alike : a.Alike b) : a.ownWrapped = b.ownWrapped := by
  cases a <;> cases b
  · exact congrArg plain alike
  · exact alike.elim
  · exact alike.elim
  · exact congrArg wrapped (Fragment.toOwned_inj.mpr alike)

theorem toFragment_ownWrapped (cap : Int) (content : Content) :
    content.ownWrapped.toFragment cap = (content.toFragment cap).map Fragment.toOwned := by
  cases content with
  | wrapped fragment => rfl
  | plain text =>
    simp only [ownWrapped, toFragment]
    cases checkLength cap text.length <;> rfl

end Content

/-- A call that a piece answers on its own. -/
inductive Call
  | decorate (side : Side) (place : Place) (content : Content)
  | edit (content : Content) (policy : EditPolicy)
  | divide (offset : Int)

/-- What a call comes to: the right half, if it is a split, or a fault; the piece as it is seen afterwards;
and the records. -/
structure Answer where
  result : Except Fault (Option PieceView)
  after : PieceView
  log : List Event := []

namespace Piece

theorem toOwned_setQueue (view : PieceView) (side : Side) (fragments : List Fragment) :
    (view.setQueue side fragments).toOwned =
      view.toOwned.setQueue side (fragments.map Fragment.toOwned) := by
  cases side <;> rfl

theorem queue_toOwned (view : PieceView) (side : Side) :
    view.toOwned.queue side = (view.queue side).map Fragment.toOwned := by
  cases side <;> rfl

theorem split_toOwned (cap : Int) (view : PieceView) (offset : Int) :
    view.toOwned.split cap offset [] [] =
      (view.split cap offset [] []).map fun halves => (halves.1.toOwned, halves.2.toOwned) := by
  have moved := split_map (List.map Fragment.toOwned) cap view.ownEdited offset [] []
  rw [split_ownEdited] at moved
  refine moved.trans ?_
  cases view.split cap offset [] [] <;> rfl

/-- A piece as an edit leaves it before its new text is measured. -/
def withPolicy (view : PieceView) (policy : EditPolicy) : PieceView :=
  { view with
    intro := if policy.overwrite then [] else view.intro
    outro := if policy.overwrite then [] else view.outro
    storeName := policy.storeName }

theorem toOwned_withPolicy (view : PieceView) (policy : EditPolicy) :
    (view.withPolicy policy).toOwned = view.toOwned.withPolicy policy := by
  cases overwrites : policy.overwrite <;> simp [withPolicy, toOwned, ownEdited, map, overwrites]

end Piece

namespace Call

/-- What a call comes to on a piece that is seen as a given view. -/
def answer (cap : Int) (view : PieceView) : Call → Answer
  | decorate side place content =>
    match content.toFragment cap with
    | .error fault => { result := .error fault, after := view }
    | .ok fragment =>
      { result := .ok none
        after := view.setQueue side (place.insert fragment (view.queue side)) }
  | edit content policy =>
    match content.toFragment cap with
    | .error fault => { result := .error fault, after := view.withPolicy policy }
    | .ok fragment =>
      { result := .ok none
        after := { view.withPolicy policy with edited := some fragment }
        log := [.edited view.span policy] }
  | divide offset =>
    match view.split cap offset [] [] with
    | .error fault => { result := .error fault, after := view }
    | .ok (left, right) => { result := .ok (some right), after := left }

/-- The same call with texts that are alike. -/
def Alike : Call → Call → Prop
  | decorate side place content, decorate side' place' content' =>
    side = side' ∧ place = place' ∧ content.Alike content'
  | edit content policy, edit content' policy' => content.Alike content' ∧ policy = policy'
  | divide offset, divide offset' => offset = offset'
  | _, _ => False

instance decidableAlike : ∀ a b : Call, Decidable (a.Alike b)
  | decorate side place content, decorate side' place' content' =>
    inferInstanceAs (Decidable (side = side' ∧ place = place' ∧ content.Alike content'))
  | edit content policy, edit content' policy' =>
    inferInstanceAs (Decidable (content.Alike content' ∧ policy = policy'))
  | divide offset, divide offset' => inferInstanceAs (Decidable (offset = offset'))
  | decorate .., edit .. | decorate .., divide _ | edit .., decorate .. | edit .., divide _
  | divide _, decorate .. | divide _, edit .. => inferInstanceAs (Decidable False)

def ownWrapped : Call → Call
  | decorate side place content => .decorate side place content.ownWrapped
  | edit content policy => .edit content.ownWrapped policy
  | divide offset => .divide offset

theorem Alike.ownWrapped_eq {a b : Call} (alike : a.Alike b) : a.ownWrapped = b.ownWrapped := by
  cases a <;> cases b <;> first | exact alike.elim | skip
  · obtain ⟨rfl, rfl, texts⟩ := alike
    simp only [ownWrapped, texts.ownWrapped_eq]
  · obtain ⟨texts, rfl⟩ := alike
    simp only [ownWrapped, texts.ownWrapped_eq]
  · cases alike
    rfl

end Call

def Answer.toOwned (answer : Answer) : Answer :=
  { result := answer.result.map (Option.map Piece.toOwned)
    after := answer.after.toOwned
    log := answer.log }

/-- A call asks of the texts of a piece and of its own text what they are, and not how they are held. -/
theorem Call.answer_ownWrapped (call : Call) (cap : Int) (view : PieceView) :
    call.ownWrapped.answer cap view.toOwned = (call.answer cap view).toOwned := by
  cases call with
  | decorate side place content =>
    simp only [ownWrapped, answer, Content.toFragment_ownWrapped]
    cases content.toFragment cap with
    | error fault => rfl
    | ok fragment =>
      simp only [Except.map, Answer.toOwned, Piece.toOwned_setQueue, Piece.queue_toOwned,
        Place.map_insert]
      rfl
  | edit content policy =>
    simp only [ownWrapped, answer, Content.toFragment_ownWrapped]
    cases content.toFragment cap with
    | error fault => simp only [Except.map, Answer.toOwned, Piece.toOwned_withPolicy]
    | ok fragment =>
      simp only [Except.map, Answer.toOwned, ← Piece.toOwned_withPolicy]
      rfl
  | divide offset =>
    simp only [ownWrapped, answer, Piece.split_toOwned]
    cases view.split cap offset [] [] <;> rfl

namespace Piece

theorem equal_equivalence : Equivalence fun a b : PieceView => (a == b) = true := by
  simp only [beq_iff]
  exact ⟨fun _ => rfl, Eq.symm, Eq.trans⟩

theorem output_eq_of_equal {a b : PieceView} (equal : (a == b) = true) (source : String) :
    a.output source = b.output source := by
  rw [← output_toOwned a, beq_iff.mp equal, output_toOwned]

end Piece

/-- A call made on a piece in a run: the cap in force, the call, what it returned and recorded. -/
structure Exchange where
  cap : Int
  call : Call
  result : Except Fault (Option PieceView)
  log : List Event

namespace Exchange

/-- The call was the same, under the same cap. -/
def AskedAlike (first second : Exchange) : Prop :=
  first.cap = second.cap ∧ first.call.Alike second.call

instance (first second : Exchange) : Decidable (first.AskedAlike second) :=
  inferInstanceAs (Decidable (_ ∧ _))

/-- Both were refused for the same fault, or both were accepted and returned equal right halves or none. -/
def SameResult : Except Fault (Option PieceView) → Except Fault (Option PieceView) → Prop
  | .error fault, .error fault' => fault = fault'
  | .ok half, .ok half' => (half == half') = true
  | _, _ => False

theorem sameResult_of_toOwned {first second : Except Fault (Option PieceView)}
    (same : first.map (Option.map Piece.toOwned) = second.map (Option.map Piece.toOwned)) :
    SameResult first second := by
  rcases first with fault | _ | half <;> rcases second with fault' | _ | half' <;>
    simp_all [Except.map, SameResult, Piece.beq_iff]

/-- The same came of the call, and the same records were written. -/
def AnsweredAlike (first second : Exchange) : Prop :=
  SameResult first.result second.result ∧ first.log = second.log

def ofCall (cap : Int) (view : PieceView) (call : Call) : Exchange :=
  { cap, call, result := (call.answer cap view).result, log := (call.answer cap view).log }

/-- Equal pieces answer the same call alike, and are equal afterwards. -/
theorem alike_ofCall {view view' : PieceView} (equal : (view == view') = true) {call call' : Call}
    (alike : call.Alike call') (cap : Int) :
    AnsweredAlike (ofCall cap view call) (ofCall cap view' call') ∧
      ((call.answer cap view).after == (call'.answer cap view').after) = true := by
  have same : (call.answer cap view).toOwned = (call'.answer cap view').toOwned := by
    rw [← Call.answer_ownWrapped, ← Call.answer_ownWrapped, alike.ownWrapped_eq, Piece.beq_iff.mp equal]
  have logs := congrArg Answer.log same
  exact ⟨⟨sameResult_of_toOwned (congrArg Answer.result same), logs⟩,
    Piece.beq_iff.mpr (congrArg Answer.after same)⟩

end Exchange

/-- The calls on a piece of a given view, one after the other, and the view it ends with. -/
inductive Conversation : PieceView → List Exchange → PieceView → Prop
  | nil (view : PieceView) : Conversation view [] view
  | cons {view last : PieceView} {cap : Int} {call : Call} {rest : List Exchange}
    (onward : Conversation (call.answer cap view).after rest last) :
    Conversation view (.ofCall cap view call :: rest) last

/-- Pieces that were equal at first and are asked alike answer alike, and are equal at last. -/
theorem Conversation.alike {view view' last last' : PieceView} {seen seen' : List Exchange}
    (talk : Conversation view seen last) (talk' : Conversation view' seen' last')
    (equal : (view == view') = true) (asked : List.Forall₂ Exchange.AskedAlike seen seen') :
    List.Forall₂ Exchange.AnsweredAlike seen seen' ∧ (last == last') = true := by
  -- The calls come off both conversations in pairs, so the second goes on from a view of its own.
  induction talk generalizing view' seen' with
  | nil =>
    cases asked
    cases talk'
    exact ⟨.nil, equal⟩
  | cons _ ih =>
    cases talk' with
    | nil => cases asked
    | cons onward' =>
      obtain ⟨⟨cap, call⟩, later⟩ := List.forall₂_cons.mp asked
      cases cap
      obtain ⟨answered, equal⟩ := Exchange.alike_ofCall equal call _
      obtain ⟨others, equal⟩ := ih onward' equal later
      exact ⟨.cons answered others, equal⟩

/-- The call that an action makes on a piece. -/
def Action.callOn? (piece : Nat) : Action → Option Call
  | .decorate target side place content =>
    if target = piece then some (.decorate side place content) else none
  | .edit target content policy => if target = piece then some (.edit content policy) else none
  | .divide target offset => if target = piece then some (.divide offset) else none
  | _ => none

def Reply.half? : Reply → Option PieceView
  | .half _ right => some right
  | _ => none

namespace Workspace

variable {printable : Char → Bool} {workspace : Workspace} {piece twin : Nat} {action : Action}

/-- The exchange that a piece takes part in at an action. -/
def exchangesOn (printable : Char → Bool) (piece : Nat) (workspace : Workspace) (action : Action) :
    List Exchange :=
  match action.callOn? piece with
  | some call =>
    let performance := workspace.perform printable action
    [{ cap := workspace.cap, call, result := performance.reply.map Reply.half?, log := performance.log }]
  | none => []

/-- An action that may change a piece is a call on it. -/
def OnlyCalls (piece : Nat) (workspace : Workspace) (action : Action) : Prop :=
  workspace.target? action = some piece → (action.callOn? piece).isSome

instance (piece : Nat) (workspace : Workspace) (action : Action) :
    Decidable (OnlyCalls piece workspace action) :=
  inferInstanceAs (Decidable (_ → _))

/-- A call sees nothing of the workspace but the cap and its piece. -/
theorem perform_callOn (sound : workspace.store.WellFormed)
    (known : piece < workspace.store.pieces.size) {call : Call}
    (asks : action.callOn? piece = some call) :
    let performance := workspace.perform printable action
    let answer := call.answer workspace.cap (workspace.store.piece piece)
    performance.reply.map Reply.half? = answer.result ∧ performance.log = answer.log ∧
      performance.workspace.store.piece piece = answer.after := by
  cases action with
  | decorate target side place content =>
    obtain ⟨rfl, same⟩ := Option.ite_none_right_eq_some.mp asks
    cases same
    cases measured : content.toFragment workspace.cap with
    | error fault => simp [perform, settle, Store.decorate, Call.answer, measured, Except.map]
    | ok fragment =>
      have shows := @Store.piece_decorate _ sound _ _ _ known known side place _ _ measured
      rw [if_pos rfl] at shows
      simp only [perform, settle, shows, Call.answer, measured]
      simp [Store.decorate, measured, Except.map, Reply.half?]
  | edit target content policy =>
    obtain ⟨rfl, same⟩ := Option.ite_none_right_eq_some.mp asks
    cases same
    cases measured : content.toFragment workspace.cap with
    | error fault =>
      have shows := Store.piece_applyPolicy sound known known policy
      rw [if_pos rfl] at shows
      simp [perform, settle, Store.edit, Call.answer, measured, shows, Except.map, Piece.withPolicy]
    | ok fragment =>
      have shows := @Store.piece_edit _ sound _ _ _ known known _ policy _ measured
      rw [if_pos rfl] at shows
      simp only [perform, settle, shows, Call.answer, measured]
      simp [Store.edit, measured, Except.map, Reply.half?, Piece.withPolicy, Store.piece]
  | divide target offset =>
    obtain ⟨rfl, same⟩ := Option.ite_none_right_eq_some.mp asks
    cases same
    cases cut : (workspace.store.piece target).split workspace.cap offset [] [] with
    | error fault =>
      have refused := Store.divide_of_error (Store.divide_eq_error_iff.mpr cut)
      simp [perform, settle, refused, Call.answer, cut, Except.map]
    | ok halves =>
      obtain ⟨left, right⟩ := halves
      have shows := Store.piece_divide known cut
      obtain ⟨_, _, divided, _, _⟩ := Store.divide_eq cut
      have isLeft := shows target
      have isRight := shows workspace.store.pieces.size
      rw [if_neg (Nat.ne_of_lt known), if_pos rfl] at isLeft
      rw [if_pos rfl] at isRight
      rw [divided] at isLeft isRight
      simp [perform, settle, divided, Call.answer, cut, Except.map, Reply.half?, isLeft, isRight]
  | _ => cases asks

theorem conversation_run (sound : workspace.store.WellFormed)
    (known : piece < workspace.store.pieces.size) {actions : List Action}
    (along : workspace.Along printable (fun now action =>
      action.Known now.store ∧ now.OnlyCalls piece action) actions) :
    Conversation (workspace.store.piece piece)
      (workspace.collect printable (exchangesOn printable piece) actions)
      ((workspace.run printable actions).store.piece piece) := by
  induction actions generalizing workspace with
  | nil => exact .nil _
  | cons action actions ih =>
    obtain ⟨⟨aims, only⟩, rest⟩ := along
    have count := @size_perform printable _ sound action
    have onward := ih (wellFormed_perform sound aims) (by omega) rest
    rw [run_cons, collect, exchangesOn]
    cases asks : action.callOn? piece with
    | none =>
      have apart : workspace.target? action ≠ some piece := fun aimed => by
        simpa [asks] using only aimed
      have same := (@keeps_perform printable _ _ sound aims _ known apart).piece_eq
      rw [same] at onward
      exact onward
    | some call =>
      obtain ⟨result, log, after⟩ := @perform_callOn printable _ _ _ sound known _ asks
      rw [after] at onward
      simp only [result, log]
      exact .cons onward

/-- Equality of pieces is a congruence. Take two pieces that are equal, and a run at the end of which they
have been asked for the same: the same calls in the same order, under the same caps, with texts that are
alike. Whatever else was done in between, the pieces have answered every call alike, with the same fault
or with equal halves and with the same records, and are equal, so that they give out the same from any
source. -/
theorem equal_run_of_alike_calls (sound : workspace.store.WellFormed)
    (known : piece < workspace.store.pieces.size) (known' : twin < workspace.store.pieces.size)
    (equal : (workspace.store.piece piece == workspace.store.piece twin) = true)
    {actions : List Action}
    (along : workspace.Along printable (fun now action => action.Known now.store ∧
      now.OnlyCalls piece action ∧ now.OnlyCalls twin action) actions)
    (asked : List.Forall₂ Exchange.AskedAlike
      (workspace.collect printable (exchangesOn printable piece) actions)
      (workspace.collect printable (exchangesOn printable twin) actions)) :
    let after := workspace.run printable actions
    (Equivalence fun a b : PieceView => (a == b) = true) ∧
    List.Forall₂ Exchange.AnsweredAlike
      (workspace.collect printable (exchangesOn printable piece) actions)
      (workspace.collect printable (exchangesOn printable twin) actions) ∧
    (after.store.piece piece == after.store.piece twin) = true ∧
    ∀ source, after.answer printable (.fragments piece source) =
      after.answer printable (.fragments twin source) := by
  intro after
  have first := conversation_run sound known
    (along_mono (fun only => ⟨only.1, only.2.1⟩) along)
  have second := conversation_run sound known'
    (along_mono (fun only => ⟨only.1, only.2.2⟩) along)
  obtain ⟨answered, equal⟩ := first.alike second equal asked
  refine ⟨Piece.equal_equivalence, answered, equal, fun source => ?_⟩
  simp only [answer, Piece.output_eq_of_equal equal, after]

/-- Two pieces with the same edges, one owned and one a view. Both are decorated and split, refused an
edit under a low cap and a split at an edge, and edited. -/
theorem equal_run_of_alike_calls_of_views :
    let shown (edge : Fragment) : PieceView :=
      { span := ⟨0, 6, by decide⟩, intro := [edge], outro := [edge] }
    let workspace := ({} : Workspace).run (fun _ => true) [.create (shown (.owned "<")),
      .create (shown (.borrowed "-<-" ⟨1, 2, by decide⟩ (by decide)))]
    let policy : EditPolicy := { overwrite := false, storeName := true }
    let actions : List Action := [.decorate 0 .intro .back (.wrapped (.owned "ab")),
      .decorate 1 .intro .back (.wrapped (.borrowed "cabin" ⟨1, 3, by decide⟩ (by decide))),
      .divide 0 4, .divide 1 4, .setCap 2, .edit 0 (.plain "long") policy,
      .edit 1 (.plain "long") policy, .setCap 9, .divide 1 4, .divide 0 4,
      .edit 1 (.plain "new") policy, .edit 0 (.plain "new") policy]
    let seen (piece : Nat) :=
      workspace.collect (fun _ => true) (exchangesOn (fun _ => true) piece) actions
    let after := workspace.run (fun _ => true) actions
    workspace.store.WellFormed ∧ 1 < workspace.store.pieces.size ∧
    (workspace.store.piece 0 == workspace.store.piece 1) = true ∧
    List.Forall₂ Exchange.AskedAlike (seen 0) (seen 1) ∧
    (seen 0).map (fun exchange => exchange.result.isOk) = [true, true, false, false, true] ∧
    List.Forall₂ Exchange.AnsweredAlike (seen 0) (seen 1) ∧
    (after.store.piece 0 == after.store.piece 1) = true := by
  intro shown workspace policy actions seen after
  have sound : workspace.store.WellFormed := Reachable.wellFormed ⟨_, by decide +kernel, rfl⟩
  have known : 0 < workspace.store.pieces.size := by decide +kernel
  have known' : 1 < workspace.store.pieces.size := by decide +kernel
  have equal : (workspace.store.piece 0 == workspace.store.piece 1) = true := by decide +kernel
  have along : workspace.Along (fun _ => true) (fun now action => action.Known now.store ∧
      now.OnlyCalls 0 action ∧ now.OnlyCalls 1 action) actions := by decide +kernel
  have asked : List.Forall₂ Exchange.AskedAlike (seen 0) (seen 1) := by decide +kernel
  obtain ⟨_, answered, equal', _⟩ := equal_run_of_alike_calls sound known known' equal along asked
  exact ⟨sound, known', equal, asked, by decide +kernel, answered, equal'⟩

end Workspace

end Patchwork
