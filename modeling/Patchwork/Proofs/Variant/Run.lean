import Patchwork.Proofs.Variant
import Patchwork.Script.Inquiry

/-! # Runs on variants of texts

Cursors give out texts, never fragments, and questions are answered from texts. So two runs that
supply the same texts in different variants go alike: what they give out, refuse, record and leave
behind differs in the variants of fragments alone, and in printed forms, which show them. The length
of a fragment, which is told without a look at its source, is that of its text in every variant.
-/
namespace Patchwork

theorem Script.Scene.inquire_sameText {scene : Scene} {left right : TextExpr} {fragment : Fragment}
    {content : Content} (first : scene.fragment left = .ok fragment)
    (second : scene.content right = .ok content) (hash : String → Int) :
    scene.inquire (.sameText left (some right)) =
      .ok (.sameText
        { equal := (Content.wrapped fragment).equals content
          unequal := !(Content.wrapped fragment).equals content
          reversed := content.equals (.wrapped fragment) }
        (some (Content.distinct hash [.wrapped fragment, content]))) := by
  simp only [inquire, first, second, Option.mapM_some, Content.distinct_eq_distinctCount]
  rfl

namespace Part

def toOwned : Part → Part
  | text shown => .text shown
  | queue watched revision rest => .queue watched revision (rest.map Fragment.toOwned)

theorem next_toOwned (store : Store) (parts : List Part) :
    Part.next store.toOwned (parts.map toOwned) =
      ((Part.next store parts).1, (Part.next store parts).2.map toOwned) := by
  induction parts with
  | nil => rfl
  | cons part parts ih =>
    cases part with
    | text shown => rfl
    | queue watched revision rest =>
      simp only [List.map_cons, toOwned, Part.next, Store.queue_toOwned, Queue.toOwned]
      split
      · cases rest with
        | nil => exact ih
        | cons fragment rest => rfl
      · rfl

theorem ofPiece_toOwned (store : Store) (piece : Nat) (source : String) :
    Part.ofPiece store.toOwned piece source =
      (Part.ofPiece store piece source).map (List.map toOwned) := by
  unfold Part.ofPiece
  rw [Store.stored_toOwned, Piece.content_ownEdited]
  cases (store.stored piece).content source with
  | error fault => rfl
  | ok content => simp [Except.map, watch, toOwned, Store.queue_toOwned, Queue.toOwned, Piece.ownEdited]

end Part

theorem Walk.next_toOwned (walk : Walk) (store : Store) :
    walk.next store.toOwned = walk.next store := by
  have pending : walk.pending store.toOwned = walk.pending store := by
    unfold Walk.pending
    cases walk.place with
    | after piece =>
      dsimp only
      rw [Store.stored_toOwned]
      rfl
    | _ => rfl
  unfold Walk.next
  rw [pending]
  rfl

namespace OutputReading

def toOwned (reading : OutputReading) : OutputReading :=
  { reading with parts := reading.parts.map Part.toOwned }

theorem next_toOwned (reading : OutputReading) (store : Store) :
    reading.toOwned.next store.toOwned = ((reading.next store).1, (reading.next store).2.toOwned) := by
  unfold OutputReading.next
  simp only [toOwned, Part.next_toOwned, Walk.next_toOwned]
  rcases Part.next store reading.parts with ⟨_ | _ | _, parts⟩
  · rfl
  · dsimp only
    rcases reading.walk.next store with ⟨⟨slot, piece⟩ | _ | _, walk⟩
    · dsimp only
      rw [Part.ofPiece_toOwned]
      cases Part.ofPiece store piece reading.source with
      | error fault => rfl
      | ok opened =>
        simp only [Except.map, Part.next_toOwned]
        rcases Part.next store opened with ⟨_ | _ | _, parts⟩ <;> rfl
    · rfl
    · rfl
  · rfl

end OutputReading

namespace Cursor

def toOwned : Cursor → Cursor
  | .walk current => .walk current
  | .listing current => .listing current
  | .parts current => .parts (current.map Part.toOwned)
  | .output reading => .output reading.toOwned

theorem next_toOwned (cursor : Cursor) (store : Store) :
    cursor.toOwned.next store.toOwned = ((cursor.next store).1, (cursor.next store).2.toOwned) := by
  have spans : ∀ piece, (store.toOwned.stored piece).span = (store.stored piece).span := by
    intro piece
    rw [Store.stored_toOwned]
    rfl
  cases cursor with
  | walk current => simp only [next, toOwned, Walk.next_toOwned, spans]
  | listing current =>
    have same : current.next store.toOwned = current.next store := rfl
    simp only [next, toOwned, same, spans]
  | parts current => simp only [next, toOwned, Part.next_toOwned]
  | output reading => simp only [next, toOwned, OutputReading.next_toOwned]

theorem pull_toOwned (cursor : Cursor) (store : Store) (count : Nat) :
    cursor.toOwned.pull store.toOwned count =
      ((cursor.pull store count).1, (cursor.pull store count).2.toOwned) := by
  induction count generalizing cursor with
  | zero => rfl
  | succ count ih =>
    simp only [pull, next_toOwned]
    rcases cursor.next store with ⟨item | _ | _, later⟩
    · simp only [ih]
    · rfl
    · rfl

end Cursor

def Question.toOwned : Question → Question
  | .spanText range source => .spanText range source.toOwned
  | .wrap content => .wrap content.toOwned
  | .fragments piece source => .fragments piece source.toOwned
  | .output arena head source => .output arena head source.toOwned
  | .render arena head source => .render arena head source.toOwned
  | question => question

/-- The same action, supplied with the same texts as owned fragments. -/
def Action.toOwned : Action → Action
  | .ask question => .ask question.toOwned
  | .create view => .create view.toOwned
  | .decorate piece side place content => .decorate piece side place content.toOwned
  | .edit piece content policy => .edit piece content.toOwned policy
  | .setEdited piece content => .setEdited piece (content.map Content.toOwned)
  | .openParts piece source => .openParts piece source.toOwned
  | .openOutput arena head source => .openOutput arena head source.toOwned
  | action => action

def Reply.toOwned : Reply → Reply
  | .fragment made => .fragment made.toOwned
  | .views shown => .views (shown.map Piece.toOwned)
  | .half id right => .half id right.toOwned
  | reply => reply

def Piece.lengths (view : PieceView) : List Nat :=
  (view.edited.toList ++ view.intro ++ view.outro).map Fragment.length

theorem Piece.lengths_toOwned (view : PieceView) : view.toOwned.lengths = view.lengths := by
  have queues (fragments : List Fragment) :
      (fragments.map Fragment.toOwned).map Fragment.length = fragments.map Fragment.length := by
    rw [List.map_map]
    exact List.map_congr_left fun fragment _ => fragment.length_toOwned
  have edited : view.toOwned.edited.toList = view.edited.toList.map Fragment.toOwned := by
    cases changed : view.edited <;> simp [toOwned, ownEdited, changed]
  have intro : view.toOwned.intro = view.intro.map Fragment.toOwned := rfl
  have outro : view.toOwned.outro = view.outro.map Fragment.toOwned := rfl
  simp only [lengths, List.map_append, edited, intro, outro, queues]

/-- The lengths of the fragments in a reply. -/
def Reply.lengths : Reply → List Nat
  | .fragment made => [made.length]
  | .views shown => shown.flatMap Piece.lengths
  | .half _ right => right.lengths
  | _ => []

theorem Reply.lengths_toOwned (reply : Reply) : reply.toOwned.lengths = reply.lengths := by
  cases reply with
  | fragment made => exact congrArg (fun length => [length]) made.length_toOwned
  | views shown =>
    simp only [toOwned, lengths, List.flatMap_map]
    exact congrArg List.flatten (List.map_congr_left fun view _ => view.lengths_toOwned)
  | half id right => exact right.lengths_toOwned
  | _ => rfl

def Workspace.toOwned (workspace : Workspace) : Workspace :=
  { workspace with
    store := workspace.store.toOwned
    cursors := workspace.cursors.map Cursor.toOwned }

/-- What a reply tells apart from variants. A printed form shows them and is set aside. -/
def Action.told : Action → Except Fault Reply → Except Fault Reply
  | .ask (.display _), reply => reply.map fun _ => .done
  | _, reply => reply.map Reply.toOwned

/-- What an action comes to apart from variants. -/
def Performance.told (action : Action) (performance : Performance) : Performance :=
  { reply := action.told performance.reply
    workspace := performance.workspace.toOwned
    log := performance.log }

def Performance.lengths (performance : Performance) : Except Fault (List Nat) :=
  performance.reply.map Reply.lengths

namespace Workspace

@[simp] theorem store_toOwned (workspace : Workspace) :
    workspace.toOwned.store = workspace.store.toOwned := rfl

@[simp] theorem cap_toOwned (workspace : Workspace) : workspace.toOwned.cap = workspace.cap := rfl

variable {printable : Char → Bool}

theorem told_answer (workspace : Workspace) {question : Question}
    (admitted : ¬Oversized Fault.OfSize (workspace.answer printable question)) :
    (Action.ask question).told (workspace.answer printable question) =
      (Action.ask question).told (workspace.toOwned.answer printable question.toOwned) := by
  have spans : ∀ piece, (workspace.store.toOwned.stored piece).span =
      (workspace.store.stored piece).span := by
    intro piece
    rw [Store.stored_toOwned]
    rfl
  cases question with
  | wrap content =>
    obtain ⟨fragment, kept, owned⟩ := Content.exists_of_admitted (mt oversized_map.mpr admitted)
    simp only [answer, kept, Except.map, Action.told, Reply.toOwned, owned]
    rfl
  | display piece => simp only [answer, Question.toOwned, Action.told, Except.map]
  | listing arena =>
    simp [answer, Question.toOwned, Store.listing_toOwned, Except.map, Action.told, Reply.toOwned]
  | bounds piece => simp only [answer, store_toOwned, Question.toOwned, spans]
  | contains piece offset =>
    simp only [answer, store_toOwned, Question.toOwned, Store.stored_toOwned]
    rfl
  | isEdited piece =>
    simp only [answer, store_toOwned, Question.toOwned, Store.stored_toOwned, Piece.isEdited_ownEdited]
  | compare left right =>
    simp only [answer, store_toOwned, Question.toOwned, Store.piece_toOwned, Piece.beq_toOwned]
  | fragments piece source =>
    simp only [answer, store_toOwned, Question.toOwned, Store.piece_toOwned, Piece.output_toOwned,
      Content.text_toOwned]
  | walk arena head =>
    simp only [answer, store_toOwned, Question.toOwned, Store.trail_toOwned, spans]
  | output arena head source =>
    simp only [answer, store_toOwned, Question.toOwned, Store.output_toOwned, Content.text_toOwned]
  | render arena head source =>
    simp only [answer, store_toOwned, Question.toOwned, Store.render_toOwned, Content.text_toOwned]
  | _ => rfl

theorem told_settle {α : Type} (workspace : Workspace) {action : Action} {reply reply' : α → Reply}
    {outcome owned : Outcome α} (same : outcome.toOwned = owned)
    (replies : ∀ value, outcome.result = .ok value →
      action.told (.ok (reply value)) = action.told (.ok (reply' value))) :
    (workspace.settle reply outcome).told action =
      { workspace.toOwned.settle reply' owned with
        reply := action.told (workspace.toOwned.settle reply' owned).reply } := by
  subst same
  have replied : action.told (outcome.result.map reply) = action.told (outcome.result.map reply') := by
    cases result : outcome.result with
    | error fault => rfl
    | ok value => exact replies value result
  simp only [Performance.told, settle, Outcome.toOwned, replied]
  rfl

theorem told_withStore (workspace : Workspace) {action : Action} {store owned : Store}
    (same : store.toOwned = owned) :
    (workspace.withStore store).told action =
      { workspace.toOwned.withStore owned with
        reply := action.told (workspace.toOwned.withStore owned).reply } := by
  subst same
  rfl

theorem told_openCursor (workspace : Workspace) {action : Action} {cursor owned : Cursor}
    (same : cursor.toOwned = owned) :
    (workspace.openCursor cursor).told action =
      { workspace.toOwned.openCursor owned with
        reply := action.told (workspace.toOwned.openCursor owned).reply } := by
  subst same
  simp [Performance.told, openCursor, toOwned]

/-- What an action comes to apart from variants can be told from the texts it is supplied with. -/
theorem told_perform (workspace : Workspace) {action : Action}
    (admitted : ¬Oversized Fault.OfSize (workspace.perform printable action).reply) :
    (workspace.perform printable action).told action =
      { workspace.toOwned.perform printable action.toOwned with
        reply := action.told (workspace.toOwned.perform printable action.toOwned).reply } := by
  cases action with
  | setCap => rfl
  | ask question =>
    simp only [Performance.told, perform, workspace.told_answer admitted]
    rfl
  | openArena => rfl
  | create view => exact workspace.told_settle (workspace.store.toOwned_create view) fun _ _ => rfl
  | push arena piece =>
    exact workspace.told_settle (workspace.store.toOwned_push arena piece) fun _ _ => rfl
  | decorate piece side place content =>
    exact workspace.told_settle
      (workspace.store.toOwned_decorate piece side place (mt oversized_map.mpr admitted)) fun _ _ => rfl
  | edit piece content policy =>
    exact workspace.told_settle
      (workspace.store.toOwned_edit piece policy (mt oversized_map.mpr admitted)) fun _ _ => rfl
  | divide piece offset =>
    have divided := @Store.toOwned_divide workspace.cap workspace.store piece offset
    refine workspace.told_settle divided fun right _ => ?_
    have shown : (workspace.store.toOwned.divide workspace.cap piece offset).store.piece right =
        ((workspace.store.divide workspace.cap piece offset).store.piece right).toOwned :=
      divided ▸ Store.piece_toOwned _ right
    simp [Action.told, Except.map, Reply.toOwned, shown]
  | divideSlot arena index offset =>
    exact workspace.told_settle (workspace.store.toOwned_divideSlot arena index offset) fun _ _ => rfl
  | setNext piece next => exact workspace.told_withStore (workspace.store.toOwned_setNext piece next)
  | setStoreName piece storeName =>
    exact workspace.told_withStore (workspace.store.toOwned_setStoreName piece storeName)
  | setSpan piece span => exact workspace.told_withStore (workspace.store.toOwned_setSpan piece span)
  | setEdited piece content =>
    cases content with
    | none => exact workspace.told_withStore (workspace.store.toOwned_setEdited piece none)
    | some content =>
      have checked : ¬Oversized Fault.OfSize (content.toFragment workspace.cap) := by
        intro oversized
        apply admitted
        unfold perform
        cases kept : content.toFragment workspace.cap <;> simp_all [Oversized, refuse]
      obtain ⟨fragment, kept, owned⟩ := Content.exists_of_admitted checked
      simp only [perform, kept]
      refine workspace.told_withStore ?_
      rw [Store.toOwned_setEdited, Option.map_some, owned]
      rfl
  | openWalk | openListing => exact workspace.told_openCursor rfl
  | openParts piece source =>
    have opened := Part.ofPiece_toOwned workspace.store piece source.text
    simp only [perform, Action.toOwned, Content.text_toOwned, store_toOwned, opened]
    cases Part.ofPiece workspace.store piece source.text with
    | error fault => rfl
    | ok parts => exact workspace.told_openCursor rfl
  | openOutput arena head source => exact workspace.told_openCursor rfl
  | pull cursor count =>
    have held : workspace.toOwned.cursors[cursor]? =
        workspace.cursors[cursor]?.map Cursor.toOwned := Array.getElem?_map
    simp only [perform, Action.toOwned, held]
    cases workspace.cursors[cursor]? with
    | none => rfl
    | some current =>
      simp [Cursor.pull_toOwned, Performance.told, toOwned, Array.map_setIfInBounds]

theorem told_toOwned (action : Action) : action.toOwned.told = action.told := by
  cases action with
  | ask question => cases question <;> rfl
  | _ => rfl

theorem told_perform_eq {first second : Workspace} (start : first.toOwned = second.toOwned)
    {action other : Action} (texts : action.toOwned = other.toOwned)
    (admitted : ¬Oversized Fault.OfSize (first.perform printable action).reply)
    (admitted' : ¬Oversized Fault.OfSize (second.perform printable other).reply) :
    (first.perform printable action).told action = (second.perform printable other).told other := by
  -- Both sides are what the one action on owned texts comes to in the one workspace of owned texts.
  have alike : action.told = other.told := by rw [← told_toOwned, texts, told_toOwned]
  rw [told_perform first admitted, told_perform second admitted', start, texts, alike]

theorem lengths_told (workspace : Workspace) (action : Action) :
    ((workspace.perform printable action).told action).lengths =
      (workspace.perform printable action).lengths := by
  have owned : ((workspace.perform printable action).reply.map Reply.toOwned).map Reply.lengths =
      (workspace.perform printable action).reply.map Reply.lengths := by
    cases (workspace.perform printable action).reply with
    | error fault => rfl
    | ok reply => exact congrArg Except.ok reply.lengths_toOwned
  cases action with
  | ask question =>
    cases question with
    | display => rfl
    | _ => exact owned
  | _ => exact owned

theorem lengths_performances (workspace : Workspace) (actions : List Action) :
    (List.zipWith Performance.told actions (workspace.performances printable actions)).map
        Performance.lengths =
      (workspace.performances printable actions).map Performance.lengths := by
  induction actions generalizing workspace with
  | nil => rfl
  | cons action actions ih => exact congrArg₂ List.cons (workspace.lengths_told action) (ih _)

theorem performances_told {first second : Workspace} (start : first.toOwned = second.toOwned)
    {actions others : List Action} (texts : actions.map Action.toOwned = others.map Action.toOwned)
    (admitted : ∀ performance ∈ first.performances printable actions,
      ¬Oversized Fault.OfSize performance.reply)
    (admitted' : ∀ performance ∈ second.performances printable others,
      ¬Oversized Fault.OfSize performance.reply) :
    List.zipWith Performance.told actions (first.performances printable actions) =
        List.zipWith Performance.told others (second.performances printable others) ∧
      (first.run printable actions).toOwned = (second.run printable others).toOwned := by
  induction actions generalizing first second others with
  | nil =>
    cases others with
    | nil => exact ⟨rfl, start⟩
    | cons other others => cases texts
  | cons action actions ih =>
    cases others with
    | nil => cases texts
    | cons other others =>
      obtain ⟨same, rest⟩ := List.cons.inj texts
      obtain ⟨fits, later⟩ := List.forall_mem_cons.mp admitted
      obtain ⟨fits', later'⟩ := List.forall_mem_cons.mp admitted'
      have told := told_perform_eq start same fits fits'
      obtain ⟨others, last⟩ := ih (congrArg Performance.workspace told) rest later later'
      exact ⟨congrArg₂ List.cons told others, last⟩

/-- Two runs that supply the same texts, in whichever variants, come to the same at every step apart
from variants, as long as no step is refused for a size, and leave equal pieces in the same slots. The
fragments they give out have the same lengths, those of their texts. All they could tell texts apart by
is their comparison, which is that of the texts alone. -/
theorem runs_agree_of_texts {first second : Workspace} (start : first.toOwned = second.toOwned)
    {actions others : List Action} (texts : actions.map Action.toOwned = others.map Action.toOwned)
    (admitted : ∀ performance ∈ first.performances printable actions,
      ¬Oversized Fault.OfSize performance.reply)
    (admitted' : ∀ performance ∈ second.performances printable others,
      ¬Oversized Fault.OfSize performance.reply) :
    let store := (first.run printable actions).store
    let store' := (second.run printable others).store
    List.zipWith Performance.told actions (first.performances printable actions) =
        List.zipWith Performance.told others (second.performances printable others) ∧
    (first.performances printable actions).map Performance.lengths =
        (second.performances printable others).map Performance.lengths ∧
    (∀ fragment : Fragment, fragment.length = fragment.text.length) ∧
    store.arenas = store'.arenas ∧ store.pieces.size = store'.pieces.size ∧
    (∀ piece, (store.piece piece == store'.piece piece) = true) ∧
    (Equivalence fun a b : Content => a.equals b = true) ∧
    (∀ a b : Content, (a.equals b = true ↔ a.text = b.text) ∧ a.equals b = b.equals a ∧
      ∀ hash, Content.distinct hash [a, b] = 1 ↔ a.equals b = true) ∧
    ∀ scene left right fragment content hash, Script.Scene.fragment scene left = .ok fragment →
      scene.content right = .ok content → scene.inquire (.sameText left (some right)) =
        .ok (.sameText
          { equal := (Content.wrapped fragment).equals content
            unequal := !(Content.wrapped fragment).equals content
            reversed := content.equals (.wrapped fragment) }
          (some (Content.distinct hash [.wrapped fragment, content]))) := by
  intro store store'
  obtain ⟨told, ended⟩ := performances_told start texts admitted admitted'
  have stores : store.toOwned = store'.toOwned := congrArg Workspace.store ended
  have arenas : store.toOwned.arenas = store'.toOwned.arenas := congrArg Store.arenas stores
  have lengths := congrArg (List.map Performance.lengths) told
  rw [lengths_performances, lengths_performances] at lengths
  refine ⟨told, lengths, fun fragment => fragment.length_text.symm, arenas, ?_, fun piece => ?_,
    Content.equals_equivalence, fun a b => ⟨Content.equals_iff, Content.equals_comm a b, fun hash => ?_⟩,
    fun _ _ _ _ _ hash made read => Script.Scene.inquire_sameText made read hash⟩
  · have sizes := congrArg (fun owned : Store => owned.pieces.size) stores
    simpa [Store.toOwned] using sizes
  · rw [Piece.beq_iff, ← Store.piece_toOwned, ← Store.piece_toOwned, stores]
  · rw [Content.distinct_eq_one_iff, List.forall_mem_singleton]

/-- One run is supplied with plain and owned texts, the other with views of parts of longer ones. A
slot that is not there and an offset at an edge are refused in both. -/
theorem runs_agree_of_texts_of_views :
    let shown (part : Content) (edge : Fragment) (source : Content) : List Action :=
      [.openArena, .create { span := ⟨0, 4, by decide⟩, intro := [edge], outro := [] }, .push 0 0,
        .decorate 0 .outro .back part, .divideSlot 0 0 4, .divideSlot 0 0 2, .edit 0 part {},
        .ask (.wrap part), .openOutput 0 0 source, .pull 0 2, .ask (.slot 0 2), .ask (.compare 0 1),
        .ask (.display 1), .ask (.render 0 0 source)]
    let actions := shown (.plain "ab") (.owned "<") (.plain "wxyz")
    let others := shown (.wrapped (.borrowed "cabin" ⟨1, 3, by decide⟩ (by decide)))
      (.borrowed "-<-" ⟨1, 2, by decide⟩ (by decide))
      (.wrapped (.borrowed "vwxyz" ⟨1, 5, by decide⟩ (by decide)))
    let replies (actions : List Action) :=
      (({} : Workspace).performances (fun _ => true) actions).map Performance.reply
    (∀ reply ∈ replies actions, ¬Oversized Fault.OfSize reply) ∧
    (∀ reply ∈ replies others, ¬Oversized Fault.OfSize reply) ∧
    (replies actions).map Except.toBool = [true, true, true, true, false, true, true, true, true, true,
      false, true, true, true] ∧ (replies others).map Except.toBool = (replies actions).map Except.toBool ∧
    (replies others).map (Except.map Reply.lengths) = (replies actions).map (Except.map Reply.lengths) ∧
    ((({} : Workspace).run (fun _ => true) actions).store.piece 0 ==
      (({} : Workspace).run (fun _ => true) others).store.piece 0) = true := by
  intro shown actions others replies
  have texts : actions.map Action.toOwned = others.map Action.toOwned := by
    have cabin : (⟨1, 3, by decide⟩ : Span).cut "cabin" = "ab" := by decide +kernel
    have edge : (⟨1, 2, by decide⟩ : Span).cut "-<-" = "<" := by decide +kernel
    have source : (⟨1, 5, by decide⟩ : Span).cut "vwxyz" = "wxyz" := by decide +kernel
    simp [actions, others, shown, Action.toOwned, Question.toOwned, Content.toOwned, Content.text,
      Fragment.text, Fragment.toOwned, Piece.toOwned, Piece.ownEdited, Piece.map, cabin, edge, source]
  have admitted : ∀ performance ∈ ({} : Workspace).performances (fun _ => true) actions,
      ¬Oversized Fault.OfSize performance.reply := by decide +kernel
  have admitted' : ∀ performance ∈ ({} : Workspace).performances (fun _ => true) others,
      ¬Oversized Fault.OfSize performance.reply := by decide +kernel
  obtain ⟨told, lengths, _, _, _, equal, _⟩ := runs_agree_of_texts rfl texts admitted admitted'
  have alike : (replies others).map (Except.map Reply.lengths) =
      (replies actions).map (Except.map Reply.lengths) := by
    simp only [replies, List.map_map]
    exact lengths.symm
  exact ⟨List.forall_mem_map.mpr admitted, List.forall_mem_map.mpr admitted', by decide +kernel,
    by decide +kernel, alike, equal 0⟩

end Workspace

end Patchwork
