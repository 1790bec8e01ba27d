import Patchwork.Proofs.Life.Output

/-! # Outputs read in batches

What a reading of an output gives out while its arena stands still, told in one recursion over
the links. However the requests are cut into batches, the answers are those the recursion gives,
up to the first thing that is wrong: a number that is no slot, an arena that has been used up, a
piece that does not fit the source. Of the piece where it fails nothing is given out. A rendered
text is the same recursion read to its end.
-/
namespace Patchwork

namespace Piece

variable {κ : Type} {piece : Piece κ} {source : String}

/-- A piece that still shows its source, and more than there is of it. -/
def Overruns (piece : Piece κ) (source : String) : Prop :=
  piece.edited.isNone ∧ source.length < piece.span.stop

instance (piece : Piece κ) (source : String) : Decidable (piece.Overruns source) :=
  inferInstanceAs (Decidable (_ ∧ _))

theorem fits_iff : piece.Fits source ↔ ¬piece.Overruns source := by
  simp [Fits, Overruns]

theorem content_of_overruns (beyond : piece.Overruns source) :
    piece.content source = .error (.spanPastEnd piece.span source.length) := by
  obtain ⟨shows, long⟩ := beyond
  simp [content, Option.isNone_iff_eq_none.mp shows, Span.read, Nat.not_le.mpr long]

theorem output_eq_ite (piece : PieceView) (source : String) :
    piece.output source =
      if piece.Overruns source then .error (.spanPastEnd piece.span source.length)
      else .ok (piece.texts source) := by
  split
  · rename_i beyond
    rw [output, content_of_overruns beyond]
    rfl
  · rename_i within
    exact output_eq_ok_iff.mpr ⟨fits_iff.mpr within, rfl⟩

end Piece

namespace Store

variable {store : Store} {arena : Nat} {head : Int} {source : String}

/-- What the pieces show from a pending link on, with room for so many more of them. -/
def plainFrom (store : Store) (arena : Nat) (head : Int) (source : String) :
    Nat → Option Int → Delivery String
  | _, none => ⟨[], none⟩
  | room, some index =>
    match store.slot? arena index with
    | none => ⟨[], some (.noSuchSlot index (store.arena arena).size)⟩
    | some piece =>
      match room with
      | 0 => ⟨[], some (.endlessChain head)⟩
      | room + 1 =>
        let view := store.piece piece
        if view.Overruns source then ⟨[], some (.spanPastEnd view.span source.length)⟩
        else (store.plainFrom arena head source room view.next).prepend (view.texts source)

/-- The output of an arena from a head on. It may pass as many pieces as there are slots. -/
def plainOutput (store : Store) (arena : Nat) (head : Int) (source : String) : Delivery String :=
  store.plainFrom arena head source (store.arena arena).size (some head)

theorem plainFrom_none (room : Nat) : store.plainFrom arena head source room none = ⟨[], none⟩ := by
  cases room <;> rfl

section Pending

variable {index : Int} {piece room : Nat}

theorem plainFrom_of_missing (missing : store.slot? arena index = none) :
    store.plainFrom arena head source room (some index) =
      ⟨[], some (.noSuchSlot index (store.arena arena).size)⟩ := by
  cases room <;> simp [plainFrom, missing]

theorem plainFrom_of_full (found : store.slot? arena index = some piece) :
    store.plainFrom arena head source 0 (some index) = ⟨[], some (.endlessChain head)⟩ := by
  simp [plainFrom, found]

theorem plainFrom_of_room (found : store.slot? arena index = some piece) :
    store.plainFrom arena head source (room + 1) (some index) =
      if (store.piece piece).Overruns source then
        ⟨[], some (.spanPastEnd (store.piece piece).span source.length)⟩
      else (store.plainFrom arena head source room (store.stored piece).next).prepend
        ((store.piece piece).texts source) := by
  simp only [plainFrom, found]
  rfl

end Pending

theorem expand_follow (room : Nat) (pending : Option Int) :
    (store.follow arena head room pending).expand (fun step => (store.piece step.2).output source) =
      store.plainFrom arena head source room pending := by
  induction room generalizing pending with
  | zero =>
    cases pending with
    | none => rfl
    | some index =>
      cases found : store.slot? arena index with
      | none =>
        rw [plainFrom_of_missing found, follow, get_of_none found]
        rfl
      | some piece =>
        rw [plainFrom_of_full found, follow, get_eq_ok_iff.mpr found]
        rfl
  | succ room ih =>
    cases pending with
    | none => rfl
    | some index =>
      cases found : store.slot? arena index with
      | none =>
        rw [plainFrom_of_missing found, follow, get_of_none found]
        rfl
      | some piece =>
        rw [plainFrom_of_room found, follow, get_eq_ok_iff.mpr found, ← ih]
        simp only [Delivery.expand, Delivery.items_cons, Delivery.fault_cons, Delivery.opening]
        rw [Piece.output_eq_ite]
        by_cases beyond : (store.piece piece).Overruns source
        · simp only [beyond, if_true]
        · simp only [beyond, if_false]

theorem output_eq_plainOutput (store : Store) (arena : Nat) (head : Int) (source : String) :
    store.output arena head source = store.plainOutput arena head source :=
  expand_follow _ _

theorem render_eq_plain (store : Store) (arena : Nat) (head : Int) (source : String) :
    store.render arena head source =
      match (store.plainOutput arena head source).fault with
      | some fault => .error fault
      | none => .ok (String.join (store.plainOutput arena head source).items) := by
  rw [← output_eq_plainOutput]
  rfl

end Store

namespace Delivery

def first : Delivery String → Pull Item
  | ⟨text :: _, _⟩ => .item (.text text)
  | ⟨[], some fault⟩ => .fault fault
  | ⟨[], none⟩ => .stop

/-- What is left after one request. How a delivery ends is told once. -/
def rest : Delivery String → Delivery String
  | ⟨_ :: texts, fault⟩ => ⟨texts, fault⟩
  | ⟨[], _⟩ => ⟨[], none⟩

def after (delivery : Delivery String) (asked : Nat) : Delivery String :=
  if asked ≤ delivery.items.length then ⟨delivery.items.drop asked, delivery.fault⟩ else ⟨[], none⟩

/-- What a request for so many items gets: these, or all there are and how they end. -/
def batch (delivery : Delivery String) (count : Nat) : Batch :=
  if count ≤ delivery.items.length then ⟨(delivery.items.take count).map .text, .filled⟩
  else .ofDelivery .text delivery

theorem after_succ (delivery : Delivery String) (asked : Nat) :
    delivery.after (asked + 1) = (delivery.after asked).rest := by
  rcases delivery with ⟨items, fault⟩
  rcases Nat.lt_trichotomy asked items.length with short | rfl | long
  · rw [after, after, if_pos (Nat.le_of_lt short), if_pos (Nat.succ_le_of_lt short),
      List.drop_eq_getElem_cons short]
    rfl
  · rw [after, after, if_neg (Nat.not_succ_le_self _), if_pos (Nat.le_refl _), List.drop_length]
    rfl
  · simp [after, rest, Nat.not_le.mpr long, Nat.not_le.mpr (Nat.lt_succ_of_lt long)]

theorem batch_succ_of_cons {text : String} {texts : List String} {fault : Option Fault}
    (count : Nat) :
    batch ⟨text :: texts, fault⟩ (count + 1) = (batch ⟨texts, fault⟩ count).cons (.text text) := by
  unfold batch
  by_cases short : count ≤ texts.length
  · simp [short, Batch.cons]
  · simp [short, Batch.cons, Batch.ofDelivery]

end Delivery

theorem Part.ofPiece_of_overruns {store : Store} {piece : Nat} {source : String}
    (beyond : (store.piece piece).Overruns source) :
    ofPiece store piece source =
      .error (.spanPastEnd (store.piece piece).span source.length) := by
  have refused : (store.stored piece).content source =
      .error (.spanPastEnd (store.stored piece).span source.length) :=
    Piece.content_of_overruns beyond
  rw [ofPiece, refused]
  rfl

namespace OutputReading

variable {store : Store} {reading : OutputReading} {delivery : Delivery String}

/-- What a reading has still to give out, in a store that stands still. -/
structure Owes (store : Store) (reading : OutputReading) (delivery : Delivery String) : Prop where
  intact : ∀ part ∈ reading.parts, part.Intact store
  due : ∃ room, reading.walk.yielded + room = (store.arena reading.walk.arena).size ∧
    delivery = (store.plainFrom reading.walk.arena reading.walk.head reading.source room
      (reading.walk.pending store)).prepend (reading.parts.flatMap Part.texts)

namespace Owes

theorem start (store : Store) (arena : Nat) (head : Int) (source : String) :
    Owes store { walk := { arena, head }, source } (store.plainOutput arena head source) where
  intact := by simp
  due := ⟨(store.arena arena).size, Nat.zero_add _, rfl⟩

theorem close (owes : Owes store reading delivery) : Owes store reading.close ⟨[], none⟩ := by
  obtain ⟨_, room, count, _⟩ := owes
  exact ⟨by simp [OutputReading.close], room, count, by cases room <;> rfl⟩

/-- When the parts are used up, the next request meets what the next link leads to. -/
theorem next_of_used (owes : Owes store reading delivery)
    (used : Part.next store reading.parts = (.stop, []))
    (nothing : reading.parts.flatMap Part.texts = []) :
    (reading.next store).1.map .text = delivery.first ∧
      Owes store (reading.next store).2 delivery.rest := by
  have closed := owes.close
  obtain ⟨_, room, count, rfl⟩ := owes
  rw [nothing]
  cases pending : reading.walk.pending store with
  | none =>
    simp only [OutputReading.next, used, Walk.next_of_none pending, Store.plainFrom_none]
    exact ⟨rfl, closed⟩
  | some index =>
    cases found : store.slot? reading.walk.arena index with
    | none =>
      have missing := Store.get_of_none found
      simp only [OutputReading.next, used, Walk.next_of_error pending missing,
        Store.plainFrom_of_missing found]
      exact ⟨rfl, closed⟩
    | some piece =>
      have held := Store.get_eq_ok_iff.mpr found
      cases room with
      | zero =>
        simp only [OutputReading.next, used, Walk.next_of_full pending held count,
          Store.plainFrom_of_full found]
        exact ⟨rfl, closed⟩
      | succ room =>
        simp only [OutputReading.next, used, Walk.next_of_room pending held (by omega),
          Store.plainFrom_of_room found]
        by_cases beyond : (store.piece piece).Overruns reading.source
        · simp only [Part.ofPiece_of_overruns beyond, beyond, if_true]
          exact ⟨rfl, closed⟩
        · obtain ⟨opened, opens, fresh, whole⟩ := Part.ofPiece_of_fits (Piece.fits_iff.mpr beyond)
          simp only [opens, beyond, if_false]
          rw [← whole]
          -- A piece that opens has a text to begin with: its content, if it has no intro.
          cases due : opened.flatMap Part.texts with
          | nil => simp [due, Piece.texts] at whole
          | cons text others =>
            obtain ⟨parts, given, intact, left⟩ := Part.next_of_flatMap_cons fresh due
            simp only [given]
            refine ⟨rfl, intact, room, ?_, by rw [left]; rfl⟩
            change reading.walk.yielded + 1 + room = (store.arena reading.walk.arena).size
            omega

/-- A request is answered with the first of what is due, and the rest stays due. -/
theorem next (owes : Owes store reading delivery) :
    (reading.next store).1.map .text = delivery.first ∧
      Owes store (reading.next store).2 delivery.rest := by
  cases shown : reading.parts.flatMap Part.texts with
  | nil => exact owes.next_of_used (Part.next_of_flatMap_nil owes.intact shown) shown
  | cons text others =>
    obtain ⟨intact, room, count, rfl⟩ := owes
    obtain ⟨parts, given, fresh, left⟩ := Part.next_of_flatMap_cons intact shown
    simp only [OutputReading.next, given, shown]
    exact ⟨rfl, fresh, room, count, by rw [left]; rfl⟩

end Owes

theorem Owes.pull (owes : Owes store reading delivery) (count : Nat) :
    ((Cursor.output reading).pull store count).1 = delivery.batch count := by
  induction count generalizing reading delivery with
  | zero => rfl
  | succ count ih =>
    obtain ⟨asked, onward⟩ := owes.next
    have later := ih onward
    rw [Cursor.pull, Cursor.next_output]
    rcases delivery with ⟨_ | ⟨text, texts⟩, fault⟩
    · cases fault <;> simp only [asked, Delivery.first] <;> rfl
    · simp only [asked, Delivery.first, later]
      rw [Delivery.batch_succ_of_cons]
      rfl

end OutputReading

def Action.reads : Action → Bool
  | .setCap _ | .ask _ | .openWalk .. | .openListing _ | .openParts .. | .openOutput ..
  | .pull .. => true
  | _ => false

namespace Workspace

variable {printable : Char → Bool} {workspace : Workspace}

/-- An action that leaves the store as it is. -/
def KeepsStore (printable : Char → Bool) (workspace : Workspace) (action : Action) : Prop :=
  (workspace.perform printable action).workspace.store = workspace.store

theorem keepsStore_of_reads {action : Action} (reading : action.reads) :
    KeepsStore printable workspace action := by
  rw [KeepsStore, store_perform]
  cases action with
  | setCap | ask | openWalk | openListing | openParts | openOutput | pull => rfl
  | _ => cases reading

theorem along_of_reads {actions : List Action} (reading : ∀ action ∈ actions, action.reads) :
    workspace.Along printable (KeepsStore printable) actions := by
  induction actions generalizing workspace with
  | nil => trivial
  | cons action actions ih =>
    obtain ⟨first, rest⟩ := List.forall_mem_cons.mp reading
    exact ⟨keepsStore_of_reads first, ih rest⟩

/-- A cursor that reads an output in one store, with what it has answered of a delivery. -/
def Reciting (still : Store) (delivery : Delivery String) (store : Store) (cursor : Cursor)
    (answers : List (Pull Item)) : Prop :=
  store = still ∧
  answers = (List.range answers.length).map (fun asked => (delivery.after asked).first) ∧
  ∃ reading, cursor = .output reading ∧ reading.Owes store (delivery.after answers.length)

theorem reciting_next {still store : Store} {delivery : Delivery String} {cursor : Cursor}
    {answers : List (Pull Item)} (reciting : Reciting still delivery store cursor answers) :
    Reciting still delivery store (cursor.next store).2 (answers ++ [(cursor.next store).1]) := by
  obtain ⟨same, told, reading, rfl, owes⟩ := reciting
  obtain ⟨asked, onward⟩ := owes.next
  rw [Cursor.next_output, asked]
  refine ⟨same, ?_, _, rfl, ?_⟩
  · rw [List.length_append, List.length_singleton, List.range_succ, List.map_append, ← told]
    rfl
  · rw [List.length_append, List.length_singleton, Delivery.after_succ]
    exact onward

/-- While a store stands still, a reading of an output answers what the pieces on the links show,
however its requests are cut into batches: all of it, or as much as comes before the first thing
that is wrong, then how it ends, and after that only that it has stopped. A text is rendered from
the same, exactly if the links come to an end and every piece on the way fits the source. -/
theorem output_batches_of_still (workspace : Workspace) (arena : Nat) (head : Int)
    (source : Content) {actions : List Action}
    (still : (workspace.perform printable (.openOutput arena head source)).workspace.Along printable
      (KeepsStore printable) actions) :
    let reading := (workspace.perform printable (.openOutput arena head source)).workspace
    let id := workspace.cursors.size
    let now := reading.run printable actions
    let answers := reading.answers printable id actions
    let due := workspace.store.plainOutput arena head source.text
    let rendered := workspace.store.render arena head source.text
    answers = (List.range answers.length).map (fun asked => (due.after asked).first) ∧
    (∀ count, (now.perform printable (.pull id count)).reply =
      .ok (.batch ((due.after answers.length).batch count))) ∧
    (∀ text, rendered = .ok text ↔ due.fault = none ∧ text = String.join due.items) ∧
    (∀ fault, rendered = .error fault ↔ due.fault = some fault) ∧
    ((∃ text, rendered = .ok text) ↔
      ∃ passed, Store.Chain workspace.store arena (some head) passed none ∧
        ∀ step ∈ passed, (workspace.store.piece step.2).Fits source.text) := by
  intro reading id now answers due rendered
  have held : reading.cursors[id]? =
      some (.output { walk := { arena, head }, source := source.text }) := Array.getElem?_push_size
  have start : Reciting workspace.store due reading.store
      (.output { walk := { arena, head }, source := source.text }) [] :=
    ⟨rfl, rfl, _, rfl, .start _ arena head source.text⟩
  obtain ⟨_, kept, same, told, last, rfl, owes⟩ := life_keeps_answers
    (Reciting workspace.store due) reciting_next
    (fun keeps _ reciting => keeps.symm ▸ reciting) held start still
  rw [List.nil_append] at told owes
  have shown : rendered = match due.fault with
      | some fault => .error fault
      | none => .ok (String.join due.items) :=
    Store.render_eq_plain workspace.store arena head source.text
  refine ⟨told, fun count => ?_, fun text => ?_, fun fault => ?_, ?_⟩
  · rw [perform_pull kept]
    exact congrArg (fun batch => Except.ok (Reply.batch batch)) (owes.pull count)
  · rw [shown]
    cases due.fault <;> simp [eq_comm]
  · rw [shown]
    cases due.fault <;> simp
  · simp only [rendered, Store.render_eq_ok_iff]
    constructor
    · rintro ⟨_, passed, chain, fits, _⟩
      exact ⟨passed, chain, fits⟩
    · rintro ⟨passed, chain, fits⟩
      exact ⟨_, passed, chain, fits, rfl⟩

/-- Two pieces, the first with an intro, and a source that is too short for the second. The
requests come in three batches, with a lowered cap and a reading in between. -/
theorem output_batches_of_still_of_short_source :
    let halves : Store := ((Store.document 8 (by decide)).divideSlot defaultCap 0 0 3).store
    let workspace : Workspace := { store := halves.insertInto 0 .back (.owned "<") }
    let reading := (workspace.perform (fun _ => true) (.openOutput 0 0 (.plain "abcde"))).workspace
    let actions : List Action := [.pull 0 1, .setCap 0, .pull 0 0, .ask (.render 0 0 (.plain "")),
      .pull 0 1]
    let now := reading.run (fun _ => true) actions
    reading.Along (fun _ => true) (KeepsStore fun _ => true) actions ∧
    workspace.store.plainOutput 0 0 "abcde" =
      ⟨["<", "abc"], some (.spanPastEnd ⟨3, 8, by decide⟩ 5)⟩ ∧
    reading.answers (fun _ => true) 0 actions = [.item (.text "<"), .item (.text "abc")] ∧
    (now.perform (fun _ => true) (.pull 0 4)).reply =
      .ok (.batch ⟨[], .failed (.spanPastEnd ⟨3, 8, by decide⟩ 5)⟩) ∧
    workspace.store.render 0 0 "abcde" = .error (.spanPastEnd ⟨3, 8, by decide⟩ 5) := by
  intro halves workspace reading actions now
  have still : reading.Along (fun _ => true) (KeepsStore fun _ => true) actions :=
    along_of_reads (by decide)
  have items : (workspace.store.plainOutput 0 0 "abcde").items = ["<", "abc"] := by decide +kernel
  have fault : (workspace.store.plainOutput 0 0 "abcde").fault =
      some (.spanPastEnd ⟨3, 8, by decide⟩ 5) := by decide +kernel
  have due : workspace.store.plainOutput 0 0 "abcde" =
      ⟨["<", "abc"], some (.spanPastEnd ⟨3, 8, by decide⟩ 5)⟩ :=
    congrArg₂ Delivery.mk items fault
  have count : (reading.answers (fun _ => true) 0 actions).length = 2 := by decide +kernel
  obtain ⟨told, batches, _, refused, _⟩ :=
    output_batches_of_still workspace 0 0 (.plain "abcde") still
  refine ⟨still, due, ?_, ?_, (refused _).mpr fault⟩
  · refine told.trans ?_
    change (List.range (reading.answers (fun _ => true) 0 actions).length).map
      (fun asked => ((workspace.store.plainOutput 0 0 "abcde").after asked).first) = _
    rw [count, due]
    rfl
  · refine (batches 4).trans ?_
    change Except.ok (Reply.batch (((workspace.store.plainOutput 0 0 "abcde").after
      (reading.answers (fun _ => true) 0 actions).length).batch 4)) = _
    rw [count, due]
    rfl

end Workspace

end Patchwork
