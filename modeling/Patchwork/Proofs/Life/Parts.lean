import Patchwork.Proofs.Life.Queues
import Patchwork.Proofs.Rendering
import Patchwork.Store.WellFormed

/-! # Readings of one piece while it changes

What a reading of a piece gives out was settled when the reading began: the texts of the intro,
the content, the texts of the outro. How far it has come can be told from its answers. While it
is in one of the queues, every request looks whether that queue has been changed since: inserted
into, or cleared of something. It is the queue that counts, not the piece that holds it now, so
a division, which hands the outro to the right half, changes nothing in itself.
-/
namespace Patchwork

/-- The texts of a piece at one moment. -/
structure Snapshot where
  intro : List String
  content : String
  outro : List String

namespace Snapshot

def of (view : PieceView) (source : String) : Snapshot :=
  ⟨view.intro.map Fragment.text, view.shown source, view.outro.map Fragment.text⟩

def texts (snapshot : Snapshot) : List String :=
  snapshot.intro ++ snapshot.content :: snapshot.outro

end Snapshot

/-- How far a reading has come: so many texts of a queue given out, the content next, or all
done. The content comes as a stage of its own after a failure only: a request that finds the end
of the intro gives out the content. -/
inductive Stage
  | intro (given : Nat)
  | content
  | outro (given : Nat)
  | finished
deriving DecidableEq

namespace Stage

def after (snapshot : Snapshot) : Stage → Pull Item → Stage
  | intro given, .item _ => if given < snapshot.intro.length then intro (given + 1) else outro 0
  | intro _, _ => content
  | content, _ => outro 0
  | outro given, .item _ => outro (given + 1)
  | outro _, _ => finished
  | finished, _ => finished

/-- The stage that some answers lead to. -/
def reached (snapshot : Snapshot) (answers : List (Pull Item)) : Stage :=
  answers.foldl (after snapshot) (intro 0)

theorem reached_append (snapshot : Snapshot) (answers : List (Pull Item)) (answer : Pull Item) :
    reached snapshot (answers ++ [answer]) = after snapshot (reached snapshot answers) answer := by
  simp [reached]

/-- The side whose queue the next request looks into, be it for its end. -/
def side? : Stage → Option Side
  | intro _ => some .intro
  | outro _ => some .outro
  | content | finished => none

/-- The next answer as long as no queue has been changed. -/
def due (snapshot : Snapshot) : Stage → Pull Item
  | intro given => .item (.text (snapshot.intro[given]?.getD snapshot.content))
  | content => .item (.text snapshot.content)
  | outro given =>
    match snapshot.outro[given]? with
    | some text => .item (.text text)
    | none => .stop
  | finished => .stop

/-- What has been given out by a stage: all there was to give, unless some request failed. -/
def Gave (snapshot : Snapshot) (answers : List (Pull Item)) : Stage → Prop
  | intro given => given ≤ snapshot.intro.length ∧
      Pull.texts answers = snapshot.intro.take given ∧ .stop ∉ answers
  | content => (∃ reason, .fault reason ∈ answers) ∧ .stop ∉ answers ∧
      ∃ first, Pull.texts answers = snapshot.intro.take first
  | outro given => given ≤ snapshot.outro.length ∧ .stop ∉ answers ∧
      ∃ first, (first = snapshot.intro.length ∨ ∃ reason, .fault reason ∈ answers) ∧
        Pull.texts answers =
          snapshot.intro.take first ++ snapshot.content :: snapshot.outro.take given
  | finished => ∃ first last, (first = snapshot.intro.length ∧ last = snapshot.outro.length ∨
        ∃ reason, .fault reason ∈ answers) ∧
      Pull.texts answers =
        snapshot.intro.take first ++ snapshot.content :: snapshot.outro.take last

namespace Gave

variable {snapshot : Snapshot} {answers : List (Pull Item)} {stage : Stage}

theorem due (gave : stage.Gave snapshot answers) :
    (stage.after snapshot (stage.due snapshot)).Gave snapshot
      (answers ++ [stage.due snapshot]) := by
  cases stage with
  | intro given =>
    obtain ⟨bound, shown, going⟩ := gave
    by_cases more : given < snapshot.intro.length
    · have next : Stage.due snapshot (intro given) = .item (.text snapshot.intro[given]) := by
        simp [Stage.due, more]
      rw [next, after, if_pos more]
      refine ⟨more, ?_, by simpa using going⟩
      rw [Pull.texts_append_text, shown, List.take_append_getElem]
    · have next : Stage.due snapshot (intro given) = .item (.text snapshot.content) := by
        simp [Stage.due, List.getElem?_eq_none (Nat.le_of_not_lt more)]
      rw [next, after, if_neg more]
      refine ⟨Nat.zero_le _, by simpa using going, given, .inl (by omega), ?_⟩
      rw [Pull.texts_append_text, shown, List.take_zero]
  | content =>
    obtain ⟨⟨reason, failed⟩, going, first, shown⟩ := gave
    refine ⟨Nat.zero_le _, by simpa [Stage.due] using going, first,
      .inr ⟨reason, List.mem_append_left _ failed⟩, ?_⟩
    rw [Stage.due, Pull.texts_append_text, shown, List.take_zero]
  | outro given =>
    obtain ⟨bound, going, first, whole, shown⟩ := gave
    by_cases more : given < snapshot.outro.length
    · have next : Stage.due snapshot (outro given) = .item (.text snapshot.outro[given]) := by
        simp [Stage.due, more]
      rw [next]
      refine ⟨more, by simpa using going, first, by simpa using whole, ?_⟩
      rw [Pull.texts_append_text, shown, List.append_assoc, List.cons_append,
        List.take_append_getElem]
    · have next : Stage.due snapshot (outro given) = .stop := by
        simp [Stage.due, List.getElem?_eq_none (Nat.le_of_not_lt more)]
      rw [next]
      refine ⟨first, given, ?_, by rw [Pull.texts_append_stop, shown]⟩
      rcases whole with whole | ⟨reason, failed⟩
      · exact .inl ⟨whole, by omega⟩
      · exact .inr ⟨reason, List.mem_append_left _ failed⟩
  | finished =>
    obtain ⟨first, last, whole, shown⟩ := gave
    refine ⟨first, last, whole.imp id ?_, by rw [Stage.due, Pull.texts_append_stop, shown]⟩
    rintro ⟨reason, failed⟩
    exact ⟨reason, List.mem_append_left _ failed⟩

theorem fault {side : Side} (gave : stage.Gave snapshot answers) (looks : stage.side? = some side)
    (reason : Fault) :
    (stage.after snapshot (.fault reason)).Gave snapshot (answers ++ [.fault reason]) := by
  have failed : ∃ reason', .fault reason' ∈ answers ++ [.fault reason] :=
    ⟨reason, List.mem_append_right _ (List.mem_singleton_self _)⟩
  cases stage with
  | intro given =>
    obtain ⟨_, shown, going⟩ := gave
    exact ⟨failed, by simpa using going, given, by rw [Pull.texts_append_fault, shown]⟩
  | outro given =>
    obtain ⟨_, _, first, _, shown⟩ := gave
    exact ⟨first, given, .inr failed, by rw [Pull.texts_append_fault, shown]⟩
  | content => cases looks
  | finished => cases looks

/-- Never anything newer than the snapshot, and nothing out of its order. -/
theorem exists_take (gave : stage.Gave snapshot answers) : ∃ first,
    Pull.texts answers = snapshot.intro.take first ∨ ∃ last,
      Pull.texts answers =
        snapshot.intro.take first ++ snapshot.content :: snapshot.outro.take last := by
  cases stage with
  | intro given => exact ⟨given, .inl gave.2.1⟩
  | content =>
    obtain ⟨_, _, first, shown⟩ := gave
    exact ⟨first, .inl shown⟩
  | outro given =>
    obtain ⟨_, _, first, _, shown⟩ := gave
    exact ⟨first, .inr ⟨given, shown⟩⟩
  | finished =>
    obtain ⟨first, last, _, shown⟩ := gave
    exact ⟨first, .inr ⟨last, shown⟩⟩

theorem texts_eq (gave : stage.Gave snapshot answers) (stopped : .stop ∈ answers)
    (sound : ∀ reason, .fault reason ∉ answers) : Pull.texts answers = snapshot.texts := by
  cases stage with
  | intro given => exact absurd stopped gave.2.2
  | content => exact absurd stopped gave.2.1
  | outro given => exact absurd stopped gave.2.1
  | finished =>
    obtain ⟨first, last, ⟨rfl, rfl⟩ | ⟨reason, failed⟩, shown⟩ := gave
    · simpa [Snapshot.texts] using shown
    · exact absurd failed (sound reason)

end Gave

end Stage

namespace Part

def left (view : PieceView) (source : String) (queue revision : Side → Nat) : Stage → List Part
  | .intro given =>
    [.queue (queue .intro) (revision .intro) (view.intro.drop given), .text (view.shown source),
      .queue (queue .outro) (revision .outro) view.outro]
  | .content => [.text (view.shown source), .queue (queue .outro) (revision .outro) view.outro]
  | .outro given => [.queue (queue .outro) (revision .outro) (view.outro.drop given)]
  | .finished => []

variable {store : Store} {view : PieceView} {source : String} {queue revision : Side → Nat}
  {stage : Stage}

theorem ofPiece_eq_left {piece : Nat} {parts : List Part}
    (opened : ofPiece store piece source = .ok parts) :
    parts = left (store.piece piece) source (store.stored piece).queue
      (fun side => (store.queue ((store.stored piece).queue side)).revision) (.intro 0) := by
  unfold ofPiece at opened
  cases given : (store.stored piece).content source with
  | error fault => simp [given, Except.map] at opened
  | ok content =>
    obtain ⟨_, rfl⟩ := Piece.content_eq_ok_iff.mp given
    simp only [given, Except.map, Except.ok.injEq] at opened
    exact opened.symm

theorem next_left_of_stale {side : Side} (looks : stage.side? = some side)
    (stale : (store.queue (queue side)).revision ≠ revision side) :
    next store (left view source queue revision stage) =
      (.fault .queueChanged, left view source queue revision
        (stage.after (.of view source) (.fault .queueChanged))) := by
  cases stage with
  | intro given =>
    cases looks
    simp [left, next, stale, Stage.after]
  | outro given =>
    cases looks
    simp [left, next, stale, Stage.after]
  | content => cases looks
  | finished => cases looks

theorem next_left_of_fresh (fresh : ∀ side, stage.side? = some side →
      (store.queue (queue side)).revision = revision side) :
    let asked := next store (left view source queue revision stage)
    asked.1.map Item.text = stage.due (.of view source) ∧
      asked.2 = left view source queue revision
        (stage.after (.of view source) (stage.due (.of view source))) := by
  cases stage with
  | intro given =>
    have same := fresh .intro rfl
    by_cases more : given < view.intro.length
    · rw [left, List.drop_eq_getElem_cons more]
      simp [left, next, same, Snapshot.of, Stage.due, Stage.after, more, Pull.map]
    · have ended := Nat.le_of_not_lt more
      simp [left, next, same, List.drop_of_length_le ended, Snapshot.of, Stage.due, Stage.after,
        more, Pull.map]
  | content => exact ⟨rfl, rfl⟩
  | outro given =>
    have same := fresh .outro rfl
    by_cases more : given < view.outro.length
    · rw [left, List.drop_eq_getElem_cons more]
      simp [left, next, same, Snapshot.of, Stage.due, Stage.after, more, Pull.map]
    · have ended := Nat.le_of_not_lt more
      simp [left, next, same, List.drop_of_length_le ended, Snapshot.of, Stage.due, Stage.after,
        more, Pull.map]
  | finished => exact ⟨rfl, rfl⟩

end Part

theorem Cursor.next_parts (store : Store) (parts : List Part) :
    Cursor.next store (.parts parts) =
      ((Part.next store parts).1.map .text, .parts (Part.next store parts).2) := rfl

namespace Workspace

variable {printable : Char → Bool} {workspace : Workspace} {id : Nat}

section Following

variable {store : Store} {view : PieceView} {source : String} {queue revision : Side → Nat}
  {cursor : Cursor} {answers : List (Pull Item)} {changed : List Nat}

/-- A cursor that reads a piece as it was, with what it has answered and the queues that have
been changed meanwhile. -/
structure Following (view : PieceView) (source : String) (queue revision : Side → Nat)
    (store : Store) (cursor : Cursor) (answers : List (Pull Item)) (changed : List Nat) :
    Prop where
  left : cursor = .parts (Part.left view source queue revision
    (Stage.reached (.of view source) answers))
  gave : (Stage.reached (.of view source) answers).Gave (.of view source) answers
  known : ∀ side, queue side < store.queues.size
  since : ∀ side, revision side ≤ (store.queue (queue side)).revision
  unchanged_iff : ∀ side, (store.queue (queue side)).revision = revision side ↔
    queue side ∉ changed

namespace Following

/-- The next request fails exactly while the reading is in a queue that has been changed. -/
theorem next (following : Following view source queue revision store cursor answers changed) :
    let stage := Stage.reached (.of view source) answers
    ((∃ side, stage.side? = some side ∧ queue side ∈ changed) →
      cursor.next store = (.fault .queueChanged, .parts (Part.left view source queue revision
        (stage.after (.of view source) (.fault .queueChanged))))) ∧
    ((¬∃ side, stage.side? = some side ∧ queue side ∈ changed) →
      cursor.next store = (stage.due (.of view source), .parts (Part.left view source queue revision
        (stage.after (.of view source) (stage.due (.of view source)))))) := by
  intro stage
  rw [following.left, Cursor.next_parts]
  constructor
  · rintro ⟨side, looks, among⟩
    have stale : (store.queue (queue side)).revision ≠ revision side :=
      fun same => (following.unchanged_iff side).mp same among
    rw [Part.next_left_of_stale looks stale]
    rfl
  · intro spared
    have fresh : ∀ side, stage.side? = some side →
        (store.queue (queue side)).revision = revision side :=
      fun side looks => (following.unchanged_iff side).mpr fun among => spared ⟨side, looks, among⟩
    obtain ⟨given, rest⟩ := @Part.next_left_of_fresh store view source queue revision stage fresh
    rw [given, rest]

theorem asked (following : Following view source queue revision store cursor answers changed) :
    Following view source queue revision store (cursor.next store).2
      (answers ++ [(cursor.next store).1]) changed := by
  obtain ⟨stale, fresh⟩ := following.next
  by_cases looks : ∃ side, (Stage.reached (.of view source) answers).side? = some side ∧
      queue side ∈ changed
  · rw [stale looks]
    obtain ⟨side, looks, _⟩ := looks
    refine { following with left := ?_, gave := ?_ } <;> rw [Stage.reached_append]
    exact following.gave.fault looks _
  · rw [fresh looks]
    refine { following with left := ?_, gave := ?_ } <;> rw [Stage.reached_append]
    exact following.gave.due

theorem acted {action : Action}
    (following : Following view source queue revision workspace.store cursor answers changed) :
    Following view source queue revision (workspace.perform printable action).workspace.store
      cursor answers (changed ++ workspace.queuesChanged action) := by
  have counted : Store.Counted workspace.store (workspace.perform printable action).workspace.store
      (workspace.queuesChanged action) := counted_perform workspace action
  refine { following with known := fun side => ?_, since := fun side => ?_,
                          unchanged_iff := fun side => ?_ }
  all_goals
    have known := following.known side
    have since := following.since side
  · exact Nat.lt_of_lt_of_le known counted.room
  · by_cases among : queue side ∈ workspace.queuesChanged action
    · exact Nat.le_of_lt (Nat.lt_of_le_of_lt since (counted.newer known among))
    · rwa [counted.same known among]
  · rw [List.mem_append, not_or, ← following.unchanged_iff side]
    by_cases among : queue side ∈ workspace.queuesChanged action
    · have newer := counted.newer known among
      simp only [among, not_true, and_false, iff_false]
      omega
    · simp [counted.same known among, among]

end Following

end Following

theorem following_openParts {piece : Nat} {source : Content}
    (known : ∀ side, (workspace.store.stored piece).queue side < workspace.store.queues.size)
    (opened : (workspace.perform printable (.openParts piece source)).reply = .ok (.cursor id)) :
    let after := (workspace.perform printable (.openParts piece source)).workspace
    ∃ cursor, after.cursors[id]? = some cursor ∧
      Following (workspace.store.piece piece) source.text (workspace.store.stored piece).queue
        (fun side => (workspace.store.queue ((workspace.store.stored piece).queue side)).revision)
        after.store cursor [] [] := by
  cases given : Part.ofPiece workspace.store piece source.text with
  | error fault => simp [perform, given, refuse] at opened
  | ok parts =>
    simp only [perform, given, openCursor, Except.ok.injEq, Reply.cursor.injEq] at opened ⊢
    subst opened
    refine ⟨.parts parts, Array.getElem?_push_size, ?_⟩
    refine ⟨congrArg Cursor.parts (Part.ofPiece_eq_left given), ?_, known, fun _ => Nat.le_refl _,
      fun _ => by simp⟩
    exact ⟨Nat.zero_le _, rfl, by simp⟩

/-- The queues that a run changes. -/
def changed (printable : Char → Bool) (workspace : Workspace) (actions : List Action) : List Nat :=
  workspace.collect printable queuesChanged actions

/-- After a division the queue that was the outro of the divided piece is changed through the
right half, and no longer through the left. -/
theorem changed_after_divide {piece right watched : Nat} {offset : Int} {view : PieceView}
    {place : Place} {content : Content} {fragment : Fragment}
    (known : watched < workspace.store.queues.size)
    (outro : (workspace.store.stored piece).outro = watched)
    (divided : (workspace.perform printable (.divide piece offset)).reply = .ok (.half right view))
    (kept : content.toFragment workspace.cap = .ok fragment) :
    watched ∈ workspace.changed printable
      [.divide piece offset, .decorate right .outro place content] ∧
    watched ∉ workspace.changed printable
      [.divide piece offset, .decorate piece .outro place content] := by
  have accepted : (workspace.store.divide workspace.cap piece offset).result = .ok right := by
    simp only [perform, settle] at divided
    cases result : (workspace.store.divide workspace.cap piece offset).result with
    | error fault => simp [result, Except.map] at divided
    | ok half =>
      simp only [result, Except.map, Except.ok.injEq, Reply.half.injEq] at divided
      rw [divided.1]
  obtain ⟨here, there⟩ := Store.outro_divide accepted
  have cap : (workspace.perform printable (.divide piece offset)).workspace.cap = workspace.cap := rfl
  have store : (workspace.perform printable (.divide piece offset)).workspace.store =
      (workspace.store.divide workspace.cap piece offset).store := store_perform _ _
  constructor
  · simp [changed, collect, queuesChanged, cap, store, kept, Piece.queue, here, outro]
  · simp only [changed, collect, queuesChanged, cap, store, kept, Piece.queue, there]
    simp
    omega

/-- Whatever is done between the requests to a reading of one piece, it gives out texts of the
piece as it was when the reading began, in their order, and nothing else. A request fails exactly
when the reading is in a queue that has been changed since, and the next one goes on behind that
queue. A reading that stops without having failed has given out everything. When the outro it
follows is handed on by a division, decorating the right half disturbs it and decorating the left
half does not. -/
theorem parts_run_of_changes {piece : Nat} {source : Content} (sound : workspace.store.WellFormed)
    (known : piece < workspace.store.pieces.size)
    (opened : (workspace.perform printable (.openParts piece source)).reply = .ok (.cursor id))
    (actions : List Action) :
    let reading := (workspace.perform printable (.openParts piece source)).workspace
    let snapshot := Snapshot.of (workspace.store.piece piece) source.text
    let queue := (workspace.store.stored piece).queue
    let now := reading.run printable actions
    let answers := reading.answers printable id actions
    let stage := Stage.reached snapshot answers
    let stale := ∃ side, stage.side? = some side ∧ queue side ∈ reading.changed printable actions
    (∃ first, Pull.texts answers = snapshot.intro.take first ∨ ∃ last, Pull.texts answers =
      snapshot.intro.take first ++ snapshot.content :: snapshot.outro.take last) ∧
    (stale → now.answers printable id [.pull id 1] = [.fault .queueChanged]) ∧
    (¬stale → now.answers printable id [.pull id 1] = [stage.due snapshot]) ∧
    (.stop ∈ answers → (∀ reason, .fault reason ∉ answers) →
      Pull.texts answers = snapshot.texts) ∧
    ∀ holder offset right view place content fragment,
      (now.store.stored holder).outro = queue .outro →
      (now.perform printable (.divide holder offset)).reply = .ok (.half right view) →
      content.toFragment now.cap = .ok fragment →
      queue .outro ∈ reading.changed printable
        (actions ++ [.divide holder offset, .decorate right .outro place content]) ∧
      (queue .outro ∈ reading.changed printable
        (actions ++ [.divide holder offset, .decorate holder .outro place content]) ↔
          queue .outro ∈ reading.changed printable actions) := by
  intro reading snapshot queue now answers stage stale
  obtain ⟨cursor, held, start⟩ := following_openParts (sound.queue_known known) opened
  obtain ⟨later, kept, following⟩ := life_keeps
    (Following (workspace.store.piece piece) source.text queue fun side =>
      (workspace.store.queue (queue side)).revision)
    Following.asked (fun _ _ _ following => following.acted) (fun _ _ => rfl) held
    start (along_of_forall (fun _ _ => trivial) reading actions)
  have next := following.next
  rw [answers_pull kept, Cursor.answers_pull_one]
  refine ⟨following.gave.exists_take,
    fun disturbed => congrArg (fun asked => [asked.1]) (next.1 disturbed),
    fun spared => congrArg (fun asked => [asked.1]) (next.2 spared),
    following.gave.texts_eq, ?_⟩
  intro holder offset right view place content fragment outro divided admitted
  obtain ⟨through, beside⟩ := changed_after_divide (following.known .outro) outro divided admitted
  simp only [changed, collect_append, List.mem_append] at through beside ⊢
  exact ⟨.inr through, or_iff_left beside⟩

/-- The intro is decorated while it is read, the piece divided while its outro is still to come.
A decoration of the right half is noticed, one of the left half is not. -/
theorem parts_run_of_changes_of_handed_outro :
    let view : PieceView :=
      { span := ⟨0, 4, by decide⟩, intro := [.owned "<", .owned "["], outro := [.owned ">"] }
    let start : Workspace := { store := .addPiece {} view }
    let opening : Performance := start.perform (fun _ => true) (.openParts 0 (.plain "text"))
    let actions : List Action := [.pull 0 1, .decorate 0 .intro .back (.plain "new"), .pull 0 1,
      .pull 0 1, .divide 0 2]
    let after (half : Nat) : List Action := actions ++ [.decorate half .outro .back (.plain "new")]
    start.store.WellFormed ∧ 0 < start.store.pieces.size ∧ opening.reply = .ok (.cursor 0) ∧
    Pull.texts (opening.workspace.answers (fun _ => true) 0 actions) = ["<", "text"] ∧
    (opening.workspace.run (fun _ => true) (after 1)).answers (fun _ => true) 0 [.pull 0 1] =
      [.fault .queueChanged] ∧
    Pull.texts ((opening.workspace.run (fun _ => true) (after 0)).answers (fun _ => true) 0
      [.pull 0 1]) = [">"] := by
  intro view start opening actions after
  have sound : start.store.WellFormed := Store.WellFormed.empty.addPiece _
  have opened : opening.reply = .ok (.cursor 0) := rfl
  have given : Pull.texts (opening.workspace.answers (fun _ => true) 0 actions) =
      ["<", "text"] := by decide +kernel
  refine ⟨sound, Nat.one_pos, opened, given, ?_, ?_⟩
  · obtain ⟨_, stale, _⟩ := parts_run_of_changes sound Nat.one_pos opened (after 1)
    refine stale ⟨.outro, ?_, ?_⟩
    · decide +kernel
    · decide +kernel
  · obtain ⟨_, _, fresh, _⟩ := parts_run_of_changes sound Nat.one_pos opened (after 0)
    rw [fresh ?_]
    · decide +kernel
    · rintro ⟨_ | _, looks, among⟩
      · exact absurd looks (by decide +kernel)
      · exact absurd among (by decide +kernel)

end Workspace

end Patchwork
