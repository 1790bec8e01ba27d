import Patchwork.Proofs.Life.Queues
import Patchwork.Proofs.Life.Walk

/-! # Outputs read while their arena is being divided

A reading of an output owes what is left of the piece it is in and what the pieces ahead show.
A division leaves what is left of a piece alone, for its content was settled when it was opened
and its queues are not changed. So a division ahead of the reading changes how much is owed to
single requests and not what it joins to, and a division behind it changes nothing. Only if the
piece it is in is divided, what it owes grows by the right half: the piece has been opened
whole, and its right half is ahead.
-/
namespace Patchwork

namespace Part

variable {store : Store} {parts : List Part}

def texts : Part → List String
  | .text shown => [shown]
  | .queue _ _ rest => rest.map Fragment.text

def Intact (store : Store) : Part → Prop
  | .text _ => True
  | .queue watched revision _ => (store.queue watched).revision = revision

theorem next_of_flatMap_nil (intact : ∀ part ∈ parts, part.Intact store)
    (none : parts.flatMap texts = []) : next store parts = (.stop, []) := by
  induction parts with
  | nil => rfl
  | cons part parts ih =>
    obtain ⟨first, rest⟩ := List.forall_mem_cons.mp intact
    rw [List.flatMap_cons, List.append_eq_nil_iff] at none
    cases part with
    | text shown => cases none.1
    | queue watched revision items =>
      have fresh : (store.queue watched).revision = revision := first
      cases List.map_eq_nil_iff.mp none.1
      simpa [next, fresh] using ih rest none.2

theorem next_of_flatMap_cons {text : String} {others : List String}
    (intact : ∀ part ∈ parts, part.Intact store) (due : parts.flatMap texts = text :: others) :
    ∃ later, next store parts = (.item text, later) ∧ (∀ part ∈ later, part.Intact store) ∧
      later.flatMap texts = others := by
  induction parts with
  | nil => cases due
  | cons part parts ih =>
    obtain ⟨first, rest⟩ := List.forall_mem_cons.mp intact
    rw [List.flatMap_cons] at due
    cases part with
    | text shown =>
      obtain ⟨rfl, same⟩ := List.cons.inj due
      exact ⟨parts, rfl, rest, same⟩
    | queue watched revision items =>
      have fresh : (store.queue watched).revision = revision := first
      cases items with
      | nil => simpa [next, fresh] using ih rest due
      | cons fragment items =>
        obtain ⟨rfl, same⟩ := List.cons.inj due
        exact ⟨.queue watched revision items :: parts, by simp [next, fresh],
          List.forall_mem_cons.mpr ⟨fresh, rest⟩, same⟩

theorem ofPiece_of_fits {piece : Nat} {source : String} (fits : (store.piece piece).Fits source) :
    ∃ parts, ofPiece store piece source = .ok parts ∧ (∀ part ∈ parts, part.Intact store) ∧
      parts.flatMap texts = (store.piece piece).texts source := by
  have given : (store.stored piece).content source = .ok ((store.piece piece).shown source) :=
    Piece.content_eq_ok_iff.mpr ⟨fits, rfl⟩
  refine ⟨_, by rw [ofPiece, given]; rfl, ?_, ?_⟩
  · simp [watch, Intact]
  · simp [watch, texts, Piece.texts, Store.piece]

end Part

namespace OutputReading

variable {store after : Store} {reading : OutputReading} {behind ahead : List (Nat × Nat)}

/-- The texts still to be given out when these slots are ahead. -/
def owed (reading : OutputReading) (store : Store) (ahead : List (Nat × Nat)) : List String :=
  reading.parts.flatMap Part.texts ++
    ahead.flatMap fun step => (store.piece step.2).texts reading.source

/-- A reading that has not ended, of a chain of which it has passed one part and not the other. -/
structure Underway (store : Store) (reading : OutputReading) (behind ahead : List (Nat × Nat)) :
    Prop where
  walk : Walk.Underway store reading.walk behind ahead
  intact : ∀ part ∈ reading.parts, part.Intact store
  fits : ∀ step ∈ behind ++ ahead, (store.piece step.2).Fits reading.source

def Of (arena : Nat) (head : Int) (source : String) (reading : OutputReading) : Prop :=
  reading.walk.arena = arena ∧ reading.walk.head = head ∧ reading.source = source

theorem join_owed (reading : OutputReading) (store : Store) (ahead : List (Nat × Nat)) :
    String.join (reading.owed store ahead) = String.join (reading.parts.flatMap Part.texts) ++
      String.join (ahead.map fun step => (store.piece step.2).block reading.source) := by
  rw [owed, String.join_append, Store.join_flatMap_texts]

namespace Underway

theorem next_of_owed_nil (underway : Underway store reading behind ahead)
    (none : reading.owed store ahead = []) : reading.next store = (.stop, reading.close) := by
  obtain ⟨nothing, nobody⟩ := List.append_eq_nil_iff.mp none
  cases ahead with
  | nil => simp [next, Part.next_of_flatMap_nil underway.intact nothing, underway.walk.next_nil]
  | cons step ahead => simp [Piece.texts] at nobody

theorem next_of_owed_cons {text : String} {others : List String}
    (underway : Underway store reading behind ahead)
    (due : reading.owed store ahead = text :: others) :
    ∃ later behind ahead, reading.next store = (.item text, later) ∧
      Underway store later behind ahead ∧ later.owed store ahead = others ∧
      later.Of reading.walk.arena reading.walk.head reading.source := by
  cases shown : reading.parts.flatMap Part.texts with
  | cons first rest =>
    obtain ⟨parts, given, intact, left⟩ := Part.next_of_flatMap_cons underway.intact shown
    rw [owed, shown] at due
    obtain ⟨rfl, rfl⟩ := List.cons.inj due
    refine ⟨{ reading with parts }, behind, ahead, by simp [next, given],
      ⟨underway.walk, intact, underway.fits⟩, ?_, rfl, rfl, rfl⟩
    rw [owed, left]
    rfl
  | nil =>
    have used := Part.next_of_flatMap_nil underway.intact shown
    rw [owed, shown, List.nil_append] at due
    cases ahead with
    | nil => cases due
    | cons step ahead =>
      have fits := underway.fits step (List.mem_append_right _ List.mem_cons_self)
      obtain ⟨opened, opens, fresh, whole⟩ := Part.ofPiece_of_fits fits
      have onward := underway.walk.next_cons
      rw [List.flatMap_cons, ← whole] at due
      cases pending : opened.flatMap Part.texts with
      | nil => simp [pending, Piece.texts] at whole
      | cons first texts =>
        obtain ⟨parts, given, intact, left⟩ := Part.next_of_flatMap_cons fresh pending
        rw [pending] at due
        obtain ⟨rfl, rfl⟩ := List.cons.inj due
        refine ⟨{ reading with
          walk := { reading.walk with
            yielded := reading.walk.yielded + 1, place := .after step.2 }
          parts }, behind ++ [step], ahead, by simp [next, used, onward, opens, given],
          ⟨underway.walk.item, intact, by simpa using underway.fits⟩, ?_, rfl, rfl, rfl⟩
        rw [owed, left]
        rfl

section Divided

variable {piece position : Nat}

theorem intact_of_queue (underway : Underway store reading behind ahead)
    (same : ∀ queue, after.queue queue = store.queue queue) :
    ∀ part ∈ reading.parts, part.Intact after := by
  intro part among
  have intact := underway.intact part among
  cases part with
  | text => trivial
  | queue watched revision rest => exact (congrArg Queue.revision (same watched)).trans intact

/-- Away from the piece that a reading is in, a division changes nothing of what is owed. -/
theorem divided_elsewhere (underway : Underway store reading behind ahead)
    (slots : store.SlotsKnown reading.walk.arena)
    (divided : Store.Divided store after reading.walk.arena piece position)
    (same : ∀ queue, after.queue queue = store.queue queue)
    (elsewhere : reading.walk.place ≠ .after piece) :
    ∃ behind ahead', Underway after reading behind ahead' ∧
      String.join (reading.owed after ahead') = String.join (reading.owed store ahead) := by
  have known := underway.walk.chain.known slots
  have fits := divided.fits_flatMap_widen known underway.fits
  rw [List.flatMap_append] at fits
  refine ⟨_, _, ⟨underway.walk.divided_elsewhere slots divided elsewhere,
    underway.intact_of_queue same, fits⟩, ?_⟩
  rw [join_owed, join_owed, divided.join_flatMap_widen fun step among =>
    known step (List.mem_append_right _ among)]

theorem block_right (divided : Store.Divided store after reading.walk.arena piece position)
    (source : String) : (after.piece store.pieces.size).block source =
      slice source position (store.piece piece).span.stop ++
        String.join ((store.piece piece).outro.map Fragment.text) := by
  simp [divided.right, Piece.halves, Piece.block, Piece.shown]

/-- The piece that a reading is in has been opened whole. Its right half is owed on top. -/
theorem divided_here (underway : Underway store reading behind ahead)
    (slots : store.SlotsKnown reading.walk.arena)
    (divided : Store.Divided store after reading.walk.arena piece position)
    (same : ∀ queue, after.queue queue = store.queue queue)
    (here : reading.walk.place = .after piece) :
    ∃ passed slot ahead', behind = passed ++ [(slot, piece)] ∧
      Underway after reading behind ahead' ∧ String.join (reading.owed after ahead') =
        String.join (reading.parts.flatMap Part.texts) ++
          (slice reading.source position (store.piece piece).span.stop ++
            String.join ((store.piece piece).outro.map Fragment.text)) ++
          String.join (ahead.map fun step => (store.piece step.2).block reading.source) := by
  have known := underway.walk.chain.known slots
  obtain ⟨passed, slot, rfl, apart⟩ := underway.walk.latest_apart here
  have unseen : ahead.map (fun step => (after.piece step.2).block reading.source) =
      ahead.map fun step => (store.piece step.2).block reading.source := by
    refine List.map_congr_left fun step among => ?_
    have inside := List.mem_append_right passed among
    rw [divided.other (known step (List.mem_append_right _ among)) (apart step inside)]
  refine ⟨passed, slot, _, rfl, ⟨underway.walk.divided_here slots divided here,
    underway.intact_of_queue same, fun step among => ?_⟩, ?_⟩
  · refine divided.fits_flatMap_widen known underway.fits step (List.mem_flatMap.mpr ?_)
    rcases List.mem_cons.mp (List.perm_middle.mem_iff.mp among) with rfl | old
    · exact ⟨(slot, piece), by simp, Store.mem_widen_new rfl⟩
    · exact ⟨step, old, Store.mem_widen_self⟩
  · rw [join_owed, List.map_cons, String.join_cons, block_right divided, unseen, String.append_assoc,
      String.append_assoc, String.append_assoc]

end Divided

end Underway

/-- A reading that fails never: what it has given out and what it owes join to a text. -/
inductive Delivers (store : Store) (reading : OutputReading) (total : String)
    (answers : List (Pull Item)) : Prop
  | going {behind ahead : List (Nat × Nat)} (underway : Underway store reading behind ahead)
    (sound : ∀ answer ∈ answers, ∃ text, answer = .item (.text text))
    (joined : String.join (Pull.texts answers) ++ String.join (reading.owed store ahead) = total)
  | ended (closed : reading.close = reading) (sound : ∀ reason, .fault reason ∉ answers)
    (stopped : .stop ∈ answers) (joined : String.join (Pull.texts answers) = total)

namespace Delivers

variable {total : String} {answers : List (Pull Item)}

theorem start {arena : Nat} {head : Int} {source : String}
    (rendered : store.render arena head source = .ok total) :
    Delivers store { walk := { arena, head }, source } total [] := by
  obtain ⟨passed, path, fits, rfl⟩ := Store.render_eq_ok_iff.mp rendered
  refine .going ⟨.start path, by simp, fits⟩ (by simp) ?_
  rw [join_owed]
  rfl

theorem asked (delivers : Delivers store reading total answers) :
    Delivers store (reading.next store).2 total (answers ++ [(reading.next store).1.map .text]) ∧
      (reading.next store).2.Of reading.walk.arena reading.walk.head reading.source := by
  cases delivers with
  | @going behind ahead underway sound joined =>
    cases due : reading.owed store ahead with
    | nil =>
      have silent : ∀ reason, .fault reason ∉ answers := fun reason failed => by
        obtain ⟨text, given⟩ := sound _ failed
        cases given
      rw [underway.next_of_owed_nil due, Pull.map]
      refine ⟨.ended rfl (by simpa using silent) (by simp) ?_, rfl, rfl, rfl⟩
      rw [Pull.texts_append_stop, ← joined, due]
      exact String.append_empty.symm
    | cons text others =>
      obtain ⟨later, behind, ahead', given, onward, left, target⟩ :=
        underway.next_of_owed_cons due
      rw [given, Pull.map]
      refine ⟨.going onward ?_ ?_, target⟩
      · exact List.forall_mem_append.mpr ⟨sound, by simp⟩
      · rw [Pull.texts_append_text, left, ← joined, due]
        simp [String.append_assoc]
  | ended closed sound stopped joined =>
    rw [← closed, next_close, Pull.map]
    refine ⟨.ended rfl (by simpa using sound) (List.mem_append_left _ stopped) ?_, rfl, rfl, rfl⟩
    rw [Pull.texts_append_stop, joined]

theorem not_mem_fault (delivers : Delivers store reading total answers) (reason : Fault) :
    .fault reason ∉ answers := by
  cases delivers with
  | going underway sound joined =>
    intro failed
    obtain ⟨text, given⟩ := sound _ failed
    cases given
  | ended closed sound stopped joined => exact sound reason

theorem of_stop_mem (delivers : Delivers store reading total answers) (stopped : .stop ∈ answers) :
    String.join (Pull.texts answers) = total := by
  cases delivers with
  | going underway sound joined =>
    obtain ⟨text, given⟩ := sound _ stopped
    cases given
  | ended closed sound stopped joined => exact joined

section Divided

variable {piece position : Nat}

theorem divided_elsewhere (delivers : Delivers store reading total answers)
    (slots : store.SlotsKnown reading.walk.arena)
    (divided : Store.Divided store after reading.walk.arena piece position)
    (same : ∀ queue, after.queue queue = store.queue queue)
    (elsewhere : reading.walk.place ≠ .after piece) : Delivers after reading total answers := by
  cases delivers with
  | going underway sound joined =>
    obtain ⟨_, _, onward, due⟩ := underway.divided_elsewhere slots divided same elsewhere
    exact .going onward sound (due ▸ joined)
  | ended closed sound stopped joined => exact .ended closed sound stopped joined

theorem divided_here (delivers : Delivers store reading total answers)
    (slots : store.SlotsKnown reading.walk.arena)
    (divided : Store.Divided store after reading.walk.arena piece position)
    (same : ∀ queue, after.queue queue = store.queue queue)
    (here : reading.walk.place = .after piece)
    (rendered : store.render reading.walk.arena reading.walk.head reading.source = .ok total) :
    let block (step : Nat × Nat) := (store.piece step.2).block reading.source
    ∃ passed slot ahead, Store.Chain store reading.walk.arena (some reading.walk.head)
        (passed ++ (slot, piece) :: ahead) none ∧
      total = String.join (passed.map block) ++ block (slot, piece) ++ String.join (ahead.map block) ∧
      Delivers after reading (String.join (passed.map block) ++ block (slot, piece) ++
        (slice reading.source position (store.piece piece).span.stop ++
          String.join ((store.piece piece).outro.map Fragment.text)) ++
        String.join (ahead.map block)) answers := by
  intro block
  cases delivers with
  | @going behind ahead underway sound joined =>
    obtain ⟨passed, slot, ahead', rfl, onward, due⟩ :=
      underway.divided_here slots divided same here
    have path := underway.walk.chain
    rw [List.append_assoc, List.singleton_append] at path
    obtain ⟨whole, path', _, shown⟩ := Store.render_eq_ok_iff.mp rendered
    obtain ⟨rfl, _⟩ := path'.unique Store.halts_none path Store.halts_none
    have parts : total = String.join (passed.map block) ++ block (slot, piece) ++
        String.join (ahead.map block) := by
      rw [shown]
      simp [block, String.append_assoc]
    refine ⟨passed, slot, ahead, path, parts, .going onward sound ?_⟩
    -- What was given out and what is left of the piece join to the blocks up to it.
    have given : String.join (Pull.texts answers) ++
        String.join (reading.parts.flatMap Part.texts) =
          String.join (passed.map block) ++ block (slot, piece) := by
      rw [join_owed, ← String.append_assoc] at joined
      exact (String.append_left_inj _).mp (joined.trans parts)
    rw [due, ← given]
    simp [String.append_assoc, block]
  | ended closed sound stopped joined =>
    rw [← closed] at here
    cases here

end Divided

end Delivers

end OutputReading

theorem Cursor.next_output (store : Store) (reading : OutputReading) :
    Cursor.next store (.output reading) =
      ((reading.next store).1.map .text, .output (reading.next store).2) := rfl

def Cursor.OwesTexts (store : Store) (cursor : Cursor) (count : Nat) : Prop :=
  ∃ reading, cursor = .output reading ∧ ∃ behind ahead,
    OutputReading.Underway store reading behind ahead ∧ (reading.owed store ahead).length = count

theorem Cursor.stop_mem_pull_output {store : Store} {reading : OutputReading} {total : String}
    {answers : List (Pull Item)} (delivers : reading.Delivers store total answers) :
    ∃ count, .stop ∈ (Cursor.pull store count (.output reading)).1.answers := by
  cases delivers with
  | @going behind ahead underway sound joined =>
    refine ⟨(reading.owed store ahead).length + 1,
      Cursor.stop_mem_pull (OwesTexts store) ?_ ?_ ⟨reading, rfl, behind, ahead, underway, rfl⟩⟩
    · rintro _ ⟨reading, rfl, behind, ahead, underway, none⟩
      rw [Cursor.next_output, underway.next_of_owed_nil (List.eq_nil_of_length_eq_zero none)]
      rfl
    · rintro _ count ⟨reading, rfl, behind, ahead, underway, due⟩
      obtain ⟨text, others, split⟩ := List.exists_cons_of_length_eq_add_one due
      obtain ⟨later, behind, ahead', given, onward, left, _⟩ := underway.next_of_owed_cons split
      rw [Cursor.next_output, given]
      refine ⟨_, _, rfl, later, rfl, behind, ahead', onward, ?_⟩
      rw [left]
      simpa [split] using due
  | ended closed sound stopped joined =>
    refine ⟨1, ?_⟩
    rw [Cursor.answers_pull_one, Cursor.next_output, ← closed, OutputReading.next_close]
    exact List.mem_singleton_self _

namespace Workspace

variable {printable : Char → Bool} {workspace : Workspace} {id arena : Nat} {head : Int}
  {source text total : String}

/-- The piece that an output has given its latest text of. -/
def latestPiece? (workspace : Workspace) (id : Nat) : Option Nat :=
  match workspace.cursors[id]? with
  | some (.output reading) =>
    match reading.walk.place with
    | .after piece => some piece
    | _ => none
  | _ => none

/-- A division is accepted, and the piece is the one an output has given its latest text of. -/
def dividesLatest (workspace : Workspace) (id arena : Nat) (index offset : Int) : Bool :=
  match workspace.latestPiece? id, workspace.store.slot? arena index,
    (workspace.store.divideSlot workspace.cap arena index offset).result with
  | some latest, some piece, .ok _ => latest == piece
  | _, _, _ => false

/-- What may happen around an output that is read: divisions in its arena of other pieces than the
one it is in. -/
def SparesLatest (id arena : Nat) (workspace : Workspace) : Action → Prop
  | .divideSlot target index offset =>
    target = arena ∧ workspace.dividesLatest id arena index offset = false
  | .setCap _ | .ask _ | .openWalk .. | .openListing _ | .openParts .. | .openOutput .. | .pull .. =>
    True
  | _ => False

instance (id arena : Nat) (workspace : Workspace) :
    (action : Action) → Decidable (SparesLatest id arena workspace action)
  | .divideSlot target _ _ => inferInstanceAs (Decidable (target = arena ∧ _ = false))
  | .setCap _ | .ask _ | .openWalk .. | .openListing _ | .openParts .. | .openOutput .. | .pull .. =>
    .isTrue trivial
  | .openArena | .create _ | .push .. | .decorate .. | .edit .. | .divide .. | .setNext ..
  | .setStoreName .. | .setSpan .. | .setEdited .. => .isFalse not_false

def Delivering (arena : Nat) (head : Int) (source text total : String) (store : Store)
    (cursor : Cursor) (answers : List (Pull Item)) : Prop :=
  ∃ reading : OutputReading, cursor = .output reading ∧ reading.Of arena head source ∧
    store.SlotsKnown arena ∧ store.render arena head source = .ok text ∧
    reading.Delivers store total answers

theorem delivering_next {store : Store} {cursor : Cursor} {answers : List (Pull Item)}
    (delivering : Delivering arena head source text total store cursor answers) :
    Delivering arena head source text total store (cursor.next store).2
      (answers ++ [(cursor.next store).1]) := by
  obtain ⟨reading, rfl, ⟨rfl, rfl, rfl⟩, slots, rendered, delivers⟩ := delivering
  obtain ⟨later, target⟩ := delivers.asked
  exact ⟨_, rfl, target, slots, rendered, later⟩

theorem delivering_perform {cursor : Cursor} {answers : List (Pull Item)} {action : Action}
    (spares : SparesLatest id arena workspace action)
    (held : workspace.cursors[id]? = some cursor)
    (delivering : Delivering arena head source text total workspace.store cursor answers) :
    Delivering arena head source text total (workspace.perform printable action).workspace.store
      cursor answers := by
  cases action with
  | divideSlot target index offset =>
    obtain ⟨rfl, spares⟩ := spares
    rw [store_perform]
    obtain ⟨reading, rfl, ⟨rfl, rfl, rfl⟩, slots, rendered, delivers⟩ := delivering
    rcases Store.divideSlot_cases slots workspace.cap index offset with
      ⟨fault, refused⟩ | ⟨piece, position, found, rfl, accepted, divided⟩
    · simp only [refused]
      exact ⟨reading, rfl, ⟨rfl, rfl, rfl⟩, slots, rendered, delivers⟩
    · have elsewhere : reading.walk.place ≠ .after piece := by
        intro here
        simp [dividesLatest, latestPiece?, held, here, found, accepted] at spares
      exact ⟨reading, rfl, ⟨rfl, rfl, rfl⟩, divided.slotsKnown slots,
        divided.render slots rendered, delivers.divided_elsewhere slots divided
          (Store.queue_divideSlot _ _ _ _ _) elsewhere⟩
  | openArena | create | push | decorate | edit | divide | setNext | setStoreName | setSpan
  | setEdited => exact spares.elim
  | _ =>
    rw [store_perform]
    exact delivering

theorem delivering_run {cursor : Cursor} {past : List (Pull Item)} {actions : List Action}
    (held : workspace.cursors[id]? = some cursor)
    (delivering : Delivering arena head source text total workspace.store cursor past)
    (along : workspace.Along printable (SparesLatest id arena) actions) :
    ∃ later, (workspace.run printable actions).cursors[id]? = some later ∧
      Delivering arena head source text total (workspace.run printable actions).store later
        (past ++ workspace.answers printable id actions) :=
  life_keeps_answers _ delivering_next delivering_perform held delivering along

/-- Over a run a cursor does not fail. It can be read to its end, and if it is, it has given out
a text. -/
def Yields (printable : Char → Bool) (id : Nat) (workspace : Workspace) (actions : List Action)
    (text : String) : Prop :=
  let answers := workspace.answers printable id actions
  (∀ reason, .fault reason ∉ answers) ∧
    (.stop ∈ answers → String.join (Pull.texts answers) = text) ∧
    ∃ count, .stop ∈ workspace.answers printable id (actions ++ [.pull id count])

theorem yields_of_delivering {cursor : Cursor} {actions : List Action}
    (held : (workspace.run printable actions).cursors[id]? = some cursor)
    (delivering : Delivering arena head source text total (workspace.run printable actions).store
      cursor (workspace.answers printable id actions)) :
    workspace.Yields printable id actions total := by
  obtain ⟨reading, rfl, _, _, _, delivers⟩ := delivering
  refine ⟨delivers.not_mem_fault, delivers.of_stop_mem, ?_⟩
  obtain ⟨count, stopped⟩ := Cursor.stop_mem_pull_output delivers
  refine ⟨count, ?_⟩
  rw [answers_append_pull held]
  exact List.mem_append_right _ stopped

theorem delivering_divide_latest {cursor : Cursor} {answers : List (Pull Item)}
    {index offset : Int} {piece new : Nat} (held : workspace.cursors[id]? = some cursor)
    (delivering : Delivering arena head source text text workspace.store cursor answers)
    (latest : workspace.latestPiece? id = some piece)
    (found : workspace.store.slot? arena index = some piece)
    (accepted : (workspace.store.divideSlot workspace.cap arena index offset).result = .ok new) :
    let block (step : Nat × Nat) : String := (workspace.store.piece step.2).block source
    ∃ before slot after,
      Store.Chain workspace.store arena (some head) (before ++ (slot, piece) :: after) none ∧
      text = String.join (before.map block) ++ block (slot, piece) ++
        String.join (after.map block) ∧
      Delivering arena head source text (String.join (before.map block) ++ block (slot, piece) ++
          (slice source offset.toNat (workspace.store.stored piece).span.stop ++
            String.join ((workspace.store.piece piece).outro.map Fragment.text)) ++
          String.join (after.map block))
        (workspace.perform printable (.divideSlot arena index offset)).workspace.store cursor
        answers := by
  obtain ⟨reading, rfl, ⟨rfl, rfl, rfl⟩, slots, rendered, delivers⟩ := delivering
  have here : reading.walk.place = .after piece := by
    simp only [latestPiece?, held] at latest
    split at latest
    · rename_i last place
      cases latest
      exact place
    · cases latest
  rcases Store.divideSlot_cases slots workspace.cap index offset with
    ⟨fault, refused⟩ | ⟨divided, position, found', rfl, _, halves⟩
  · simp [refused] at accepted
  · cases found.symm.trans found'
    obtain ⟨passed, slot, ahead, path, parts, later⟩ := delivers.divided_here slots halves
      (Store.queue_divideSlot _ _ _ _ _) here rendered
    exact ⟨passed, slot, ahead, path, parts, reading, rfl, ⟨rfl, rfl, rfl⟩,
      halves.slotsKnown slots, halves.render slots rendered, later⟩

/-- An output whose arena is divided between the requests never fails. If the divided pieces are
never the one it is in, it gives out the text that would have been rendered at once. If one of
them is, it gives out that text with what the right half shows, the rest of the source there and
the outro a second time, inserted after the block of the divided piece. -/
theorem output_run_of_divisions (slots : workspace.store.SlotsKnown arena)
    (held : workspace.cursors[id]? = some (.output { walk := { arena, head }, source }))
    (rendered : workspace.store.render arena head source = .ok text) {actions : List Action}
    (along : workspace.Along printable (SparesLatest id arena) actions) :
    workspace.Yields printable id actions text ∧
    let now := workspace.run printable actions
    let block (step : Nat × Nat) : String := (now.store.piece step.2).block source
    ∀ {index offset : Int} {piece new : Nat} {later : List Action},
      now.latestPiece? id = some piece → now.store.slot? arena index = some piece →
      (now.store.divideSlot now.cap arena index offset).result = .ok new →
      (now.perform printable (.divideSlot arena index offset)).workspace.Along printable
        (SparesLatest id arena) later →
      ∃ before slot after,
        Store.Chain now.store arena (some head) (before ++ (slot, piece) :: after) none ∧
        text = String.join (before.map block) ++ block (slot, piece) ++
          String.join (after.map block) ∧
        workspace.Yields printable id (actions ++ .divideSlot arena index offset :: later)
          (String.join (before.map block) ++ block (slot, piece) ++
            (slice source offset.toNat (now.store.stored piece).span.stop ++
              String.join ((now.store.piece piece).outro.map Fragment.text)) ++
            String.join (after.map block)) := by
  have start : Delivering arena head source text text workspace.store
      (.output { walk := { arena, head }, source }) [] :=
    ⟨_, rfl, ⟨rfl, rfl, rfl⟩, slots, rendered, .start rendered⟩
  obtain ⟨cursor, kept, delivering⟩ := delivering_run held start along
  rw [List.nil_append] at delivering
  refine ⟨yields_of_delivering kept delivering, ?_⟩
  intro now block index offset piece new later latest found accepted onward
  obtain ⟨before, slot, after, path, parts, halved⟩ :=
    delivering_divide_latest kept delivering latest found accepted
  have unasked : ∀ count, Action.divideSlot arena index offset ≠ .pull id count := nofun
  obtain ⟨last, kept', delivering'⟩ := delivering_run (cursor_perform kept unasked) halved onward
  rw [← answers_append_cons unasked] at delivering'
  exact ⟨before, slot, after, path, parts,
    yields_of_delivering (by rwa [run_append]) (by rwa [run_append])⟩

/-- Two pieces, the first with an outro. While its content has been given out and its outro has
not, the second is divided and then the first; further on the first is divided again. -/
theorem output_run_of_divisions_of_opened_piece :
    let halves : Store := ((Store.document 6 (by decide)).divideSlot defaultCap 0 0 4).store
    let start : Workspace :=
      { store := halves.insertInto 2 .back (.owned ">")
        cursors := #[.output { walk := { arena := 0, head := 0 }, source := "abcdef" }] }
    let spares := SparesLatest 0 0
    let first : List Action := [.pull 0 1, .divideSlot 0 1 5]
    let now := start.run (fun _ => true) first
    let later : List Action := [.pull 0 2, .divideSlot 0 0 1, .pull 0 9]
    let answers := start.answers (fun _ => true) 0 (first ++ .divideSlot 0 0 2 :: later)
    start.store.SlotsKnown 0 ∧ start.store.render 0 0 "abcdef" = .ok "abcd>ef" ∧
    start.Along (fun _ => true) spares first ∧ now.latestPiece? 0 = some 0 ∧
    now.store.slot? 0 0 = some 0 ∧ (now.store.divideSlot now.cap 0 0 2).result = .ok 3 ∧
    (now.perform (fun _ => true) (.divideSlot 0 0 2)).workspace.Along (fun _ => true) spares later ∧
    start.Yields (fun _ => true) 0 first "abcd>ef" ∧ (∀ reason, .fault reason ∉ answers) ∧
    String.join (Pull.texts answers) = "abcd>cd>ef" := by
  intro halves start spares first now later answers
  have slots : start.store.SlotsKnown 0 := by
    unfold Store.SlotsKnown
    decide +kernel
  have held : start.cursors[0]? =
      some (.output { walk := { arena := 0, head := 0 }, source := "abcdef" }) := rfl
  have rendered : start.store.render 0 0 "abcdef" = .ok "abcd>ef" := by decide +kernel
  have along : start.Along (fun _ => true) spares first := by decide +kernel
  have latest : now.latestPiece? 0 = some 0 := by decide +kernel
  have found : now.store.slot? 0 0 = some 0 := by decide +kernel
  have accepted : (now.store.divideSlot now.cap 0 0 2).result = .ok 3 := by decide +kernel
  have onward : (now.perform (fun _ => true) (.divideSlot 0 0 2)).workspace.Along (fun _ => true)
      spares later := by decide +kernel
  obtain ⟨spared, divided⟩ := output_run_of_divisions slots held rendered along
  obtain ⟨_, _, _, _, _, sound, _⟩ := divided latest found accepted onward
  exact ⟨slots, rendered, along, latest, found, accepted, onward, spared, sound, by decide +kernel⟩

end Workspace

end Patchwork
