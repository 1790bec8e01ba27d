import Patchwork.Proofs.History
import Patchwork.Proofs.Legible

/-! # Records retell an arena

An arena records every push with its slot and span, and every division with the slot that is divided,
the offset and the slot of the right half. Replayed from an empty list of spans, these records fit one
after the other and give the spans of the arena in slot order: what one action records takes the spans
from before it to those after it, whichever slots are divided, in which order and between which edits.
An edit is recorded with the span of its piece, which no later action of such a run changes. Messages
tell their records apart, so the replay can start from them.
-/
namespace Patchwork

/-! ### Messages -/

theorem Span.brackets_eq (span : Span) : span.brackets =
    "[" ++ (toString span.start ++ ", " ++ (toString span.stop ++ ")")) := by
  unfold brackets
  simp only [String.append_assoc]
  rfl

theorem Span.legible_brackets : Legible brackets id := by
  rw [funext brackets_eq]
  exact (Legible.span ", " ")" ⟨',', rfl, rfl⟩ ⟨')', rfl, rfl⟩).precededBy "["

namespace Event

theorem message_pushed (slot : Nat) (span : Span) : (pushed slot span).message =
    "Pushed chunk " ++ (toString slot ++ " spanning " ++ span.brackets) := by
  unfold message
  simp only [String.append_assoc]
  rfl

theorem message_divided (slot offset newSlot : Nat) : (divided slot offset newSlot).message =
    "Split chunk " ++ (toString slot ++ " at " ++ (toString offset ++ " into " ++
      toString newSlot)) := by
  unfold message
  simp only [String.append_assoc]
  rfl

theorem message_edited (span : Span) (policy : EditPolicy) : (edited span policy).message =
    "Edited chunk " ++ (span.brackets ++ (" overwrite=" ++ (writeFlag policy.overwrite ++
      (" store_name=" ++ writeFlag policy.storeName)))) := by
  unfold message
  simp only [String.append_assoc]
  rfl

def initial : Event → Char
  | pushed .. => 'P'
  | divided .. => 'S'
  | edited .. => 'E'

theorem head?_message (event : Event) : event.message.toList.head? = some event.initial := by
  cases event <;> simp only [message_pushed, message_divided, message_edited, String.toList_append] <;> rfl

/-- No two records read alike. -/
theorem message_injective : Function.Injective message := by
  intro a b same
  have initials : a.initial = b.initial := by
    rw [← Option.some.injEq, ← head?_message, ← head?_message, same]
  have number (stop : String) (closed : ∃ first ∈ stop.toList.head?, first.isDigit = false) :
      Legible (fun number : Nat => toString number ++ stop) id := Legible.natural closed
  have flags : Legible writeFlag id := Legible.word ⟨'T', rfl, (by decide : 'T' ≠ 'F')⟩ rfl
  cases a <;> cases b <;> cases initials
  case pushed.pushed slot span slot' span' =>
    have slots := number " spanning " ⟨' ', rfl, rfl⟩ slot slot'
    rw [message_pushed, message_pushed, String.append_right_inj, slots,
      Span.legible_brackets.write_eq_iff] at same
    obtain ⟨rfl, rfl⟩ := same
    rfl
  case divided.divided slot offset newSlot slot' offset' newSlot' =>
    have slots := number " at " ⟨' ', rfl, rfl⟩ slot slot'
    have offsets := number " into " ⟨' ', rfl, rfl⟩ offset offset'
    rw [message_divided, message_divided, String.append_right_inj, slots, offsets] at same
    obtain ⟨rfl, rfl, last⟩ := same
    have lasts := (number " " ⟨' ', rfl, rfl⟩).write_eq_iff.mp (congrArg (· ++ " ") last)
    exact congrArg (divided slot offset) lasts
  case edited.edited span policy span' policy' =>
    rw [message_edited, message_edited, String.append_right_inj, Span.legible_brackets span span',
      String.append_right_inj, flags policy.overwrite policy'.overwrite, String.append_right_inj,
      flags.write_eq_iff] at same
    obtain ⟨spans, overwrite, storeName⟩ := same
    obtain ⟨_, _⟩ := policy
    obtain ⟨_, _⟩ := policy'
    exact congr (congrArg edited spans) (congr (congrArg EditPolicy.mk overwrite) storeName)

/-! ### Replay -/

/-- What a record makes of a list of spans, if it fits the list. The span of a pushed piece comes at the
end, where its slot is. When a piece has been split, the span of its right half is at the end already,
and its own is cut off there. -/
def replay (spans : List Span) : Event → Option (List Span)
  | pushed slot span => if slot = spans.length then some (spans ++ [span]) else none
  | divided slot offset newSlot =>
    match spans[slot]? with
    | none => none
    | some whole =>
      if inside : whole.start < offset ∧ offset < whole.stop then
        if newSlot + 1 = spans.length ∧ spans[newSlot]? = some ⟨offset, whole.stop, inside.2⟩ then
          some (spans.set slot ⟨whole.start, offset, inside.1⟩)
        else none
      else none
  | edited .. => some spans

variable {spans : List Span}

theorem replay_pushed (span : Span) :
    List.foldlM replay spans [pushed spans.length span] = some (spans ++ [span]) := by
  simp [replay]

/-- A split is recorded by two records, of which the second finds what the first has put down. -/
theorem replay_divided {slot offset : Nat} {whole : Span} (held : spans[slot]? = some whole)
    (inside : whole.start < offset ∧ offset < whole.stop) :
    List.foldlM replay spans [pushed spans.length ⟨offset, whole.stop, inside.2⟩,
        divided slot offset spans.length] =
      some (spans.set slot ⟨whole.start, offset, inside.1⟩ ++ [⟨offset, whole.stop, inside.2⟩]) := by
  obtain ⟨there, _⟩ := List.getElem?_eq_some_iff.mp held
  have kept : (spans ++ [(⟨offset, whole.stop, inside.2⟩ : Span)])[slot]? = some whole := by
    rw [List.getElem?_append_left there, held]
  simp [replay, kept, inside, List.set_append_left _ _ there]

end Event

/-- A list read otherwise at one of its members, which it has once. -/
theorem map_eq_set_of_nodup {α β : Type} {values : List α} {value : α} {place : Nat}
    (once : values.Nodup) (held : values[place]? = some value) {f g : α → β}
    (same : ∀ other ∈ values, other ≠ value → f other = g other) :
    values.map f = (values.map g).set place (f value) := by
  obtain ⟨there, rfl⟩ := List.getElem?_eq_some_iff.mp held
  apply List.ext_getElem (by simp)
  intro index inside _
  rw [List.length_map] at inside
  rw [List.getElem_map, List.getElem_set, List.getElem_map]
  split
  · rename_i here
    simp only [here]
  · rename_i apart
    exact same _ (List.getElem_mem inside) fun equal => apart (once.getElem_inj_iff.mp equal).symm

namespace Store

variable {store after : Store} {arena : Nat}

/-- The spans of the pieces of an arena, in slot order. -/
def spans (store : Store) (arena : Nat) : List Span := (store.listing arena).map Piece.span

theorem spans_eq (store : Store) (arena : Nat) :
    store.spans arena = (store.arena arena).toList.map fun piece => (store.stored piece).span := by
  simp [spans, listing, Store.piece]

@[simp] theorem length_spans (store : Store) (arena : Nat) :
    (store.spans arena).length = (store.arena arena).size := by
  simp [spans, listing]

theorem getElem?_of_slot? {index : Int} {piece : Nat} (found : store.slot? arena index = some piece) :
    (store.arena arena)[index.toNat]? = some piece := by
  unfold slot? at found
  split at found
  · exact found
  · cases found

theorem spans_congr (slots : after.arena arena = store.arena arena)
    (same : ∀ piece ∈ store.arena arena, (after.stored piece).span = (store.stored piece).span) :
    after.spans arena = store.spans arena := by
  rw [spans_eq, spans_eq, slots]
  exact List.map_congr_left fun piece held => same piece (Array.mem_toList_iff.mp held)

theorem log_divide (store : Store) (cap : Int) (piece : Nat) (offset : Int) :
    (store.divide cap piece offset).log = [] := by
  unfold divide
  split <;> rfl

theorem span_setNext (store : Store) (piece : Nat) (next : Option Int) (other : Nat) :
    ((store.setNext piece next).stored other).span = (store.stored other).span :=
  stored_setPiece_keeps Piece.span (by rfl) other

/-- What is recorded of a division in a slot: the push of the right half, then the division. -/
theorem log_divideSlot {cap index offset : Int} {slot : Nat}
    (given : (store.divideSlot cap arena index offset).result = .ok slot) :
    (store.divideSlot cap arena index offset).log =
      [.pushed (store.arena arena).size
          ((store.divideSlot cap arena index offset).store.stored store.pieces.size).span,
        .divided index.toNat offset.toNat (store.arena arena).size] := by
  unfold divideSlot at given ⊢
  split at given
  · cases given
  · rename_i piece found
    have silent := store.log_divide cap piece offset
    have slots := store.arena_divide cap piece offset arena
    rcases cut : store.divide cap piece offset with ⟨_ | right, halved, log⟩ <;>
      rw [cut] at given silent slots
    · cases given
    · obtain ⟨rfl, _⟩ := divide_eq_ok_iff.mp (congrArg Outcome.result cut)
      simp only at silent slots
      simp only [Outcome.andThen, push, silent, slots, span_setNext, stored_appendSlot]
      rfl

theorem spans_appendSlot (known : arena < store.arenas.size) (piece : Nat) :
    (store.appendSlot arena piece).spans arena = store.spans arena ++ [(store.stored piece).span] := by
  simp [spans_eq, arena_appendSlot known]

theorem Divided.spans_eq {piece position slot : Nat} (divided : Divided store after arena piece position)
    (slots : store.SlotsKnown arena) (once : (store.arena arena).toList.Nodup)
    (held : (store.arena arena)[slot]? = some piece) :
    after.spans arena = (store.spans arena).set slot ⟨_, position, divided.inside.1⟩ ++
      [⟨position, _, divided.inside.2⟩] := by
  have left := congrArg Piece.span divided.left
  have right := congrArg Piece.span divided.right
  have shortened : (store.arena arena).toList.map (fun held => (after.stored held).span) =
      ((store.arena arena).toList.map fun held => (store.stored held).span).set slot
        (after.stored piece).span := by
    refine map_eq_set_of_nodup once (by rw [Array.getElem?_toList, held]) fun other among apart => ?_
    have known := slots other (Array.mem_toList_iff.mp among)
    have kept := congrArg Piece.span (divided.other known apart)
    exact kept
  rw [Store.spans_eq, Store.spans_eq, divided.arena_eq, Array.toList_push, List.map_append, shortened,
    List.map_singleton]
  exact congrArg₂ (fun first last => List.set _ slot first ++ [last]) left right

theorem replay_divideSlot {cap index : Int} {piece position newSlot : Nat} (slots : store.SlotsKnown arena)
    (once : (store.arena arena).toList.Nodup) (found : store.slot? arena index = some piece)
    (gives : (store.divideSlot cap arena index position).result = .ok newSlot)
    (divided : Divided store (store.divideSlot cap arena index position).store arena piece position) :
    List.foldlM Event.replay (store.spans arena) (store.divideSlot cap arena index position).log =
      some ((store.divideSlot cap arena index position).store.spans arena) := by
  have held := getElem?_of_slot? found
  have covered : (store.spans arena)[index.toNat]? = some (store.stored piece).span := by
    rw [spans_eq, List.getElem?_map, Array.getElem?_toList, held]
    rfl
  have right : ((store.divideSlot cap arena index position).store.stored store.pieces.size).span =
      ⟨position, _, divided.inside.2⟩ := congrArg Piece.span divided.right
  rw [log_divideSlot gives, right, Int.toNat_natCast, ← length_spans, divided.spans_eq slots once held]
  exact Event.replay_divided covered divided.inside

end Store

/-- What leaves a trace in the records of one arena, or changes no span: pieces are pushed into it once
each and divided in its slots, and any pieces are decorated and edited. -/
def Action.Recorded (arena : Nat) (store : Store) : Action → Prop
  | .push target piece => target = arena ∧ piece ∉ store.arena arena
  | .divideSlot target _ _ => target = arena
  | .divide .. | .setNext .. | .setStoreName .. | .setSpan .. | .setEdited .. => False
  | _ => True

instance decidableRecorded (arena : Nat) (store : Store) :
    ∀ action : Action, Decidable (action.Recorded arena store)
  | .push target piece => inferInstanceAs (Decidable (target = arena ∧ piece ∉ store.arena arena))
  | .divideSlot target _ _ => inferInstanceAs (Decidable (target = arena))
  | .divide .. | .setNext .. | .setStoreName .. | .setSpan .. | .setEdited .. => .isFalse id
  | .setCap _ | .ask _ | .openArena | .create _ | .decorate .. | .edit .. | .openWalk .. | .openListing _
  | .openParts .. | .openOutput .. | .pull .. => .isTrue trivial

theorem Action.Recorded.assigned?_ne {arena : Nat} {store : Store} {action : Action}
    (recorded : action.Recorded arena store) (piece : Nat) : action.assigned? ≠ some piece := by
  cases action with
  | setNext | setStoreName | setSpan | setEdited => exact recorded.elim
  | _ => exact nofun

namespace Workspace

variable {printable : Char → Bool} {workspace : Workspace} {arena : Nat} {action : Action}

/-- The records that a run writes. -/
def records (printable : Char → Bool) (workspace : Workspace) (actions : List Action) : List Event :=
  workspace.collect printable (fun now action => (now.perform printable action).log) actions

theorem log_edit (workspace : Workspace) (piece : Nat) (content : Content) (policy : EditPolicy) :
    (workspace.perform printable (.edit piece content policy)).log =
      if (content.toFragment workspace.cap).isOk then
        [.edited (workspace.store.stored piece).span policy]
      else [] := by
  simp only [perform, settle, Store.edit]
  cases content.toFragment workspace.cap <;> rfl

/-- A step of the replay: the records of one action take the spans from before it to those after it. -/
theorem replay_perform (sound : workspace.store.WellFormed) (aimed : action.Aimed workspace.store)
    (recorded : action.Recorded arena workspace.store)
    (once : (workspace.store.arena arena).toList.Nodup) :
    let performance := workspace.perform printable action
    let after := performance.workspace.store
    (after.arena arena).toList.Nodup ∧
      List.foldlM Event.replay (workspace.store.spans arena) performance.log =
        some (after.spans arena) := by
  intro performance after
  have longer {new : Nat} (absent : new ∉ workspace.store.arena arena) :
      ((workspace.store.arena arena).push new).toList.Nodup := by
    rw [Array.toList_push, ← List.concat_eq_append]
    exact once.concat (mt Array.mem_toList_iff.mp absent)
  -- Most actions leave the slots and their spans alone; what they record, an edit at most, does so too.
  have still (slots : after.arena arena = workspace.store.arena arena)
      (same : ∀ piece ∈ workspace.store.arena arena,
        (after.stored piece).span = (workspace.store.stored piece).span)
      (silent : List.foldlM Event.replay (workspace.store.spans arena) performance.log =
        some (workspace.store.spans arena)) :
      (after.arena arena).toList.Nodup ∧
        List.foldlM Event.replay (workspace.store.spans arena) performance.log =
          some (after.spans arena) :=
    ⟨slots ▸ once, silent.trans (congrArg some (Store.spans_congr slots same).symm)⟩
  cases action with
  | push target piece =>
    obtain ⟨rfl, absent⟩ := recorded
    have known := aimed.2 target (List.mem_singleton_self _)
    have slots : after.arena target = (workspace.store.arena target).push piece :=
      (Store.arena_appendSlot known).trans (if_pos rfl)
    refine ⟨slots ▸ longer absent, ?_⟩
    simp only [performance, after, perform, settle, Store.push, ← Store.length_spans]
    rw [Event.replay_pushed, Store.spans_appendSlot known]
  | divideSlot target index offset =>
    obtain rfl : target = arena := recorded
    rcases Store.divideSlot_cases (fun _ => sound.slot_known target) workspace.cap index offset with
      ⟨fault, refused⟩ | ⟨piece, position, found, rfl, gives, divided⟩
    · simp only [performance, after, perform, settle, refused]
      exact ⟨once, rfl⟩
    · have absent : workspace.store.pieces.size ∉ workspace.store.arena target := fun held =>
        Nat.lt_irrefl _ (sound.slot_known target held)
      have slots : after.arena target = _ := divided.arena_eq
      refine ⟨slots ▸ longer absent, ?_⟩
      exact Store.replay_divideSlot (fun _ => sound.slot_known target) once found gives divided
  | create view =>
    refine still rfl (fun piece held => ?_) rfl
    have known := sound.slot_known arena held
    simp only [after, performance, perform, settle, Store.create, Store.stored_addPiece,
      Nat.ne_of_lt known, if_false]
  | openArena => exact still (Store.arena_addArena _ _) (fun _ _ => rfl) rfl
  | decorate piece side place content =>
    have same := Store.SameOutline.decorate workspace.store workspace.cap piece side place content
    refine still (same.arenas arena) (fun held _ => same.spans held) ?_
    simp only [performance, perform, settle, Store.decorate]
    cases content.toFragment workspace.cap <;> rfl
  | edit piece content policy =>
    have same := Store.SameOutline.edit workspace.store workspace.cap piece content policy
    refine still (same.arenas arena) (fun held _ => same.spans held) ?_
    simp only [performance, log_edit]
    split <;> rfl
  | openParts | pull =>
    have same : after = workspace.store := store_perform workspace _
    refine still (by rw [same]) (fun _ _ => by rw [same]) ?_
    simp only [performance, perform]
    split <;> rfl
  | divide | setNext | setStoreName | setSpan | setEdited => exact recorded.elim
  | _ => exact still rfl (fun _ _ => rfl) rfl

/-- Replayed from nothing, the records of a run give the spans of an arena that was empty at first. -/
theorem replay_run (sound : workspace.store.WellFormed) (empty : workspace.store.arena arena = #[])
    {actions : List Action} (along : workspace.Along printable (fun now action =>
      action.Aimed now.store ∧ action.Recorded arena now.store) actions) :
    List.foldlM Event.replay [] (workspace.records printable actions) =
      some ((workspace.run printable actions).store.spans arena) := by
  -- Carried along: what has been recorded so far replays to the spans as they are now. No piece may be in
  -- two slots, or a division in one of them would change the span in the other without a record.
  let told (now : Workspace) (seen : List Event) := now.store.WellFormed ∧
    (now.store.arena arena).toList.Nodup ∧
      List.foldlM Event.replay [] seen = some (now.store.spans arena)
  have start : told workspace [] :=
    ⟨sound, empty ▸ List.nodup_nil, by rw [Store.spans_eq, empty]; rfl⟩
  refine (along_keeps told ?_ start along).2.2
  rintro now seen action ⟨aimed, recorded⟩ ⟨sound, once, spans⟩
  obtain ⟨once', step⟩ := @replay_perform printable _ _ _ sound aimed recorded once
  refine ⟨wellFormed_perform sound aimed.1, once', ?_⟩
  rw [List.foldlM_append, spans]
  exact step

theorem log_of_fault {fault : Fault}
    (refused : (workspace.perform printable action).fault? = some fault) :
    (workspace.perform printable action).log = [] := by
  by_cases edits : ∃ piece content policy, action = .edit piece content policy
  · obtain ⟨piece, content, policy, rfl⟩ := edits
    rw [(perform_edit_of_fault refused).2]
  · exact (perform_of_fault refused fun piece content policy edit =>
      edits ⟨piece, content, policy, edit⟩).1

theorem edit_of_mem_log {span : Span} {policy : EditPolicy}
    (among : .edited span policy ∈ (workspace.perform printable action).log) :
    ∃ piece content, action = .edit piece content policy ∧
      (content.toFragment workspace.cap).isOk ∧ span = (workspace.store.stored piece).span := by
  cases action with
  | edit piece content policy =>
    rw [log_edit] at among
    split at among
    · rename_i kept
      cases List.mem_singleton.mp among
      exact ⟨piece, content, rfl, kept, rfl⟩
    · cases among
  | push => cases List.mem_singleton.mp among
  | divideSlot arena index offset =>
    cases given : (workspace.store.divideSlot workspace.cap arena index offset).result with
    | error fault => simp [perform, settle, Store.divideSlot_of_error given] at among
    | ok slot => simp [perform, settle, Store.log_divideSlot given] at among
  | decorate piece side place content =>
    simp only [perform, settle, Store.decorate] at among
    split at among <;> cases among
  | divide piece offset => simp [perform, settle, Store.log_divide] at among
  | setEdited piece content =>
    cases content with
    | none => cases among
    | some content =>
      simp only [perform] at among
      split at among <;> cases among
  | openParts | pull =>
    simp only [perform] at among
    split at among <;> cases among
  | _ => cases among

theorem edited_run_keeps_span {piece : Nat} (sound : workspace.store.WellFormed)
    (known : piece < workspace.store.pieces.size)
    (edited : (workspace.store.piece piece).edited ≠ none) {actions : List Action}
    (along : workspace.Along printable (fun now action =>
      action.Known now.store ∧ action.assigned? ≠ some piece) actions) :
    ((workspace.run printable actions).store.stored piece).span =
      (workspace.store.stored piece).span := by
  have acted : ∀ {before after : PieceView} {deed : Deed}, deed.Changes before after →
      before.edited ≠ none ∧ before.span = (workspace.store.stored piece).span →
      after.edited ≠ none ∧ after.span = (workspace.store.stored piece).span := by
    rintro before after deed changes ⟨edited, same⟩
    obtain ⟨edited', stop⟩ := changes.keeps_stop ⟨edited, rfl⟩
    exact ⟨edited', (Span.ext changes.start stop).trans same⟩
  have kept := @deeds_keep printable workspace piece
    (fun now _ => now.edited ≠ none ∧ now.span = (workspace.store.stored piece).span)
    (fun held changes => acted changes held) sound known [] ⟨edited, rfl⟩ actions along
  exact kept.2.2.2

theorem edited_perform_edit {piece : Nat} {content : Content} {policy : EditPolicy}
    (sound : workspace.store.WellFormed) (known : piece < workspace.store.pieces.size)
    (kept : (content.toFragment workspace.cap).isOk) :
    let after := (workspace.perform printable (.edit piece content policy)).workspace.store
    piece < after.pieces.size ∧ (after.piece piece).edited ≠ none ∧
      (after.stored piece).span = (workspace.store.stored piece).span := by
  intro after
  have same := Store.SameOutline.edit workspace.store workspace.cap piece content policy
  refine ⟨Nat.lt_of_lt_of_eq known same.size.symm, ?_, same.spans piece⟩
  cases measured : content.toFragment workspace.cap with
  | error fault => simp [measured, Except.isOk, Except.toBool] at kept
  | ok fragment =>
    have shows : after.piece piece = _ := Store.piece_edit sound known known measured
    rw [shows, if_pos rfl]
    exact Option.some_ne_none fragment

/-- The records of a run on one arena retell it. Replayed in order from an empty list, each fits the spans
that those before it have left: a push is recorded with the next number, a division with the number of the
last slot and an offset at which the span there starts. What comes out is the spans of the arena, in slot
order. A refused call leaves no record. The span that an edit is recorded with is that of its piece, then
and for the rest of the run. No two records read alike, so all this can be told from their messages. -/
theorem run_retold_by_records (sound : workspace.store.WellFormed)
    (empty : workspace.store.arena arena = #[]) {actions : List Action}
    (along : workspace.Along printable (fun now action =>
      action.Aimed now.store ∧ action.Recorded arena now.store) actions) :
    List.foldlM Event.replay [] (workspace.records printable actions) =
        some (((workspace.run printable actions).store.listing arena).map Piece.span) ∧
    (∀ first action rest, actions = first ++ action :: rest →
      let performance := (workspace.run printable first).perform printable action
      (∀ fault, performance.fault? = some fault → performance.log = []) ∧
      ∀ span policy, .edited span policy ∈ performance.log →
        ∃ piece content, action = .edit piece content policy ∧
          ∀ later, later <+: rest →
            ((workspace.run printable (first ++ action :: later)).store.piece piece).span = span) ∧
    Function.Injective Event.message := by
  refine ⟨replay_run sound empty along, ?_, Event.message_injective⟩
  rintro first action rest rfl
  refine ⟨fun fault refused => log_of_fault refused, fun span policy among => ?_⟩
  obtain ⟨before, ⟨aimed, _⟩, after⟩ := along_append.mp along
  have sound' := wellFormed_run sound (along_mono (fun only => only.1.1) before)
  obtain ⟨piece, content, rfl, kept, rfl⟩ := edit_of_mem_log among
  have known := aimed.1 piece (List.mem_singleton_self _)
  obtain ⟨known', edited, same⟩ := @edited_perform_edit printable _ _ _ _ sound' known kept
  refine ⟨piece, content, rfl, ?_⟩
  rintro later ⟨others, rfl⟩
  have onward := edited_run_keeps_span (wellFormed_perform sound' aimed.1) known' edited
    (along_mono (fun only => ⟨only.1.1, only.2.assigned?_ne piece⟩) (along_append.mp after).1)
  have run : workspace.run printable (first ++ .edit piece content policy :: later) = _ := run_append _ _ _
  rw [run]
  exact onward.trans same

/-- Two pieces are pushed and divided in several slots. A division at an edge, one of an edited half, one
in a missing slot and an edit under a low cap are refused. -/
theorem run_retold_by_records_of_two_pieces :
    let workspace := ({} : Workspace).run (fun _ => true) [.openArena,
      .create { span := ⟨0, 9, by decide⟩, intro := [], outro := [] },
      .create { span := ⟨20, 26, by decide⟩, intro := [.owned "<"], outro := [], next := some 0 }]
    let actions : List Action := [.push 0 1, .divideSlot 0 0 23, .push 0 0, .divideSlot 0 2 9,
      .divideSlot 0 2 5, .decorate 0 .outro .back (.plain ">"), .edit 2 (.plain "new") {},
      .divideSlot 0 1 25, .setCap 2, .edit 0 (.plain "long") {}, .setCap 9, .divideSlot 0 7 1,
      .divideSlot 0 2 2]
    let written := workspace.records (fun _ => true) actions
    workspace.store.WellFormed ∧ workspace.store.arena 0 = #[] ∧
    workspace.Along (fun _ => true) (fun now action =>
      action.Aimed now.store ∧ action.Recorded 0 now.store) actions ∧
    written.map Event.message = ["Pushed chunk 0 spanning [20, 26)", "Pushed chunk 1 spanning [23, 26)",
      "Split chunk 0 at 23 into 1", "Pushed chunk 2 spanning [0, 9)", "Pushed chunk 3 spanning [5, 9)",
      "Split chunk 2 at 5 into 3", "Edited chunk [23, 26) overwrite=True store_name=False",
      "Pushed chunk 4 spanning [2, 5)", "Split chunk 2 at 2 into 4"] ∧
    List.foldlM Event.replay [] written = some [⟨20, 23, by decide⟩, ⟨23, 26, by decide⟩,
      ⟨0, 2, by decide⟩, ⟨5, 9, by decide⟩, ⟨2, 5, by decide⟩] ∧
    ((workspace.run (fun _ => true) actions).store.piece 2).span = ⟨23, 26, by decide⟩ := by
  intro workspace actions written
  have sound : workspace.store.WellFormed := Reachable.wellFormed ⟨_, by decide +kernel, rfl⟩
  have empty : workspace.store.arena 0 = #[] := by decide +kernel
  have along : workspace.Along (fun _ => true) (fun now action =>
      action.Aimed now.store ∧ action.Recorded 0 now.store) actions := by decide +kernel
  obtain ⟨replayed, traced, _⟩ := run_retold_by_records sound empty along
  refine ⟨sound, empty, along, by decide +kernel, replayed.trans (by decide +kernel), ?_⟩
  obtain ⟨piece, content, same, keeps⟩ := (traced (actions.take 6) (.edit 2 (.plain "new") {})
    (actions.drop 7) rfl).2 ⟨23, 26, by decide⟩ {} (by decide +kernel)
  cases same
  exact keeps _ List.prefix_rfl

end Workspace

end Patchwork
