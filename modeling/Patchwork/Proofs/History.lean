import Mathlib.Data.List.DropRight
import Patchwork.Proofs.Frame
import Patchwork.Proofs.Split

/-! # What a piece has come to

A piece is decorated, edited and split, and some of these calls are refused. Its state is told by what
it was at first and by these calls, in their order. The last accepted edit gives its text, the last edit
its name mark. A queue holds what was put at its two ends since it was last emptied, which an
overwriting edit does even when it is refused, and a split does to the outro. The start of a piece stays.
Its end falls with every accepted split, and stays once an edit has been accepted.
-/
namespace Patchwork

/-- The piece of which an action assigns a field directly. -/
def Action.assigned? : Action → Option Nat
  | .setNext piece _ | .setStoreName piece _ | .setSpan piece _ | .setEdited piece _ => some piece
  | _ => none

def Content.kept : Content → Fragment
  | plain text => .owned text
  | wrapped fragment => fragment

theorem Content.eq_kept_of_toFragment {cap : Int} {content : Content} {fragment : Fragment}
    (measured : content.toFragment cap = .ok fragment) : fragment = content.kept := by
  cases content with
  | wrapped inner => exact (Except.ok.inj measured).symm
  | plain text =>
    cases fits : checkLength cap text.length with
    | error fault => simp [toFragment, fits, Except.map] at measured
    | ok length =>
      simp only [toFragment, fits, Except.map, Except.ok.injEq] at measured
      exact measured.symm

/-- An action that a piece was the aim of, and whether it was accepted. -/
structure Deed where
  action : Action
  accepted : Bool

namespace Deed

def replacement? : Deed → Option Fragment
  | ⟨.edit _ content _, true⟩ => some content.kept
  | _ => none

/-- The name mark that an edit sets, accepted or not. -/
def mark? : Deed → Option Bool
  | ⟨.edit _ _ policy, _⟩ => some policy.storeName
  | _ => none

def inserted? (side : Side) (place : Place) : Deed → Option Fragment
  | ⟨.decorate _ side' place' content, true⟩ =>
    if side' = side ∧ place' = place then some content.kept else none
  | _ => none

def cut? : Deed → Option Int
  | ⟨.divide _ offset, true⟩ | ⟨.divideSlot _ _ offset, true⟩ => some offset
  | _ => none

/-- An edit that overwrites empties both queues, accepted or not. An accepted split leaves a new outro. -/
def empties (side : Side) : Deed → Bool
  | ⟨.edit _ _ policy, _⟩ => policy.overwrite
  | ⟨.divide .., true⟩ | ⟨.divideSlot .., true⟩ => decide (side = .outro)
  | _ => false

theorem inserted?_of_empties {side : Side} {deed : Deed} (empties : deed.empties side = true)
    (place : Place) : deed.inserted? side place = none := by
  rcases deed with ⟨_ | _ | _ | _ | _ | ⟨_, side', place', content⟩ | _, _ | _⟩ <;> first
    | rfl
    | cases empties

/-- What one deed does to a piece, field by field. Only a piece without a new text is ever cut. -/
structure Changes (deed : Deed) (before after : PieceView) : Prop where
  edited : after.edited = deed.replacement?.or before.edited
  storeName : after.storeName = deed.mark?.getD before.storeName
  queue : ∀ side, after.queue side = (deed.inserted? side .front).toList ++
    (if deed.empties side then [] else before.queue side) ++ (deed.inserted? side .back).toList
  start : after.span.start = before.span.start
  stop : (after.span.stop : Int) = deed.cut?.getD before.span.stop
  cut : ∀ {offset}, deed.cut? = some offset → before.edited = none ∧ offset < before.span.stop

section Changes

variable {deed : Deed} {view : PieceView} {target : Nat}

theorem changes_of_refused (refused : deed.accepted = false) (no_edit : deed.mark? = none)
    (view : PieceView) : Changes deed view view := by
  obtain ⟨action, _⟩ := deed
  cases refused
  cases action with
  | edit => cases no_edit
  | _ => exact ⟨rfl, rfl, fun _ => (List.append_nil _).symm, rfl, rfl, nofun⟩

theorem changes_of_decorated (side : Side) (place : Place) (content : Content) :
    Changes ⟨.decorate target side place content, true⟩ view
      (view.setQueue side (place.insert content.kept (view.queue side))) where
  edited := by cases side <;> rfl
  storeName := by cases side <;> rfl
  queue := by
    intro other
    cases side <;> cases place <;> cases other <;>
      simp [inserted?, empties, Piece.setQueue, Piece.queue, Place.insert]
  start := by cases side <;> rfl
  stop := by cases side <;> rfl
  cut := nofun

/-- An edit takes its policy into effect whether or not its text is accepted. -/
theorem changes_of_edited (content : Content) (policy : EditPolicy) (accepted : Bool) :
    Changes ⟨.edit target content policy, accepted⟩ view
      { view with
        edited := if accepted then some content.kept else view.edited
        intro := if policy.overwrite then [] else view.intro
        outro := if policy.overwrite then [] else view.outro
        storeName := policy.storeName } where
  edited := by cases accepted <;> rfl
  storeName := by cases accepted <;> rfl
  queue := by
    intro side
    cases accepted <;> cases side <;> exact (List.append_nil _).symm
  start := rfl
  stop := by cases accepted <;> rfl
  cut := by cases accepted <;> nofun

theorem changes_of_split {action : Action} {position : Nat} (fresh : view.edited = none)
    (inside : view.span.start < position ∧ position < view.span.stop) (next : Option Int)
    (splits : (∃ piece, action = .divide piece position) ∨
      ∃ arena index, action = .divideSlot arena index position) :
    Changes ⟨action, true⟩ view { (view.halves position inside [] []).1 with next } := by
  have falls : ∀ {offset}, some (position : Int) = some offset →
      view.edited = none ∧ offset < view.span.stop := by
    intro offset same
    cases same
    exact ⟨fresh, Int.ofNat_lt.mpr inside.2⟩
  have queue : ∀ side, (view.halves position inside [] []).1.queue side =
      [] ++ (if decide (side = .outro) then [] else view.queue side) ++ [] := by
    intro side
    cases side <;> simp [Piece.halves, Piece.queue]
  rcases splits with ⟨_, rfl⟩ | ⟨_, _, rfl⟩ <;> exact ⟨rfl, rfl, queue, rfl, rfl, falls⟩

theorem Changes.keeps_stop {before after : PieceView} {stop : Nat} (changes : deed.Changes before after)
    (held : before.edited ≠ none ∧ before.span.stop = stop) :
    after.edited ≠ none ∧ after.span.stop = stop := by
  obtain ⟨changed, rfl⟩ := held
  constructor
  · rw [changes.edited, ne_eq, Option.or_eq_none_iff]
    exact fun none => changed none.2
  · have ends := changes.stop
    cases cut : deed.cut? with
    | none =>
      rw [cut] at ends
      exact Int.ofNat_inj.mp ends
    | some offset => exact absurd (changes.cut cut).1 changed

end Changes

end Deed

/-- The deeds after the last one that emptied a queue. -/
def sinceEmptied (side : Side) (deeds : List Deed) : List Deed :=
  deeds.rtakeWhile fun deed => !deed.empties side

/-- What a queue goes back to: what it held at first, or nothing once it has been emptied. -/
def restOfFirst (side : Side) (first : PieceView) (deeds : List Deed) : List Fragment :=
  if deeds.any (Deed.empties side) then [] else first.queue side

theorem sinceEmptied_concat (side : Side) (deeds : List Deed) (deed : Deed) :
    sinceEmptied side (deeds ++ [deed]) =
      if deed.empties side then [] else sinceEmptied side deeds ++ [deed] := by
  rw [sinceEmptied, List.rtakeWhile_concat]
  cases deed.empties side <;> rfl

theorem restOfFirst_concat (side : Side) (first : PieceView) (deeds : List Deed) (deed : Deed) :
    restOfFirst side first (deeds ++ [deed]) =
      if deed.empties side then [] else restOfFirst side first deeds := by
  rw [restOfFirst, List.any_append]
  cases empties : deed.empties side <;> simp [empties, restOfFirst]

theorem filterMap_concat {α β : Type} (f : α → Option β) (values : List α) (value : α) :
    (values ++ [value]).filterMap f = values.filterMap f ++ (f value).toList := by
  cases given : f value <;> simp [given]

theorem getLast?_filterMap_concat {α β : Type} (f : α → Option β) (values : List α) (value : α) :
    ((values ++ [value]).filterMap f).getLast? = (f value).or (values.filterMap f).getLast? := by
  rw [filterMap_concat]
  cases f value <;> simp

/-- What a piece is, told by what it was at first and by the deeds since. -/
structure ToldBy (first : PieceView) (deeds : List Deed) (now : PieceView) : Prop where
  edited : now.edited = (deeds.filterMap Deed.replacement?).getLast?.or first.edited
  storeName : now.storeName = (deeds.filterMap Deed.mark?).getLast?.getD first.storeName
  queue : ∀ side, now.queue side =
    ((sinceEmptied side deeds).filterMap (Deed.inserted? side .front)).reverse ++
      restOfFirst side first deeds ++ (sinceEmptied side deeds).filterMap (Deed.inserted? side .back)
  start : now.span.start = first.span.start
  stop : (now.span.stop : Int) = (deeds.filterMap Deed.cut?).getLast?.getD first.span.stop

namespace ToldBy

theorem refl (view : PieceView) : ToldBy view [] view where
  edited := rfl
  storeName := rfl
  queue := fun _ => (List.append_nil _).symm
  start := rfl
  stop := rfl

theorem concat {first before after : PieceView} {deeds : List Deed} {deed : Deed}
    (told : ToldBy first deeds before) (changes : deed.Changes before after) :
    ToldBy first (deeds ++ [deed]) after where
  edited := by
    rw [changes.edited, told.edited, getLast?_filterMap_concat, Option.or_assoc]
  storeName := by
    rw [changes.storeName, told.storeName, getLast?_filterMap_concat]
    cases deed.mark? <;> rfl
  queue := by
    intro side
    rw [changes.queue, told.queue, sinceEmptied_concat, restOfFirst_concat]
    cases empties : deed.empties side with
    | true => simp [Deed.inserted?_of_empties empties]
    | false =>
      simp only [Bool.false_eq_true, if_false, filterMap_concat, List.reverse_append,
        List.append_assoc]
      cases deed.inserted? side .front <;> rfl
  start := changes.start.trans told.start
  stop := by
    rw [changes.stop, told.stop, getLast?_filterMap_concat]
    cases deed.cut? <;> rfl

end ToldBy

namespace Workspace

variable {printable : Char → Bool} {workspace : Workspace} {piece : Nat} {action : Action}

/-- The deeds that a piece is the aim of. -/
def deedsOn (printable : Char → Bool) (piece : Nat) (workspace : Workspace) (action : Action) :
    List Deed :=
  if workspace.target? action = some piece then
    [⟨action, (workspace.perform printable action).reply.isOk⟩]
  else []

theorem changes_perform (sound : workspace.store.WellFormed)
    (known : piece < workspace.store.pieces.size) (aimed : workspace.target? action = some piece)
    (calls : action.assigned? ≠ some piece) :
    Deed.Changes ⟨action, (workspace.perform printable action).reply.isOk⟩
      (workspace.store.piece piece)
      ((workspace.perform printable action).workspace.store.piece piece) := by
  cases action with
  | decorate target side place content =>
    cases aimed
    cases measured : content.toFragment workspace.cap with
    | error fault =>
      simp only [perform, settle, Store.decorate, measured]
      exact Deed.changes_of_refused rfl rfl _
    | ok fragment =>
      have shows := @Store.piece_decorate _ sound _ _ _ known known side place _ _ measured
      rw [if_pos rfl, Content.eq_kept_of_toFragment measured] at shows
      simp only [perform, settle, shows]
      simp only [Store.decorate, measured]
      exact Deed.changes_of_decorated side place content
  | edit target content policy =>
    cases aimed
    cases measured : content.toFragment workspace.cap with
    | error fault =>
      have shows := Store.piece_applyPolicy sound known known policy
      rw [if_pos rfl] at shows
      simp only [perform, settle, Store.edit, measured, shows]
      exact Deed.changes_of_edited content policy false
    | ok fragment =>
      have shows := @Store.piece_edit _ sound _ _ _ known known _ policy _ measured
      rw [if_pos rfl, Content.eq_kept_of_toFragment measured] at shows
      simp only [perform, settle, shows]
      simp only [Store.edit, measured]
      exact Deed.changes_of_edited content policy true
  | divide target offset =>
    cases aimed
    cases cut : (workspace.store.divide workspace.cap piece offset).result with
    | error fault =>
      simp only [perform, settle, Store.divide_of_error cut]
      exact Deed.changes_of_refused rfl rfl _
    | ok half =>
      obtain ⟨position, inside, rfl, fresh, left, _⟩ := Store.exists_halves_of_divide known cut
      simp only [perform, settle, left, cut]
      exact Deed.changes_of_split fresh inside _ (.inl ⟨piece, rfl⟩)
  | divideSlot arena index offset =>
    rcases Store.divideSlot_cases (fun _ => sound.slot_known arena) workspace.cap index offset with
      ⟨fault, refused⟩ | ⟨held, position, found, rfl, gives, divided⟩
    · simp only [perform, settle, refused]
      exact Deed.changes_of_refused rfl rfl _
    · cases Option.some.inj (aimed.symm.trans found)
      simp only [perform, settle, divided.left, gives]
      exact Deed.changes_of_split divided.fresh divided.inside _ (.inr ⟨arena, index, rfl⟩)
  | setNext | setStoreName | setSpan | setEdited => exact absurd aimed calls
  | _ => cases aimed

theorem deedsOn_cases (sound : workspace.store.WellFormed)
    (known : piece < workspace.store.pieces.size) (aims : action.Known workspace.store)
    (calls : action.assigned? ≠ some piece) :
    let before := workspace.store.piece piece
    let after := (workspace.perform printable action).workspace.store.piece piece
    (workspace.deedsOn printable piece action = [] ∧ after = before) ∨
      ∃ deed, workspace.deedsOn printable piece action = [deed] ∧ deed.Changes before after := by
  intro before after
  unfold deedsOn
  split
  · rename_i aimed
    exact .inr ⟨_, rfl, changes_perform sound known aimed calls⟩
  · rename_i apart
    exact .inl ⟨rfl, (keeps_perform sound aims known apart).piece_eq⟩

theorem deeds_keep (kept : PieceView → List Deed → Prop)
    (acted : ∀ {before after seen deed}, kept before seen → deed.Changes before after →
      kept after (seen ++ [deed]))
    (sound : workspace.store.WellFormed) (known : piece < workspace.store.pieces.size)
    {seen : List Deed} (start : kept (workspace.store.piece piece) seen) {actions : List Action}
    (along : workspace.Along printable (fun now action =>
      action.Known now.store ∧ action.assigned? ≠ some piece) actions) :
    let later := workspace.run printable actions
    later.store.WellFormed ∧ piece < later.store.pieces.size ∧
      kept (later.store.piece piece)
        (seen ++ workspace.collect printable (deedsOn printable piece) actions) := by
  refine along_keeps (fun now seen => now.store.WellFormed ∧ piece < now.store.pieces.size ∧
    kept (now.store.piece piece) seen) ?_ ⟨sound, known, start⟩ along
  rintro now seen action ⟨aims, calls⟩ ⟨sound, known, held⟩
  have count := @size_perform printable now sound action
  refine ⟨wellFormed_perform sound aims, by omega, ?_⟩
  rcases @deedsOn_cases printable now piece action sound known aims calls with
    ⟨none, same⟩ | ⟨deed, one, changes⟩
  · rw [none, same, List.append_nil]
    exact held
  · rw [one]
    exact acted held changes

/-- Whatever is called on a piece, and whatever else is done in between, the piece is told by what it was
and by the calls, under any caps and whether or not they are refused. Every accepted split lowers its end,
and no call after an accepted edit does. -/
theorem piece_run_told_by_deeds (sound : workspace.store.WellFormed)
    (known : piece < workspace.store.pieces.size) {actions : List Action}
    (along : workspace.Along printable (fun now action =>
      action.Known now.store ∧ action.assigned? ≠ some piece) actions) :
    let deeds := workspace.collect printable (deedsOn printable piece)
    let view (actions : List Action) := (workspace.run printable actions).store.piece piece
    ToldBy (view []) (deeds actions) (view actions) ∧
    (∀ first action rest, actions = first ++ action :: rest →
      ∀ deed ∈ (workspace.run printable first).deedsOn printable piece action,
        ∀ offset, deed.cut? = some offset →
          (view (first ++ [action])).span.stop = offset ∧
            (view (first ++ [action])).span.stop < (view first).span.stop) ∧
    ∀ first rest, actions = first ++ rest → (∃ deed ∈ deeds first, deed.replacement?.isSome) →
      (view actions).span.stop = (view first).span.stop := by
  intro deeds view
  have told : ∀ {first}, workspace.Along printable (fun now action =>
      action.Known now.store ∧ action.assigned? ≠ some piece) first → _ := fun along =>
    deeds_keep (fun now seen => ToldBy (view []) seen now) ToldBy.concat sound known (.refl _) along
  refine ⟨(told along).2.2, ?_, ?_⟩
  · rintro first action rest rfl deed among offset cut
    obtain ⟨before, ⟨aims, calls⟩, _⟩ := along_append.mp along
    obtain ⟨sound', known', _⟩ := told before
    have later : view (first ++ [action]) = _ := congrArg (·.store.piece piece) (run_append _ _ _)
    rcases @deedsOn_cases printable _ piece action sound' known' aims calls with
      ⟨none, _⟩ | ⟨one, only, changes⟩
    · rw [none] at among
      cases among
    · rw [only] at among
      cases List.mem_singleton.mp among
      have stop := changes.stop
      rw [cut] at stop
      rw [later]
      exact ⟨stop, Int.ofNat_lt.mp (stop ▸ (changes.cut cut).2)⟩
  · rintro first rest rfl ⟨deed, among, replaces⟩
    obtain ⟨before, after⟩ := along_append.mp along
    obtain ⟨sound', known', told'⟩ := told before
    have changed : (view first).edited ≠ none := by
      obtain ⟨fragment, given⟩ := Option.isSome_iff_exists.mp replaces
      have held := List.mem_filterMap.mpr ⟨deed, among, given⟩
      rw [told'.edited, ne_eq, Option.or_eq_none_iff, List.getLast?_eq_none_iff]
      exact fun none => List.ne_nil_of_mem held none.1
    have fixed := @deeds_keep printable _ piece
      (fun now _ => now.edited ≠ none ∧ now.span.stop = (view first).span.stop)
      (fun held changes => changes.keeps_stop held) sound' known' [] ⟨changed, rfl⟩ rest after
    have later : view (first ++ rest) = _ := congrArg (·.store.piece piece) (run_append _ _ _)
    rw [later]
    exact fixed.2.2.2

/-- A document of nine positions is decorated, split, edited under a cap that is too low for the text, and
edited again. Each edit marks the name; the refused one empties the queues all the same. -/
theorem piece_run_told_by_deeds_of_refused_edit :
    let workspace : Workspace := { store := .document 9 (by decide) }
    let actions : List Action := [.decorate 0 .intro .back (.plain "a"), .divideSlot 0 0 6,
      .decorate 1 .intro .back (.plain "x"), .setCap 2, .edit 0 (.plain "long") {}, .divide 0 1,
      .decorate 0 .intro .back (.plain "b"), .decorate 0 .intro .front (.plain "c"), .setCap 9,
      .divideSlot 0 0 4, .edit 0 (.plain "new") { overwrite := false, storeName := true },
      .divideSlot 0 0 2]
    let view (actions : List Action) :=
      (workspace.run (fun _ => true) actions).store.piece 0
    workspace.store.WellFormed ∧ 0 < workspace.store.pieces.size ∧
    workspace.Along (fun _ => true) (fun now action =>
      action.Known now.store ∧ action.assigned? ≠ some 0) actions ∧
    (view actions).edited.map Fragment.text = some "new" ∧ (view actions).storeName = true ∧
    ((view actions).queue .intro).map Fragment.text = ["c", "b"] ∧
    (view actions).span.start = 0 ∧ (view actions).span.stop = 4 ∧
    (view (actions.take 2)).span.stop < (view (actions.take 1)).span.stop ∧
    (view actions).span.stop = (view (actions.take 11)).span.stop := by
  intro workspace actions view
  have sound : workspace.store.WellFormed := Store.WellFormed.document 9 (by decide)
  have known : 0 < workspace.store.pieces.size := by decide +kernel
  have along : workspace.Along (fun _ => true) (fun now action =>
      action.Known now.store ∧ action.assigned? ≠ some 0) actions := by decide +kernel
  obtain ⟨told, falls, stays⟩ := piece_run_told_by_deeds sound known along
  refine ⟨sound, known, along, ?_, ?_, ?_, told.start, ?_, ?_, ?_⟩
  · exact (congrArg _ told.edited).trans (by decide +kernel)
  · exact told.storeName.trans (by decide +kernel)
  · exact (congrArg _ (told.queue .intro)).trans (by decide +kernel)
  · exact Int.ofNat_inj.mp (told.stop.trans (by decide +kernel))
  · have split : ((workspace.run (fun _ => true) (actions.take 1)).deedsOn (fun _ => true) 0
        (.divideSlot 0 0 6)).any (fun deed => deed.cut? == some 6) = true := by decide +kernel
    obtain ⟨deed, among, cut⟩ := List.any_eq_true.mp split
    have second : actions.take 2 = actions.take 1 ++ [.divideSlot 0 0 6] := rfl
    rw [second]
    exact (falls (actions.take 1) _ (actions.drop 2) rfl deed among 6 (beq_iff_eq.mp cut)).2
  · exact stays _ _ (List.take_append_drop 11 actions).symm (List.any_eq_true.mp (by decide +kernel))

end Workspace

end Patchwork
