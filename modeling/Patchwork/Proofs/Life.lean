import Patchwork.Workspace

/-! # Lives of cursors

A run asks a cursor for items now and then, a few at a time, and does other things in
between. What the cursor answers is taken down request by request, over the whole run. What
a single request keeps and every other action keeps is then kept over a life of any length.
-/
namespace Patchwork

def Batch.answers (batch : Batch) : List (Pull Item) :=
  batch.items.map .item ++
    match batch.ending with
    | .filled => []
    | .stopped => [.stop]
    | .failed fault => [.fault fault]

@[simp] theorem Batch.answers_cons (item : Item) (batch : Batch) :
    (batch.cons item).answers = .item item :: batch.answers := rfl

namespace Pull

def slot? : Pull Item → Option Nat
  | .item (.slot index _) => some index
  | _ => none

def text? : Pull Item → Option String
  | .item (.text text) => some text
  | _ => none

def slots (answers : List (Pull Item)) : List Nat := answers.filterMap slot?

def texts (answers : List (Pull Item)) : List String := answers.filterMap text?

@[simp] theorem slots_nil : slots [] = [] := rfl

@[simp] theorem slots_append_stop (answers : List (Pull Item)) :
    slots (answers ++ [.stop]) = slots answers := by
  rw [slots, List.filterMap_append]
  exact List.append_nil _

@[simp] theorem slots_append_slot (answers : List (Pull Item)) (index : Nat) (span : Span) :
    slots (answers ++ [.item (.slot index span)]) = slots answers ++ [index] :=
  List.filterMap_append

@[simp] theorem texts_nil : texts [] = [] := rfl

@[simp] theorem texts_append_stop (answers : List (Pull Item)) :
    texts (answers ++ [.stop]) = texts answers := by
  rw [texts, List.filterMap_append]
  exact List.append_nil _

@[simp] theorem texts_append_fault (answers : List (Pull Item)) (reason : Fault) :
    texts (answers ++ [.fault reason]) = texts answers := by
  rw [texts, List.filterMap_append]
  exact List.append_nil _

@[simp] theorem texts_append_text (answers : List (Pull Item)) (text : String) :
    texts (answers ++ [.item (.text text)]) = texts answers ++ [text] :=
  List.filterMap_append

end Pull

namespace Cursor

variable {store : Store}

theorem pull_keeps (kept : Cursor → List (Pull Item) → Prop)
    (asked : ∀ {cursor answers}, kept cursor answers →
      kept (cursor.next store).2 (answers ++ [(cursor.next store).1]))
    (count : Nat) {cursor : Cursor} {answers : List (Pull Item)} (held : kept cursor answers) :
    kept (cursor.pull store count).2 (answers ++ (cursor.pull store count).1.answers) := by
  induction count generalizing cursor answers with
  | zero => simpa [pull, Batch.answers] using held
  | succ count ih =>
    have after := asked held
    rcases given : cursor.next store with ⟨_ | _ | _, later⟩ <;> rw [given] at after
    · have rest := ih after
      simpa [pull, given] using rest
    · simpa [pull, given, Batch.answers] using after
    · simpa [pull, given, Batch.answers] using after

theorem answers_pull_one (cursor : Cursor) (store : Store) :
    (cursor.pull store 1).1.answers = [(cursor.next store).1] := by
  rcases given : cursor.next store with ⟨_ | _ | _, later⟩ <;> simp only [pull, given] <;> rfl

/-- A cursor that owes a number of items, and stops when it owes none, is brought to its end. -/
theorem stop_mem_pull (owes : Cursor → Nat → Prop)
    (last : ∀ {cursor}, owes cursor 0 → (cursor.next store).1 = .stop)
    (more : ∀ {cursor count}, owes cursor (count + 1) → ∃ item later,
      cursor.next store = (.item item, later) ∧ owes later count)
    {cursor : Cursor} {count : Nat} (due : owes cursor count) :
    .stop ∈ (cursor.pull store (count + 1)).1.answers := by
  induction count generalizing cursor with
  | zero =>
    have stops := last due
    rcases given : cursor.next store with ⟨_ | _ | _, later⟩ <;> rw [given] at stops <;>
      cases stops
    simp [pull, given, Batch.answers]
  | succ count ih =>
    obtain ⟨item, later, given, due⟩ := more due
    rw [pull]
    simpa [given] using ih due

end Cursor

namespace Workspace

variable {printable : Char → Bool} {α : Type}

/-- What is seen at the actions of a run, in order. -/
def collect (printable : Char → Bool) (see : Workspace → Action → List α) :
    Workspace → List Action → List α
  | _, [] => []
  | workspace, action :: actions =>
    see workspace action ++
      collect printable see (workspace.perform printable action).workspace actions

/-- Every action of a run is allowed in the workspace that performs it. -/
def Along (printable : Char → Bool) (allowed : Workspace → Action → Prop) :
    Workspace → List Action → Prop
  | _, [] => True
  | workspace, action :: actions => allowed workspace action ∧
      Along printable allowed (workspace.perform printable action).workspace actions

instance decidableAlong {allowed : Workspace → Action → Prop}
    [∀ workspace action, Decidable (allowed workspace action)] :
    ∀ workspace actions, Decidable (Along printable allowed workspace actions)
  | _, [] => .isTrue trivial
  | workspace, action :: actions =>
    have : Decidable (Along printable allowed (workspace.perform printable action).workspace
      actions) := decidableAlong _ actions
    inferInstanceAs (Decidable (allowed workspace action ∧ Along printable allowed _ actions))

theorem along_of_forall {allowed : Workspace → Action → Prop}
    (all : ∀ workspace action, allowed workspace action) (workspace : Workspace)
    (actions : List Action) : Along printable allowed workspace actions := by
  induction actions generalizing workspace with
  | nil => trivial
  | cons action actions ih => exact ⟨all workspace action, ih _⟩

theorem run_append (workspace : Workspace) (first second : List Action) :
    workspace.run printable (first ++ second) =
      (workspace.run printable first).run printable second :=
  List.foldl_append

theorem collect_append (see : Workspace → Action → List α) (workspace : Workspace)
    (first second : List Action) : workspace.collect printable see (first ++ second) =
      workspace.collect printable see first ++
        (workspace.run printable first).collect printable see second := by
  induction first generalizing workspace with
  | nil => rfl
  | cons action first ih => simp [collect, ih]

theorem along_append {allowed : Workspace → Action → Prop} {workspace : Workspace}
    {first second : List Action} : workspace.Along printable allowed (first ++ second) ↔
      workspace.Along printable allowed first ∧
        (workspace.run printable first).Along printable allowed second := by
  induction first generalizing workspace with
  | nil => exact (and_iff_right trivial).symm
  | cons action first ih =>
    rw [List.cons_append, Along, Along, ih, run_cons, and_assoc]

/-- What each allowed action keeps, beside what is seen at it, a run of such actions keeps. -/
theorem along_keeps {allowed : Workspace → Action → Prop} {see : Workspace → Action → List α}
    (kept : Workspace → List α → Prop)
    (acted : ∀ {workspace seen action}, allowed workspace action → kept workspace seen →
      kept (workspace.perform printable action).workspace (seen ++ see workspace action))
    {workspace : Workspace} {seen : List α} (start : kept workspace seen) {actions : List Action}
    (along : workspace.Along printable allowed actions) :
    kept (workspace.run printable actions) (seen ++ workspace.collect printable see actions) := by
  induction actions generalizing workspace seen with
  | nil => simpa [collect] using start
  | cons action actions ih =>
    obtain ⟨first, rest⟩ := along
    rw [run_cons, collect, ← List.append_assoc]
    exact ih (acted first start) rest

/-- What a cursor answers to an action. -/
def answersTo (printable : Char → Bool) (cursor : Nat) (workspace : Workspace) (action : Action) :
    List (Pull Item) :=
  match action, (workspace.perform printable action).reply with
  | .pull target _, .ok (.batch batch) => if target = cursor then batch.answers else []
  | _, _ => []

/-- What a cursor answers over a run. -/
def answers (printable : Char → Bool) (cursor : Nat) (workspace : Workspace)
    (actions : List Action) : List (Pull Item) :=
  workspace.collect printable (answersTo printable cursor) actions

theorem answers_append (cursor : Nat) (workspace : Workspace) (first second : List Action) :
    workspace.answers printable cursor (first ++ second) =
      workspace.answers printable cursor first ++
        (workspace.run printable first).answers printable cursor second :=
  collect_append _ workspace first second

/-- What an action makes of the store. Asking questions, opening cursors and pulling at them
leaves it alone. -/
theorem store_perform (workspace : Workspace) (action : Action) :
    (workspace.perform printable action).workspace.store =
      match action with
      | .openArena => workspace.store.addArena
      | .create view => workspace.store.addPiece view
      | .push arena piece => workspace.store.appendSlot arena piece
      | .decorate piece side place content =>
        (workspace.store.decorate workspace.cap piece side place content).store
      | .edit piece content policy => (workspace.store.edit workspace.cap piece content policy).store
      | .divide piece offset => (workspace.store.divide workspace.cap piece offset).store
      | .divideSlot arena index offset =>
        (workspace.store.divideSlot workspace.cap arena index offset).store
      | .setNext piece next => workspace.store.setNext piece next
      | .setStoreName piece storeName => workspace.store.setStoreName piece storeName
      | .setSpan piece span => workspace.store.setSpan piece span
      | .setEdited piece none => workspace.store.setEdited piece none
      | .setEdited piece (some content) =>
        match content.toFragment workspace.cap with
        | .ok fragment => workspace.store.setEdited piece (some fragment)
        | .error _ => workspace.store
      | _ => workspace.store := by
  cases action with
  | setEdited piece content =>
    cases content with
    | none => rfl
    | some content =>
      simp only [perform]
      split <;> simp_all [refuse, withStore]
  | openParts piece source =>
    simp only [perform]
    split <;> rfl
  | pull target count =>
    simp only [perform]
    split <;> rfl
  | _ => rfl

section Cursors

variable {workspace : Workspace} {id : Nat} {cursor : Cursor} {action : Action}

theorem perform_pull (held : workspace.cursors[id]? = some cursor) (count : Nat) :
    workspace.perform printable (.pull id count) =
      { reply := .ok (.batch (cursor.pull workspace.store count).1)
        workspace := { workspace with
          cursors := workspace.cursors.setIfInBounds id (cursor.pull workspace.store count).2 } } := by
  simp [perform, held]

theorem answersTo_pull (held : workspace.cursors[id]? = some cursor) (count : Nat) :
    workspace.answersTo printable id (.pull id count) =
      (cursor.pull workspace.store count).1.answers := by
  simp [answersTo, perform_pull held]

theorem answers_pull (held : workspace.cursors[id]? = some cursor) (count : Nat) :
    workspace.answers printable id [.pull id count] =
      (cursor.pull workspace.store count).1.answers := by
  simp [answers, collect, answersTo_pull held]

theorem answers_append_pull {actions : List Action}
    (held : (workspace.run printable actions).cursors[id]? = some cursor) (count : Nat) :
    workspace.answers printable id (actions ++ [.pull id count]) =
      workspace.answers printable id actions ++
        (cursor.pull (workspace.run printable actions).store count).1.answers := by
  rw [answers_append, answers_pull held]

theorem answersTo_of_ne (other : ∀ count, action ≠ .pull id count) :
    workspace.answersTo printable id action = [] := by
  unfold answersTo
  split
  · rename_i target count _ _
    split
    · rename_i same
      subst same
      exact absurd rfl (other count)
    · rfl
  · rfl

theorem answers_append_cons {first later : List Action} (other : ∀ count, action ≠ .pull id count) :
    workspace.answers printable id (first ++ action :: later) =
      workspace.answers printable id first ++
        ((workspace.run printable first).perform printable action).workspace.answers printable id
          later := by
  rw [answers_append]
  simp [answers, collect, answersTo_of_ne other]

theorem cursor_perform (held : workspace.cursors[id]? = some cursor)
    (other : ∀ count, action ≠ .pull id count) :
    (workspace.perform printable action).workspace.cursors[id]? = some cursor := by
  have kept : ∀ opened : Cursor, (workspace.cursors.push opened)[id]? = some cursor := by
    intro opened
    obtain ⟨inside, _⟩ := Array.getElem?_eq_some_iff.mp held
    rw [Array.getElem?_push, if_neg (Nat.ne_of_lt inside)]
    exact held
  cases action with
  | pull target count =>
    have apart : target ≠ id := fun same => other count (same ▸ rfl)
    cases there : workspace.cursors[target]? with
    | none => simpa [perform, there] using held
    | some current =>
      rw [perform_pull there]
      simpa [Array.getElem?_setIfInBounds, apart] using held
  | openWalk | openListing | openOutput => exact kept _
  | openParts piece source =>
    cases opened : Part.ofPiece workspace.store piece source.text with
    | error fault => simpa [perform, opened, refuse] using held
    | ok parts => simpa [perform, opened, openCursor] using kept (.parts parts)
  | setEdited piece content =>
    cases content with
    | none => exact held
    | some content =>
      cases kept : content.toFragment workspace.cap with
      | error fault => simpa [perform, kept, refuse] using held
      | ok fragment => simpa [perform, kept, withStore] using held
  | _ => exact held

end Cursors

/-- What each request and each other action keeps, a life keeps. What is seen at the other
actions is at hand throughout, beside the answers. -/
theorem life_keeps {id : Nat} {allowed : Workspace → Action → Prop}
    {see : Workspace → Action → List α}
    (kept : Store → Cursor → List (Pull Item) → List α → Prop)
    (asked : ∀ {store cursor answers seen}, kept store cursor answers seen →
      kept store (cursor.next store).2 (answers ++ [(cursor.next store).1]) seen)
    (acted : ∀ {workspace : Workspace} {cursor answers seen action},
      (∀ count, action ≠ .pull id count) → allowed workspace action →
      workspace.cursors[id]? = some cursor → kept workspace.store cursor answers seen →
      kept (workspace.perform printable action).workspace.store cursor answers
        (seen ++ see workspace action))
    (unseen : ∀ workspace count, see workspace (.pull id count) = [])
    {workspace : Workspace} {cursor : Cursor} {past : List (Pull Item)} {seen : List α}
    (held : workspace.cursors[id]? = some cursor) (start : kept workspace.store cursor past seen)
    {actions : List Action} (along : workspace.Along printable allowed actions) :
    ∃ later, (workspace.run printable actions).cursors[id]? = some later ∧
      kept (workspace.run printable actions).store later
        (past ++ workspace.answers printable id actions)
        (seen ++ workspace.collect printable see actions) := by
  induction actions generalizing workspace cursor past seen with
  | nil => exact ⟨cursor, held, by simpa [answers, collect] using start⟩
  | cons action actions ih =>
    obtain ⟨first, rest⟩ := along
    simp only [run_cons, answers, collect, ← List.append_assoc]
    by_cases pulls : ∃ count, action = .pull id count
    · obtain ⟨count, rfl⟩ := pulls
      have after := Cursor.pull_keeps (fun cursor answers => kept workspace.store cursor answers seen)
        asked count start
      have later : (workspace.perform printable (.pull id count)).workspace.cursors[id]? =
          some (cursor.pull workspace.store count).2 := by
        obtain ⟨inside, _⟩ := Array.getElem?_eq_some_iff.mp held
        simp [perform_pull held, inside]
      rw [answersTo_pull held, unseen, List.append_nil]
      exact ih later (by simpa [perform_pull held] using after) rest
    · have other : ∀ count, action ≠ .pull id count := fun count same => pulls ⟨count, same⟩
      rw [answersTo_of_ne other, List.append_nil]
      exact ih (cursor_perform held other) (acted other first held start) rest

theorem life_keeps_answers {id : Nat} {allowed : Workspace → Action → Prop}
    (kept : Store → Cursor → List (Pull Item) → Prop)
    (asked : ∀ {store cursor answers}, kept store cursor answers →
      kept store (cursor.next store).2 (answers ++ [(cursor.next store).1]))
    (acted : ∀ {workspace : Workspace} {cursor answers action}, allowed workspace action →
      workspace.cursors[id]? = some cursor → kept workspace.store cursor answers →
      kept (workspace.perform printable action).workspace.store cursor answers)
    {workspace : Workspace} {cursor : Cursor} {past : List (Pull Item)}
    (held : workspace.cursors[id]? = some cursor) (start : kept workspace.store cursor past)
    {actions : List Action} (along : workspace.Along printable allowed actions) :
    ∃ later, (workspace.run printable actions).cursors[id]? = some later ∧
      kept (workspace.run printable actions).store later
        (past ++ workspace.answers printable id actions) := by
  let silent (_ : Workspace) (_ : Action) : List Unit := []
  have unseen : ∀ workspace count, silent workspace (.pull id count) = [] := fun _ _ => rfl
  exact @life_keeps printable Unit id allowed silent (fun store cursor answers _ =>
    kept store cursor answers) asked (fun _ fine held start => acted fine held start) unseen
    workspace cursor past [] held start actions along

end Workspace

end Patchwork
