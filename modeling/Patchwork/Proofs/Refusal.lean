import Patchwork.Proofs.Reachable
import Patchwork.Store.View

/-! # Refusals

A call that is refused, or asks for a reading that fails, writes no record and leaves arenas and
pieces as they were. An edit is the exception, for its policy takes effect before the new text is
measured: under a text that is too long its piece loses its decorations, if the policy says so,
and gets the name mark. No other piece shows this, since no two pieces share a queue in a
workspace that runs come to.
-/
namespace Patchwork

/-- The fault that a performance ends with: that of the call, or of the reading it asks for. -/
def Performance.fault? (performance : Performance) : Option Fault :=
  match performance.reply with
  | .error fault => some fault
  | .ok (.batch ⟨_, .failed fault⟩) => some fault
  | .ok _ => none

theorem checkLength_eq_error_iff {cap : Int} {length : Nat} {fault : Fault} :
    checkLength cap length = .error fault ↔ cap < length ∧ fault = .textTooLong length cap := by
  unfold checkLength
  split
  · simp only [reduceCtorEq, false_iff, not_and]
    omega
  · rw [Except.error.injEq]
    exact ⟨fun same => ⟨by omega, same.symm⟩, fun long => long.2.symm⟩

theorem Content.toFragment_eq_error_iff {cap : Int} {content : Content} {fault : Fault} :
    content.toFragment cap = .error fault ↔
      ∃ text, content = .plain text ∧ cap < text.length ∧ fault = .textTooLong text.length cap := by
  cases content with
  | wrapped fragment => simp [toFragment]
  | plain text =>
    simp only [toFragment, plain.injEq, exists_eq_left', ← checkLength_eq_error_iff]
    cases checkLength cap text.length <;> simp [Except.map]

namespace Store

variable {store : Store} {cap : Int} {fault : Fault}

theorem divide_of_error {piece : Nat} {offset : Int}
    (refused : (store.divide cap piece offset).result = .error fault) :
    store.divide cap piece offset = { result := .error fault, store } := by
  unfold divide at refused ⊢
  split at refused
  · cases refused
    rfl
  · cases refused

theorem divideSlot_of_error {arena : Nat} {index offset : Int}
    (refused : (store.divideSlot cap arena index offset).result = .error fault) :
    store.divideSlot cap arena index offset = { result := .error fault, store } := by
  unfold divideSlot at refused ⊢
  split at refused
  · cases refused
    rfl
  · rename_i piece _
    cases cut : store.divide cap piece offset with
    | mk result halved log =>
      rw [cut] at refused
      cases result with
      | error reason =>
        cases refused
        have unchanged := divide_of_error (congrArg Outcome.result cut)
        rw [cut] at unchanged
        cases unchanged
        rfl
      | ok right => cases refused

theorem arenas_applyPolicy (store : Store) (piece : Nat) (policy : EditPolicy) :
    (store.applyPolicy piece policy).arenas = store.arenas := by
  unfold applyPolicy
  split <;> rfl

end Store

namespace Workspace

variable {printable : Char → Bool} {workspace : Workspace} {fault : Fault}

theorem perform_edit_of_fault {piece : Nat} {content : Content} {policy : EditPolicy}
    (refused : (workspace.perform printable (.edit piece content policy)).fault? = some fault) :
    (∃ text, content = .plain text ∧ workspace.cap < text.length ∧
      fault = .textTooLong text.length workspace.cap) ∧
    workspace.perform printable (.edit piece content policy) =
      { reply := .error fault
        workspace := { workspace with store := workspace.store.applyPolicy piece policy } } := by
  cases kept : content.toFragment workspace.cap with
  | error reason =>
    have performed : workspace.perform printable (.edit piece content policy) =
        { reply := .error reason
          workspace := { workspace with store := workspace.store.applyPolicy piece policy } } := by
      simp [perform, settle, Store.edit, kept, Except.map]
    rw [performed] at refused ⊢
    cases refused
    exact ⟨Content.toFragment_eq_error_iff.mp kept, rfl⟩
  | ok fragment =>
    simp [Performance.fault?, perform, settle, Store.edit, kept, Except.map] at refused

/-- Apart from edits, and from pulls, which move their cursor, a refused action does nothing. -/
theorem perform_of_fault {action : Action}
    (refused : (workspace.perform printable action).fault? = some fault)
    (no_edit : ∀ piece content policy, action ≠ .edit piece content policy) :
    (workspace.perform printable action).log = [] ∧
    (workspace.perform printable action).workspace =
      { workspace with cursors := (workspace.perform printable action).workspace.cursors } ∧
    ((∀ id count, action ≠ .pull id count) →
      (workspace.perform printable action).workspace = workspace) := by
  cases action with
  | edit piece content policy => exact absurd rfl (no_edit piece content policy)
  | ask question => exact ⟨rfl, rfl, fun _ => rfl⟩
  | pull id count =>
    refine ⟨?_, ?_, fun no_pull => absurd rfl (no_pull id count)⟩ <;>
      simp only [perform] <;> split <;> rfl
  | decorate piece side place content =>
    cases kept : content.toFragment workspace.cap with
    | error reason => simp [perform, settle, Store.decorate, kept]
    | ok fragment =>
      simp [Performance.fault?, perform, settle, Store.decorate, kept, Except.map] at refused
  | divide piece offset =>
    cases cut : (workspace.store.divide workspace.cap piece offset).result with
    | error reason => simp [perform, settle, Store.divide_of_error cut]
    | ok right => simp [Performance.fault?, perform, settle, cut, Except.map] at refused
  | divideSlot arena index offset =>
    cases cut : (workspace.store.divideSlot workspace.cap arena index offset).result with
    | error reason => simp [perform, settle, Store.divideSlot_of_error cut]
    | ok slot => simp [Performance.fault?, perform, settle, cut, Except.map] at refused
  | setEdited piece content =>
    cases content with
    | none => cases refused
    | some content =>
      cases kept : content.toFragment workspace.cap with
      | error reason => simp [perform, kept, refuse]
      | ok fragment => simp [Performance.fault?, perform, kept, withStore] at refused
  | openParts piece source =>
    cases opened : Part.ofPiece workspace.store piece source.text with
    | error reason => simp [perform, opened, refuse]
    | ok parts => simp [Performance.fault?, perform, opened, openCursor] at refused
  | _ => cases refused

/-- What a refused call leaves behind, in a workspace that a run came to: no record, every arena
as it was, and every piece as it was, unless an edit is refused for the length of its text. Then
the policy of the edit has been applied to its piece, and no other piece shows anything of it. -/
theorem refused_perform_keeps (reachable : workspace.Reachable printable) {action : Action}
    (known : action.Known workspace.store)
    (refused : (workspace.perform printable action).fault? = some fault) :
    let performance := workspace.perform printable action
    let before := workspace.store
    let after := performance.workspace.store
    performance.log = [] ∧
    match action with
    | .edit piece content policy =>
      (∃ text, content = .plain text ∧ workspace.cap < text.length ∧
        fault = .textTooLong text.length workspace.cap) ∧
      performance.workspace = { workspace with store := after } ∧
      after.arenas = before.arenas ∧ after.pieces.size = before.pieces.size ∧
      after.piece piece =
        { before.piece piece with
          intro := if policy.overwrite then [] else (before.piece piece).intro
          outro := if policy.overwrite then [] else (before.piece piece).outro
          storeName := policy.storeName } ∧
      ∀ other < before.pieces.size, other ≠ piece → after.piece other = before.piece other
    | .pull _ _ =>
      performance.workspace = { workspace with cursors := performance.workspace.cursors }
    | _ => performance.workspace = workspace := by
  intro performance before after
  by_cases edits : ∃ piece content policy, action = .edit piece content policy
  · obtain ⟨piece, content, policy, rfl⟩ := edits
    obtain ⟨long, performed⟩ := perform_edit_of_fault refused
    have sound := reachable.wellFormed
    have here := known piece (List.mem_singleton_self _)
    have applied : after = before.applyPolicy piece policy := by
      simp only [after, performance, performed]
      rfl
    refine ⟨by simp only [performance, performed], long, ?_, ?_, ?_, ?_, ?_⟩
    · simp only [after, performance, performed]
    · rw [applied, Store.arenas_applyPolicy]
    · rw [applied]
      exact (Store.SameOutline.applyPolicy before piece policy).size
    · rw [applied, Store.piece_applyPolicy sound here here, if_pos rfl]
    · intro other there apart
      rw [applied, Store.piece_applyPolicy sound here there, if_neg (Ne.symm apart)]
  · obtain ⟨silent, kept, same⟩ := perform_of_fault refused
      fun piece content policy edit => edits ⟨piece, content, policy, edit⟩
    refine ⟨silent, ?_⟩
    cases action with
    | edit piece content policy => exact absurd ⟨piece, content, policy, rfl⟩ edits
    | pull id count => exact kept
    | _ => exact same nofun

/-- Two pieces with decorations, halves of one document. Under a low cap the first is edited. -/
theorem refused_perform_keeps_of_long_text :
    let actions : List Action := [.openArena,
      .create { span := ⟨0, 6, by decide⟩, intro := [], outro := [] }, .push 0 0,
      .decorate 0 .intro .back (.plain "<"), .decorate 0 .outro .back (.plain ">"),
      .divideSlot 0 0 4, .setCap 2]
    let workspace := ({} : Workspace).run (fun _ => true) actions
    let action : Action := .edit 0 (.plain "long") { storeName := true }
    let performance := workspace.perform (fun _ => true) action
    workspace.Reachable (fun _ => true) ∧ action.Known workspace.store ∧
    performance.fault? = some (.textTooLong 4 2) ∧ performance.log = [] ∧
    (performance.workspace.store.piece 0).intro = [] ∧
    (performance.workspace.store.piece 0).edited = none ∧
    (performance.workspace.store.piece 0).storeName = true ∧
    (performance.workspace.store.piece 1).outro.map Fragment.text = [">"] := by
  intro actions workspace action performance
  have reachable : workspace.Reachable (fun _ => true) := ⟨actions, by decide +kernel, rfl⟩
  have known : action.Known workspace.store := by decide +kernel
  have refused : performance.fault? = some (.textTooLong 4 2) := by decide +kernel
  obtain ⟨silent, _, _, _, _, here, others⟩ := refused_perform_keeps reachable known refused
  refine ⟨reachable, known, refused, silent, ?_, ?_, ?_, ?_⟩
  · rw [here]
    rfl
  · rw [here]
    rfl
  · rw [here]
  · rw [others 1 (by decide +kernel) (by decide)]
    decide +kernel

end Workspace

end Patchwork
