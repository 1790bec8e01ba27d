import Patchwork.Proofs.Bounds
import Patchwork.Script.Step

/-! # Bounds over scripts

A script sets the cap whenever it likes, to any integer, and gives names to what it makes. The
highest cap that was in force bounds every span and every fragment that can be got hold of: by a
name, in a piece or its decorations, in a cursor, or from an expression of any depth.
-/
namespace Patchwork.Script

namespace Result

variable {α β : Type}

theorem bind_eq_ok_iff {result : Result α} {next : α → Result β} {value : β} :
    (result >>= next) = .ok value ↔ ∃ given, result = .ok given ∧ next given = .ok value := by
  cases result <;> simp [bind, Except.bind]

theorem map_eq_ok_iff {ε : Type} {result : Except ε α} {f : α → β} {value : β} :
    result.map f = .ok value ↔ ∃ given, result = .ok given ∧ f given = value := by
  cases result <;> simp [Except.map]

theorem ofFault_eq_ok_iff {result : Except Fault α} {value : α} :
    ofFault result = .ok value ↔ result = .ok value := by
  cases result with
  | error fault => exact ⟨nofun, nofun⟩
  | ok given => exact ⟨fun same => by cases same; rfl, fun same => by cases same; rfl⟩

theorem forall_of_mapM {make : α → Result β} {kept : β → Prop}
    (each : ∀ {value made}, make value = .ok made → kept made) {values : List α}
    {results : List β} (all : values.mapM make = .ok results) : ∀ made ∈ results, kept made := by
  induction values generalizing results with
  | nil =>
    cases all
    simp
  | cons value values ih =>
    rw [List.mapM_cons] at all
    obtain ⟨first, given, rest⟩ := bind_eq_ok_iff.mp all
    obtain ⟨others, gave, last⟩ := bind_eq_ok_iff.mp rest
    cases last
    exact List.forall_mem_cons.mpr ⟨each given, ih gave⟩

theorem of_optionMapM {make : α → Result β} {kept : β → Prop}
    (each : ∀ {value made}, make value = .ok made → kept made) {value : Option α}
    {result : Option β} (all : value.mapM make = .ok result) :
    ∀ made, result = some made → kept made := by
  cases value with
  | none =>
    cases all
    nofun
  | some value =>
    rw [Option.mapM_some] at all
    cases given : make value with
    | error failure =>
      rw [given] at all
      cases all
    | ok made =>
      rw [given] at all
      cases all
      intro other same
      cases same
      exact each given

end Result

def Binding.Within (limit : Int) : Binding → Prop
  | .span value => value.Within limit
  | .fragment value => value.Within limit
  | _ => True

def Binding.fragment? : Binding → Option Fragment
  | .fragment value => some value
  | _ => none

def Binding.span? : Binding → Option Span
  | .span value => some value
  | _ => none

namespace Scene

variable {printable : Char → Bool} {scene : Scene} {limit : Int}

structure Within (limit : Int) (scene : Scene) : Prop where
  workspace : scene.workspace.Within limit
  names : ∀ entry ∈ scene.names, entry.2.Within limit

namespace Within

theorem empty (cap limit : Int) : Within limit { workspace := { cap } } :=
  ⟨.empty cap limit, by simp⟩

theorem resolve {α : Type} (within : scene.Within limit) {select : Binding → Option α}
    {name : String} {value : α} (found : scene.resolve select name = .ok value) :
    ∃ binding : Binding, binding.Within limit ∧ select binding = some value := by
  unfold Scene.resolve at found
  split at found
  · rename_i given
    cases found
    obtain ⟨binding, bound, selected⟩ := Option.bind_eq_some_iff.mp given
    obtain ⟨before, after, names, _⟩ := List.lookup_eq_some_iff.mp bound
    have among : (name, binding) ∈ scene.names := by
      rw [names]
      exact List.mem_append_right _ List.mem_cons_self
    exact ⟨binding, within.names _ among, selected⟩
  · cases found

theorem span (within : scene.Within limit) (low : scene.workspace.cap ≤ limit) {expr : SpanExpr}
    {span : Span} (given : scene.span expr = .ok span) : span.Within limit := by
  cases expr with
  | bounds start stop => exact Span.within_of_ofBounds low (Result.ofFault_eq_ok_iff.mp given)
  | named name =>
    obtain ⟨binding, held, selected⟩ := within.resolve given
    cases binding <;> cases selected
    exact held

theorem content (within : scene.Within limit) (low : scene.workspace.cap ≤ limit) {expr : TextExpr}
    {content : Content} (given : scene.content expr = .ok content) : content.Within limit := by
  induction expr generalizing content with
  | plain text =>
    cases given
    trivial
  | own inner ih =>
    obtain ⟨content, made, given⟩ := Result.bind_eq_ok_iff.mp given
    obtain ⟨fragment, kept, given⟩ := Result.bind_eq_ok_iff.mp given
    cases given
    exact (ih made).toFragment low (Result.ofFault_eq_ok_iff.mp kept)
  | borrow source expr =>
    obtain ⟨span, made, given⟩ := Result.bind_eq_ok_iff.mp given
    obtain ⟨fragment, kept, given⟩ := Result.bind_eq_ok_iff.mp given
    cases given
    exact Fragment.within_of_borrow (within.span low made) (Result.ofFault_eq_ok_iff.mp kept)
  | named name =>
    obtain ⟨fragment, found, rfl⟩ := Result.map_eq_ok_iff.mp given
    obtain ⟨binding, held, selected⟩ := within.resolve found
    cases binding <;> cases selected
    exact held

theorem fragment (within : scene.Within limit) (low : scene.workspace.cap ≤ limit)
    {expr : TextExpr} {fragment : Fragment} (given : scene.fragment expr = .ok fragment) :
    fragment.Within limit := by
  obtain ⟨content, made, given⟩ := Result.bind_eq_ok_iff.mp given
  exact (within.content low made).toFragment low (Result.ofFault_eq_ok_iff.mp given)

theorem view (within : scene.Within limit) (low : scene.workspace.cap ≤ limit) {draft : Draft}
    {view : PieceView} (given : scene.view draft = .ok view) : view.ShowsWithin limit := by
  obtain ⟨span, spans, given⟩ := Result.bind_eq_ok_iff.mp given
  obtain ⟨edited, edits, given⟩ := Result.bind_eq_ok_iff.mp given
  obtain ⟨intro, intros, given⟩ := Result.bind_eq_ok_iff.mp given
  obtain ⟨outro, outros, given⟩ := Result.bind_eq_ok_iff.mp given
  cases given
  exact {
    span := within.span low spans
    edited := Result.of_optionMapM (within.fragment low) edits
    intro := Result.forall_of_mapM (within.fragment low) intros
    outro := Result.forall_of_mapM (within.fragment low) outros }

theorem action (within : scene.Within limit) (low : scene.workspace.cap ≤ limit) {step : Step}
    {action : Action} (acts : scene.action step = .ok action) : action.Within limit := by
  cases step with
  | span start stop name =>
    obtain ⟨span, spans, acts⟩ := Result.bind_eq_ok_iff.mp acts
    cases acts
    exact within.span low spans
  | fragment value name =>
    obtain ⟨content, contents, acts⟩ := Result.bind_eq_ok_iff.mp acts
    cases acts
    exact within.content low contents
  | create draft name =>
    obtain ⟨view, views, acts⟩ := Result.bind_eq_ok_iff.mp acts
    cases acts
    exact within.view low views
  | decorate side place piece text =>
    obtain ⟨piece, _, acts⟩ := Result.bind_eq_ok_iff.mp acts
    obtain ⟨content, contents, acts⟩ := Result.bind_eq_ok_iff.mp acts
    cases acts
    exact within.content low contents
  | edit piece text options =>
    obtain ⟨piece, _, acts⟩ := Result.bind_eq_ok_iff.mp acts
    obtain ⟨content, contents, acts⟩ := Result.bind_eq_ok_iff.mp acts
    obtain ⟨policy, _, acts⟩ := Result.bind_eq_ok_iff.mp acts
    cases acts
    exact within.content low contents
  | setSpan piece span =>
    obtain ⟨piece, _, acts⟩ := Result.bind_eq_ok_iff.mp acts
    obtain ⟨span, spans, acts⟩ := Result.bind_eq_ok_iff.mp acts
    cases acts
    exact within.span low spans
  | setEdited piece text =>
    obtain ⟨piece, _, acts⟩ := Result.bind_eq_ok_iff.mp acts
    obtain ⟨content, contents, acts⟩ := Result.bind_eq_ok_iff.mp acts
    cases acts
    cases content with
    | none => trivial
    | some content => exact Result.of_optionMapM (within.content low) contents content rfl
  -- No other step hands over a span or a fragment: all they name is found first.
  | setCap | arena =>
    cases acts
    trivial
  | get | size | listing | setNext | setStoreName | bounds | contains | isEdited | divide
  | divideSlot | walk | openWalk | openListing | pull | display =>
    obtain ⟨_, _, acts⟩ := Result.bind_eq_ok_iff.mp acts
    cases acts
    trivial
  | spanText | push | fragments | output | render | openParts | openOutput | compare =>
    obtain ⟨_, _, acts⟩ := Result.bind_eq_ok_iff.mp acts
    obtain ⟨_, _, acts⟩ := Result.bind_eq_ok_iff.mp acts
    cases acts
    trivial

/-- What a step gives a name to is a value it asks about, or is known by number. -/
theorem told (within : scene.Within limit) (low : scene.workspace.cap ≤ limit) {step : Step}
    {action : Action} (acts : scene.action step = .ok action) {name : String}
    (names : step.name? = some name) {reply : Reply}
    (replied : (scene.workspace.perform printable action).reply = .ok reply) {binding : Binding}
    (stands : Binding.ofReply reply = some binding) : binding.Within limit := by
  have given := within.action low acts
  cases step with
  | span start stop =>
    obtain ⟨span, _, acts⟩ := Result.bind_eq_ok_iff.mp acts
    cases acts
    obtain ⟨length, _, rfl⟩ := Result.map_eq_ok_iff.mp replied
    cases stands
    exact given
  | fragment value =>
    obtain ⟨content, _, acts⟩ := Result.bind_eq_ok_iff.mp acts
    cases acts
    obtain ⟨fragment, kept, rfl⟩ := Result.map_eq_ok_iff.mp replied
    cases stands
    exact Content.Within.toFragment given low kept
  | arena =>
    cases acts
    cases replied
    cases stands
    trivial
  | get | divide =>
    obtain ⟨_, _, acts⟩ := Result.bind_eq_ok_iff.mp acts
    cases acts
    obtain ⟨_, _, rfl⟩ := Result.map_eq_ok_iff.mp replied
    cases stands
    trivial
  | create | openWalk | openListing =>
    obtain ⟨_, _, acts⟩ := Result.bind_eq_ok_iff.mp acts
    cases acts
    cases replied
    cases stands
    trivial
  | openOutput =>
    obtain ⟨_, _, acts⟩ := Result.bind_eq_ok_iff.mp acts
    obtain ⟨_, _, acts⟩ := Result.bind_eq_ok_iff.mp acts
    cases acts
    cases replied
    cases stands
    trivial
  | openParts =>
    obtain ⟨_, _, acts⟩ := Result.bind_eq_ok_iff.mp acts
    obtain ⟨_, _, acts⟩ := Result.bind_eq_ok_iff.mp acts
    cases acts
    simp only [Workspace.perform] at replied
    split at replied
    · cases replied
    · cases replied
      cases stands
      trivial
  | _ => cases names

theorem bind (within : scene.Within limit) (name : String) {binding : Binding}
    (new : binding.Within limit) : (scene.bind name binding).Within limit where
  workspace := within.workspace
  names := List.forall_mem_cons.mpr
    ⟨new, fun entry among => within.names entry (List.mem_filter.mp among).1⟩

theorem perform (within : scene.Within limit) (low : scene.workspace.cap ≤ limit) (step : Step) :
    (scene.perform printable step).2.Within limit := by
  unfold Scene.perform
  cases acts : scene.action step with
  | error failure => exact within
  | ok action =>
    have done : Within limit
        { scene with workspace := (scene.workspace.perform printable action).workspace } :=
      ⟨within.workspace.perform low (within.action low acts), within.names⟩
    simp only [Scene.named]
    split
    · rename_i reply replied
      split
      · rename_i name binding names stands
        exact done.bind name (within.told low acts names replied stands)
      · exact done
    · exact done

end Within

/-- The highest cap in force while a script runs, from the start to after its last step. -/
def highest (printable : Char → Bool) : Scene → List Step → Int
  | scene, [] => scene.workspace.cap
  | scene, step :: steps =>
    max scene.workspace.cap ((scene.perform printable step).2.highest printable steps)

theorem cap_le_highest (scene : Scene) (steps : List Step) :
    scene.workspace.cap ≤ scene.highest printable steps := by
  cases steps with
  | nil => exact Int.le_refl _
  | cons step steps => exact Int.le_max_left _ _

theorem Within.run (within : scene.Within limit) {steps : List Step}
    (low : scene.highest printable steps ≤ limit) : (scene.run printable steps).2.Within limit := by
  induction steps generalizing scene with
  | nil => exact within
  | cons step steps ih =>
    have now := Int.le_trans (cap_le_highest scene _) low
    exact ih (within.perform now step) (Int.le_trans (Int.le_max_right _ _) low)

/-- Every fragment in the scene: under a name, as the new text of a piece, as a decoration, or in a
cursor that has still to give it out. -/
def fragments (scene : Scene) : List Fragment :=
  scene.names.filterMap (fun entry => entry.2.fragment?) ++
  scene.workspace.store.pieces.toList.filterMap Piece.edited ++
  scene.workspace.store.queues.toList.flatMap Queue.items ++
  scene.workspace.cursors.toList.flatMap Cursor.fragments

/-- Every span in the scene: under a name, of a piece, or of a fragment. -/
def spans (scene : Scene) : List Span :=
  scene.names.filterMap (fun entry => entry.2.span?) ++
  scene.workspace.store.pieces.toList.map Piece.span ++
  scene.fragments.filterMap Fragment.span?

/-- A copy of a fragment is not measured again: it may be longer than the cap in force. -/
example :
    let start : Scene := { workspace := { cap := 6 } }
    let steps : List Step := [.fragment (.plain "abcdef") (some "text"), .setCap 2,
      .fragment (.own (.named "text")) (some "copy")]
    let scene := (start.run (fun _ => true) steps).2
    scene.workspace.cap = 2 ∧ start.highest (fun _ => true) steps = 6 ∧
      scene.fragments.map Fragment.length = [6, 6] := by decide +kernel

end Scene

end Patchwork.Script
