import Patchwork.Proofs.Bounds.Script
import Patchwork.Proofs.Cap

/-! # What the cap decides in scripts

A script makes its spans and fragments in expressions, which look at the cap wherever they stand, and
uses what it has made. As long as no step is refused for a size, a script that leaves the cap alone
runs the same under every higher cap.
-/
namespace Patchwork.Script

def Failure.OfSize : Failure → Prop
  | .fault reason => reason.OfSize
  | .options _ | .unbound _ => False

instance : DecidablePred Failure.OfSize
  | .fault reason => inferInstanceAs (Decidable reason.OfSize)
  | .options _ | .unbound _ => .isFalse id

section Results

variable {α β : Type}

theorem Result.oversized_ofFault {result : Except Fault α} :
    Oversized Failure.OfSize (Result.ofFault result) ↔ Oversized Fault.OfSize result := by
  cases result <;> rfl

theorem Result.ofFault_steady {low high : Except Fault α} (steady : Steady Fault.OfSize low high) :
    Steady Failure.OfSize (Result.ofFault low) (Result.ofFault high) := fun admitted => by
  rw [steady (mt Result.oversized_ofFault.mpr admitted)]

theorem mapM_steady {make make' : α → Result β}
    (each : ∀ value, Steady Failure.OfSize (make value) (make' value)) (values : List α) :
    Steady Failure.OfSize (values.mapM make) (values.mapM make') := by
  induction values with
  | nil => exact .refl _
  | cons value values ih =>
    rw [List.mapM_cons, List.mapM_cons]
    exact (each value).bind fun _ => ih.bind fun _ => .refl _

theorem optionMapM_steady {make make' : α → Result β}
    (each : ∀ value, Steady Failure.OfSize (make value) (make' value)) (value : Option α) :
    Steady Failure.OfSize (value.mapM make) (value.mapM make') := by
  cases value with
  | none => exact .refl _
  | some value =>
    rw [Option.mapM_some, Option.mapM_some]
    exact (each value).map some

end Results

namespace Scene

variable {printable : Char → Bool} {low high : Int}

def withCap (scene : Scene) (cap : Int) : Scene :=
  { scene with workspace := scene.workspace.withCap cap }

theorem span_steady (rises : low ≤ high) (scene : Scene) (expr : SpanExpr) :
    Steady Failure.OfSize ((scene.withCap low).span expr) ((scene.withCap high).span expr) := by
  cases expr with
  | bounds start stop => exact Result.ofFault_steady (Span.ofBounds_steady rises start stop)
  | named name => exact .refl _

theorem content_steady (rises : low ≤ high) (scene : Scene) (expr : TextExpr) :
    Steady Failure.OfSize ((scene.withCap low).content expr) ((scene.withCap high).content expr) := by
  induction expr with
  | plain text => exact .refl _
  | own inner ih =>
    exact ih.bind fun content =>
      (Result.ofFault_steady (content.toFragment_steady rises)).bind fun _ => .refl _
  | borrow source span =>
    exact (scene.span_steady rises span).bind fun span =>
      (Result.ofFault_steady (Fragment.borrow_steady rises source span)).bind fun _ => .refl _
  | named name => exact .refl _

theorem fragment_steady (rises : low ≤ high) (scene : Scene) (expr : TextExpr) :
    Steady Failure.OfSize ((scene.withCap low).fragment expr)
      ((scene.withCap high).fragment expr) :=
  (scene.content_steady rises expr).bind fun content =>
    Result.ofFault_steady (content.toFragment_steady rises)

theorem view_steady (rises : low ≤ high) (scene : Scene) (draft : Draft) :
    Steady Failure.OfSize ((scene.withCap low).view draft) ((scene.withCap high).view draft) :=
  (scene.span_steady rises draft.span).bind fun _ =>
    (optionMapM_steady (scene.fragment_steady rises) draft.edited).bind fun _ =>
      (mapM_steady (scene.fragment_steady rises) draft.intro).bind fun _ =>
        (mapM_steady (scene.fragment_steady rises) draft.outro).bind fun _ => .refl _

@[simp] theorem arena_withCap (scene : Scene) (cap : Int) (name : String) :
    (scene.withCap cap).arena name = scene.arena name := rfl

@[simp] theorem cursor_withCap (scene : Scene) (cap : Int) (name : String) :
    (scene.withCap cap).cursor name = scene.cursor name := rfl

@[simp] theorem piece_withCap (scene : Scene) (cap : Int) (expr : PieceExpr) :
    (scene.withCap cap).piece expr = scene.piece expr := by
  cases expr <;> rfl

theorem subject?_withCap (scene : Scene) (cap : Int) (step : Step) :
    (scene.withCap cap).subject? step = scene.subject? step := by
  cases step <;> simp [subject?]

theorem action_steady (rises : low ≤ high) (scene : Scene) (step : Step) :
    Steady Failure.OfSize ((scene.withCap low).action step) ((scene.withCap high).action step) := by
  cases step with
  | span start stop name =>
    exact (scene.span_steady rises (.bounds start stop)).bind fun _ => .refl _
  | spanText span source =>
    exact (scene.span_steady rises span).bind fun _ =>
      (scene.content_steady rises source).bind fun _ => .refl _
  | fragment value name => exact (scene.content_steady rises value).bind fun _ => .refl _
  | create draft name => exact (scene.view_steady rises draft).bind fun _ => .refl _
  | decorate side place piece text =>
    simp only [action, piece_withCap]
    exact (Steady.refl _).bind fun _ => (scene.content_steady rises text).bind fun _ => .refl _
  | edit piece text options =>
    simp only [action, piece_withCap]
    exact (Steady.refl _).bind fun _ => (scene.content_steady rises text).bind fun _ => .refl _
  | setSpan piece span =>
    simp only [action, piece_withCap]
    exact (Steady.refl _).bind fun _ => (scene.span_steady rises span).bind fun _ => .refl _
  | setEdited piece text =>
    simp only [action, piece_withCap]
    exact (Steady.refl _).bind fun _ =>
      (optionMapM_steady (scene.content_steady rises) text).bind fun _ => .refl _
  | fragments piece source | openParts piece source =>
    simp only [action, piece_withCap]
    exact (Steady.refl _).bind fun _ => (scene.content_steady rises source).bind fun _ => .refl _
  | output arena head source | render arena head source | openOutput arena head source =>
    exact (Steady.refl _).bind fun _ => (scene.content_steady rises source).bind fun _ => .refl _
  -- The other steps make no span and no fragment.
  | _ =>
    simp only [action, arena_withCap, piece_withCap, cursor_withCap]
    exact .refl _

theorem inquire_steady (rises : low ≤ high) (scene : Scene) (inquiry : Inquiry) :
    Steady Failure.OfSize ((scene.withCap low).inquire inquiry)
      ((scene.withCap high).inquire inquiry) := by
  cases inquiry with
  | offset value =>
    exact (Result.ofFault_steady (checkOffset_steady rises value)).bind fun _ => .refl _
  | span start stop source =>
    exact (scene.span_steady rises (.bounds start stop)).bind fun span =>
      (Steady.refl _).bind fun _ =>
        (optionMapM_steady (fun source => (scene.content_steady rises source).bind fun _ =>
          .refl _) source).bind fun _ => .refl _
  | sameSpan left right =>
    exact (scene.span_steady rises left).bind fun _ =>
      (scene.span_steady rises right).bind fun _ => .refl _
  | fragment value => exact (scene.fragment_steady rises value).bind fun _ => .refl _
  | sameText left right =>
    exact (scene.fragment_steady rises left).bind fun _ =>
      (optionMapM_steady (scene.content_steady rises) right).bind fun _ => .refl _
  | policy data => exact .refl _

theorem action_ne_setCap {scene : Scene} {step : Step} {action : Action}
    (acts : scene.action step = .ok action) (still : ∀ cap, step ≠ .setCap cap) :
    ∀ cap, action ≠ .setCap cap := by
  rintro cap rfl
  cases step with
  | setCap value => exact still value rfl
  | _ => simp [Scene.action, Result.bind_eq_ok_iff] at acts

theorem named_withCap (scene : Scene) (cap : Int) (name? : Option String)
    (reply : Except Fault Reply) :
    (scene.withCap cap).named name? reply = (scene.named name? reply).withCap cap := by
  unfold named
  split
  · split <;> rfl
  · rfl

/-- What a step comes to under a cap that does not refuse it for a size, it comes to under a higher
cap: the answer is the same, and so is the scene but for the cap. -/
theorem perform_withCap (rises : low ≤ high) (scene : Scene) {step : Step}
    (still : ∀ cap, step ≠ .setCap cap)
    (admitted : ¬Oversized Failure.OfSize ((scene.withCap low).perform printable step).1.result) :
    (scene.withCap high).perform printable step =
      (((scene.withCap low).perform printable step).1,
        ((scene.withCap low).perform printable step).2.withCap high) := by
  have steady := scene.action_steady rises step
  simp only [Scene.perform, subject?_withCap] at admitted ⊢
  cases acts : (scene.withCap low).action step with
  | error failure =>
    rw [acts] at steady admitted
    simp only [steady admitted]
    rfl
  | ok action =>
    rw [acts] at steady admitted
    have done := scene.workspace.perform_withCap rises (action_ne_setCap acts still)
      (mt Result.oversized_ofFault.mpr admitted)
    simp only [steady id]
    rw [show (scene.withCap high).workspace = scene.workspace.withCap high from rfl, done,
      ← named_withCap]
    rfl

theorem run_withCap (rises : low ≤ high) (scene : Scene) {steps : List Step}
    (still : ∀ step ∈ steps, ∀ cap, step ≠ .setCap cap)
    (admitted : ∀ answer ∈ ((scene.withCap low).run printable steps).1,
      ¬Oversized Failure.OfSize answer.result) :
    (scene.withCap high).run printable steps =
      (((scene.withCap low).run printable steps).1,
        ((scene.withCap low).run printable steps).2.withCap high) := by
  induction steps generalizing scene with
  | nil => rfl
  | cons step steps ih =>
    obtain ⟨here, later⟩ := List.forall_mem_cons.mp still
    obtain ⟨first, rest⟩ := List.forall_mem_cons.mp admitted
    have done := scene.perform_withCap rises here first
    -- Under the same cap this says that the step has left the cap alone.
    have same : ((scene.withCap low).perform printable step).2.withCap low =
        ((scene.withCap low).perform printable step).2 :=
      (congrArg Prod.snd (scene.perform_withCap (Int.le_refl low) here first)).symm
    have after := ih ((scene.withCap low).perform printable step).2 later (same.symm ▸ rest)
    rw [same] at after
    simp only [run, done, after]

/-- All that the cap does is to refuse sizes. Take a script that leaves the cap alone, from any scene
on, and a cap under which none of its steps is refused for a size. Under every higher cap each step has
the same answer, with the same result or failure, state and records, and the last scene is the same but
for the cap. An inquiry that is not refused for a size is answered the same under every higher cap. -/
theorem run_under_higher_cap (rises : low ≤ high) (scene : Scene) :
    (∀ steps : List Step, (∀ step ∈ steps, ∀ cap, step ≠ .setCap cap) →
      (∀ answer ∈ ((scene.withCap low).run printable steps).1,
        ¬Oversized Failure.OfSize answer.result) →
      (scene.withCap high).run printable steps =
        (((scene.withCap low).run printable steps).1,
          ((scene.withCap low).run printable steps).2.withCap high)) ∧
    ∀ inquiry : Inquiry, ¬Oversized Failure.OfSize ((scene.withCap low).inquire inquiry) →
      (scene.withCap high).inquire inquiry = (scene.withCap low).inquire inquiry :=
  ⟨fun _ still admitted => scene.run_withCap rises still admitted, scene.inquire_steady rises⟩

/-- A document of six positions under a cap of six. A split at an edge, an empty span and an edited
piece are refused, though not for a size. -/
theorem run_under_higher_cap_of_six :
    let steps : List Step := [.arena "a", .create { span := .bounds 0 6 } (some "p"),
      .push "a" (.named "p"), .divideSlot "a" 0 6, .divideSlot "a" 0 2, .span 4 4 none,
      .openOutput "a" 0 (.own (.plain "abcdef")) "i", .pull "i" 1,
      .edit (.slot "a" 1) (.borrow "longer" (.bounds 1 6)) none, .divideSlot "a" 1 4, .pull "i" 9,
      .render "a" 0 (.plain "abcdef")]
    let run (cap : Int) := (({} : Scene).withCap cap).run (fun _ => true) steps
    (6 : Int) ≤ 100 ∧ (∀ step ∈ steps, ∀ cap, step ≠ .setCap cap) ∧
    (∀ answer ∈ (run 6).1, ¬Oversized Failure.OfSize answer.result) ∧
    (run 100).1 = (run 6).1 ∧ (run 100).2.workspace.store = (run 6).2.workspace.store ∧
    ((run 6).1.map fun answer => answer.result.toBool) =
      [true, true, true, false, true, false, true, true, true, false, true, true] := by
  intro steps run
  have still : ∀ step ∈ steps, ∀ cap, step ≠ .setCap cap := by simp [steps]
  have admitted : ∀ answer ∈ (run 6).1, ¬Oversized Failure.OfSize answer.result := by
    decide +kernel
  have same : run 100 = ((run 6).1, (run 6).2.withCap 100) :=
    (run_under_higher_cap (by decide) {}).1 steps still admitted
  exact ⟨by decide, still, admitted, by rw [same], by rw [same]; rfl, by decide +kernel⟩

end Scene

end Patchwork.Script
