import Patchwork.Fault.Kind
import Patchwork.Proofs.Bounds
import Patchwork.Proofs.Refusal
import Patchwork.Proofs.Rendering

/-! # Splits, exactly

A split is refused for the first of three reasons: the piece has been edited, the offset is not
inside it, the cap is below its end. Otherwise it succeeds. The span of the left half is the last
one to be checked, when the outro has been handed over already; it ends before the span of the
right half, so the cap that has admitted the one admits the other. The halves show what the piece
showed, its content cut in two.
-/
namespace Patchwork

theorem checkOffset_natCast_eq_error_iff {cap : Int} {offset : Nat} {fault : Fault} :
    checkOffset cap offset = .error fault ↔ cap < offset ∧ fault = .offsetOutOfRange offset cap := by
  unfold checkOffset
  split
  · simp only [reduceCtorEq, false_iff, not_and]
    omega
  · rw [Except.error.injEq]
    exact ⟨fun same => ⟨by omega, same.symm⟩, fun beyond => beyond.2.symm⟩

namespace Span

/-- A span that starts inside another and stops with it is refused for the cap alone. -/
theorem ofBounds_eq_error_iff_of_inside {cap : Int} {span : Span} {position : Nat}
    (inside : position < span.stop) {fault : Fault} :
    ofBounds cap position span.stop = .error fault ↔
      cap < span.stop ∧
        fault = .offsetOutOfRange (if cap < position then position else span.stop) cap := by
  by_cases low : cap < (position : Int)
  · have refused : checkOffset cap position = .error (.offsetOutOfRange position cap) :=
      checkOffset_natCast_eq_error_iff.mpr ⟨low, rfl⟩
    have beyond : cap < span.stop := by omega
    simp only [ofBounds, refused, bind, Except.bind, Except.error.injEq, low, if_true, beyond,
      true_and]
    exact eq_comm
  · have admitted : checkOffset cap position = .ok position := checkOffset_natCast (by omega)
    by_cases high : cap < (span.stop : Int)
    · have refused : checkOffset cap span.stop = .error (.offsetOutOfRange span.stop cap) :=
        checkOffset_natCast_eq_error_iff.mpr ⟨high, rfl⟩
      simp only [ofBounds, admitted, refused, bind, Except.bind, Except.error.injEq, low, if_false,
        high, true_and]
      exact eq_comm
    · have built : ofBounds cap position span.stop = .ok ⟨position, span.stop, inside⟩ :=
        ofBounds_eq_ok_iff.mpr ⟨rfl, rfl, by omega⟩
      simp [built, high]

end Span

namespace Piece

variable {κ : Type} {cap offset : Int} {piece : Piece κ} {leftOutro rightIntro : κ} {fault : Fault}

/-- The reasons a split is refused for, in the order in which they are looked at. -/
theorem split_eq_error_iff :
    piece.split cap offset leftOutro rightIntro = .error fault ↔
      (piece.isEdited = true ∧ fault = .alreadyEdited piece.span) ∨
      (piece.isEdited = false ∧ ¬piece.span.Inside offset ∧
        fault = .offsetNotInside offset piece.span) ∨
      (piece.isEdited = false ∧ piece.span.Inside offset ∧ cap < piece.span.stop ∧
        fault = .offsetOutOfRange (if cap < offset then offset else piece.span.stop) cap) := by
  cases changed : piece.isEdited with
  | true => simp [split, changed, eq_comm]
  | false =>
    by_cases inside : piece.span.Inside offset
    · obtain ⟨position, rfl⟩ := Int.eq_ofNat_of_zero_le (show 0 ≤ offset by have := inside.1; omega)
      have stops : position < piece.span.stop := Int.ofNat_lt.mp inside.2
      have refused := @Span.ofBounds_eq_error_iff_of_inside cap piece.span position stops fault
      -- The offset is checked twice, on its own and as the start of the right half.
      cases checked : checkOffset cap position with
      | error reason =>
        obtain ⟨low, rfl⟩ := checkOffset_natCast_eq_error_iff.mp checked
        have beyond : cap < piece.span.stop := by omega
        simp [split, changed, inside, checked, bind, Except.bind, low, beyond, eq_comm]
      | ok start =>
        obtain ⟨same, _⟩ := checkOffset_eq_ok_iff.mp checked
        obtain rfl := Int.ofNat_inj.mp same
        rw [← refused]
        cases built : Span.ofBounds cap position piece.span.stop with
        | error reason => simp [split, changed, inside, checked, built, bind, Except.bind]
        | ok rest =>
          obtain ⟨first, admitted, _⟩ := exists_left_span inside checked built
          simp [split, changed, inside, checked, built, admitted, bind, Except.bind]
    · simp [split, changed, inside, eq_comm]

theorem fault_of_split (refused : piece.split cap offset leftOutro rightIntro = .error fault) :
    fault.kind = (if piece.isEdited then .editedSplit
        else if piece.span.Inside offset then .textSize else .splitOffset) ∧
      fault = if piece.isEdited then .alreadyEdited piece.span
        else if piece.span.Inside offset then
          .offsetOutOfRange (if cap < offset then offset else piece.span.stop) cap
        else .offsetNotInside offset piece.span := by
  rcases split_eq_error_iff.mp refused with
    ⟨changed, rfl⟩ | ⟨fresh, outside, rfl⟩ | ⟨fresh, inside, _, rfl⟩
  · simp [changed, Fault.kind]
  · simp [fresh, outside, Fault.kind]
  · simp [fresh, inside, Fault.kind]

/-- The halves of an unedited piece give out its intro, its content in two parts and its outro. -/
theorem output_halves {view : PieceView} {position : Nat} (fresh : view.edited = none)
    (inside : view.span.start < position ∧ position < view.span.stop) {source : String}
    (fits : view.span.stop ≤ source.length) :
    let content := slice source view.span.start view.span.stop
    let cutting := position - view.span.start
    view.output source =
        .ok (view.intro.map Fragment.text ++ content :: view.outro.map Fragment.text) ∧
      (view.halves position inside [] []).1.output source =
        .ok (view.intro.map Fragment.text ++ [slice content 0 cutting]) ∧
      (view.halves position inside [] []).2.output source =
        .ok (slice content cutting content.length :: view.outro.map Fragment.text) ∧
      slice content 0 cutting ++ slice content cutting content.length = content := by
  intro content cutting
  have long : content.length = view.span.stop - view.span.start := length_slice fits
  have short : cutting ≤ content.length := by omega
  have first : slice content 0 cutting = slice source view.span.start position := by
    rw [slice_slice source 0 (by omega)]
    congr 1
    omega
  have second : slice content cutting content.length = slice source position view.span.stop := by
    rw [long, slice_slice source _ (by omega)]
    congr 1 <;> omega
  refine ⟨?_, ?_, ?_, by rw [slice_append content (Nat.zero_le _) short, slice_length]⟩
  · exact output_eq_ok_iff.mpr ⟨fun _ => fits, by simp [texts, shown, fresh, content]⟩
  · rw [first]
    exact output_eq_ok_iff.mpr ⟨fun _ => Nat.le_trans (Nat.le_of_lt inside.2) fits,
      by simp [halves, texts, shown, fresh]⟩
  · rw [second]
    exact output_eq_ok_iff.mpr ⟨fun _ => fits, by simp [halves, texts, shown]⟩

end Piece

namespace Store

variable {store : Store} {piece : Nat}

theorem divide_eq_error_iff {cap offset : Int} {fault : Fault} :
    (store.divide cap piece offset).result = .error fault ↔
      (store.piece piece).split cap offset [] [] = .error fault := by
  have kept : (store.divide cap piece offset).result = .error fault ↔
      (store.stored piece).split cap offset store.queues.size (store.queues.size + 1) =
        .error fault := by
    unfold divide
    split <;> simp_all
  -- The reasons are the same for a piece as it is kept and as it is seen.
  have seen := @Piece.split_eq_error_iff _ cap offset (store.piece piece) [] [] fault
  exact kept.trans (Piece.split_eq_error_iff.trans seen.symm)

theorem divide_eq_ok_iff {cap offset : Int} {right : Nat} :
    (store.divide cap piece offset).result = .ok right ↔
      right = store.pieces.size ∧ ∃ halves, (store.piece piece).split cap offset [] [] = .ok halves := by
  cases cut : (store.piece piece).split cap offset [] [] with
  | error fault => simp [divide_eq_error_iff.mpr cut]
  | ok halves =>
    obtain ⟨_, _, divided, _, _⟩ := divide_eq cut
    simp [divided, eq_comm]

theorem exists_divide_iff {cap offset : Int} :
    (∃ right, (store.divide cap piece offset).result = .ok right) ↔
      (store.piece piece).edited = none ∧ (store.piece piece).span.Inside offset ∧
        ((store.piece piece).span.stop : Int) ≤ cap := by
  constructor
  · rintro ⟨right, divided⟩
    obtain ⟨_, halves, cut⟩ := divide_eq_ok_iff.mp divided
    obtain ⟨fresh, fits, position, inside, rfl, _⟩ := Piece.split_eq_ok_iff.mp cut
    exact ⟨fresh, ⟨Int.ofNat_lt.mpr inside.1, Int.ofNat_lt.mpr inside.2⟩, fits⟩
  · rintro ⟨fresh, inside, fits⟩
    obtain ⟨position, rfl⟩ := Int.eq_ofNat_of_zero_le (show 0 ≤ offset by have := inside.1; omega)
    have between := And.intro (Int.ofNat_lt.mp inside.1) (Int.ofNat_lt.mp inside.2)
    exact ⟨store.pieces.size, divide_eq_ok_iff.mpr ⟨rfl, _,
      Piece.split_eq_ok_iff.mpr ⟨fresh, fits, position, between, rfl, rfl⟩⟩⟩

theorem exists_halves_of_divide (known : piece < store.pieces.size) {cap offset : Int} {right : Nat}
    (divided : (store.divide cap piece offset).result = .ok right) :
    let whole := store.piece piece
    let after := (store.divide cap piece offset).store
    ∃ position inside, offset = ((position : Nat) : Int) ∧ whole.edited = none ∧
      after.piece piece = (whole.halves position inside [] []).1 ∧
      after.piece store.pieces.size = (whole.halves position inside [] []).2 := by
  intro whole after
  obtain ⟨_, halves, cut⟩ := divide_eq_ok_iff.mp divided
  obtain ⟨fresh, _, position, inside, rfl, same⟩ := Piece.split_eq_ok_iff.mp cut
  have shows := piece_divide known (same ▸ cut)
  refine ⟨position, inside, rfl, fresh, ?_, ?_⟩
  · exact (shows piece).trans ((if_neg (Nat.ne_of_lt known)).trans (if_pos rfl))
  · exact (shows store.pieces.size).trans (if_pos rfl)

/-- What a split comes to, for any piece, offset and cap. It succeeds exactly for an unedited piece, an
offset inside it and a cap that admits its end. A refusal tells which of these fails first, and leaves
everything as it was. Of the halves, the left one has the intro, the link and the name mark of the
piece, the right one its outro and its link. The check of the left span, which comes last, is always
passed. From a source that is long enough the halves give out what the piece gave out, with its
content cut in two. -/
theorem divide_exact (known : piece < store.pieces.size) (cap offset : Int) :
    let whole := store.piece piece
    let outcome := store.divide cap piece offset
    let left := outcome.store.piece piece
    let right := outcome.store.piece store.pieces.size
    ((∃ half, outcome.result = .ok half) ↔ whole.edited = none ∧
      (whole.span.start < offset ∧ offset < whole.span.stop) ∧ whole.span.stop ≤ cap) ∧
    (∀ fault, outcome.result = .error fault → outcome = { result := .error fault, store } ∧
      fault.kind = (if whole.isEdited then .editedSplit
        else if whole.span.Inside offset then .textSize else .splitOffset) ∧
      fault = if whole.isEdited then .alreadyEdited whole.span
        else if whole.span.Inside offset then
          .offsetOutOfRange (if cap < offset then offset else whole.span.stop) cap
        else .offsetNotInside offset whole.span) ∧
    (∀ half, outcome.result = .ok half → half = store.pieces.size ∧
      whole.span.Halves left.span right.span offset ∧
      Span.ofBounds cap whole.span.start offset = .ok left.span ∧
      Span.ofBounds cap offset whole.span.stop = .ok right.span ∧
      left = { whole with span := left.span, outro := [] } ∧
      right = { span := right.span, edited := none, intro := [], outro := whole.outro,
                next := whole.next, storeName := false }) ∧
    (∀ position rest, whole.span.Inside offset → checkOffset cap offset = .ok position →
      Span.ofBounds cap position whole.span.stop = .ok rest →
      ∃ first, Span.ofBounds cap whole.span.start position = .ok first) ∧
    (∀ half source, outcome.result = .ok half → whole.span.stop ≤ source.length →
      let content := slice source whole.span.start whole.span.stop
      let cutting := (offset - whole.span.start).toNat
      let shown := whole.intro.map Fragment.text ++ content :: whole.outro.map Fragment.text
      let first := whole.intro.map Fragment.text ++ [slice content 0 cutting]
      let second := slice content cutting content.length :: whole.outro.map Fragment.text
      whole.output source = .ok shown ∧
      left.output source = .ok first ∧ right.output source = .ok second ∧
      String.join (first ++ second) = String.join shown) := by
  intro whole outcome left right
  refine ⟨exists_divide_iff, ?_, ?_, ?_, ?_⟩
  · intro fault refused
    exact ⟨divide_of_error refused, Piece.fault_of_split (divide_eq_error_iff.mp refused)⟩
  · intro half divided
    obtain ⟨_, between, small⟩ := exists_divide_iff.mp ⟨half, divided⟩
    obtain ⟨position, inside, rfl, fresh, isLeft, isRight⟩ := exists_halves_of_divide known divided
    have low : (position : Int) ≤ cap := Int.le_trans (Int.le_of_lt between.2) small
    have first : left = (whole.halves position inside [] []).1 := isLeft
    have second : right = (whole.halves position inside [] []).2 := isRight
    rw [first, second]
    exact ⟨(divide_eq_ok_iff.mp divided).1, ⟨between, rfl, rfl, rfl, rfl⟩,
      Span.ofBounds_eq_ok_iff.mpr ⟨rfl, rfl, low⟩, Span.ofBounds_eq_ok_iff.mpr ⟨rfl, rfl, small⟩,
      rfl, rfl⟩
  · intro position rest inside checked built
    obtain ⟨first, admitted, _⟩ := Piece.exists_left_span inside checked built
    exact ⟨first, admitted⟩
  · intro half source divided fits content cutting shown first second
    obtain ⟨position, inside, rfl, fresh, isLeft, isRight⟩ := exists_halves_of_divide known divided
    obtain ⟨wholly, fore, aft, joined⟩ := Piece.output_halves fresh inside fits
    have cut_at : cutting = position - whole.span.start := Int.toNat_sub _ _
    rw [← isLeft, ← cut_at] at fore
    rw [← isRight, ← cut_at] at aft
    rw [← cut_at] at joined
    have onward : ∀ rest, slice content 0 cutting ++ (slice content cutting content.length ++ rest) =
        content ++ rest := fun rest => by rw [← String.append_assoc, joined]
    refine ⟨wholly, fore, aft, ?_⟩
    simp only [first, second, shown, String.join_append, String.join_cons, List.append_assoc,
      List.singleton_append, onward]

/-- A decorated document of six positions. A cap of five does not admit its end, a cap of six does. -/
theorem divide_exact_of_decorated_document :
    let store := ((document 6 (by decide)).insertInto 0 .back (.owned "<")).insertInto 1 .back
      (.owned ">")
    let after := (store.divide 6 0 2).store
    0 < store.pieces.size ∧ "abcdef".length = 6 ∧
    (¬∃ half, (store.divide 5 0 2).result = .ok half) ∧ (store.divide 6 0 2).result = .ok 1 ∧
    (after.piece 0).output "abcdef" = .ok ["<", "ab"] ∧
    (after.piece 1).output "abcdef" = .ok ["cdef", ">"] := by
  intro store after
  have known : 0 < store.pieces.size := by decide +kernel
  obtain ⟨succeeds, _⟩ := divide_exact known 5 2
  obtain ⟨succeeds', _, halves, _, shows⟩ := divide_exact known 6 2
  obtain ⟨half, divided⟩ := succeeds'.mpr (by decide +kernel)
  obtain ⟨_, left, right, _⟩ := shows half "abcdef" divided (by decide +kernel)
  refine ⟨known, by decide +kernel, fun admitted => ?_, ?_, ?_, ?_⟩
  · exact absurd (succeeds.mp admitted).2.2 (by decide +kernel)
  · exact divided.trans (congrArg Except.ok ((halves half divided).1.trans (by decide +kernel)))
  · exact left.trans (congrArg Except.ok (by decide +kernel))
  · exact right.trans (congrArg Except.ok (by decide +kernel))

end Store

end Patchwork
