import Patchwork.Fragment

/-! # Pieces

A piece of output shows a span of the source, or the text that replaced it, between
two queues of decorations. How a queue is held is a parameter: a store holds queues
by reference, while a piece seen on its own holds the fragments themselves.

Splitting is stated once for both. It succeeds exactly for an unedited piece, an
offset inside its span and a cap that admits the end of the span, and the two
halves then show what the piece showed.
-/
namespace Patchwork

structure Piece (κ : Type) where
  span : Span
  edited : Option Fragment := none
  intro : κ
  outro : κ
  /-- The slot of the piece that follows; any integer may be stored. -/
  next : Option Int := none
  storeName : Bool := false

inductive Side
  | intro
  | outro
deriving DecidableEq

inductive Place
  | front
  | back
deriving DecidableEq

def Place.insert {α : Type} (place : Place) (value : α) (values : List α) : List α :=
  match place with
  | .front => value :: values
  | .back => values ++ [value]

namespace Piece

variable {κ μ : Type}

def map (f : κ → μ) (piece : Piece κ) : Piece μ :=
  { span := piece.span, edited := piece.edited, intro := f piece.intro, outro := f piece.outro,
    next := piece.next, storeName := piece.storeName }

@[simp] theorem span_map (f : κ → μ) (piece : Piece κ) : (piece.map f).span = piece.span := rfl
@[simp] theorem edited_map (f : κ → μ) (piece : Piece κ) : (piece.map f).edited = piece.edited := rfl
@[simp] theorem intro_map (f : κ → μ) (piece : Piece κ) : (piece.map f).intro = f piece.intro := rfl
@[simp] theorem outro_map (f : κ → μ) (piece : Piece κ) : (piece.map f).outro = f piece.outro := rfl
@[simp] theorem next_map (f : κ → μ) (piece : Piece κ) : (piece.map f).next = piece.next := rfl
@[simp] theorem storeName_map (f : κ → μ) (piece : Piece κ) :
    (piece.map f).storeName = piece.storeName := rfl

def isEdited (piece : Piece κ) : Bool := piece.edited.isSome

def contains (piece : Piece κ) (offset : Int) : Bool := decide (piece.span.Inside offset)

theorem contains_natCast {piece : Piece κ} {position : Nat} :
    piece.contains position = true ↔ piece.span.start < position ∧ position < piece.span.stop := by
  rw [contains, decide_eq_true_iff, Span.Inside, Int.ofNat_lt, Int.ofNat_lt]

def queue (piece : Piece κ) : Side → κ
  | .intro => piece.intro
  | .outro => piece.outro

def setQueue (piece : Piece κ) (side : Side) (queue : κ) : Piece κ :=
  match side with
  | .intro => { piece with intro := queue }
  | .outro => { piece with outro := queue }

@[simp] theorem queue_map (f : κ → μ) (piece : Piece κ) (side : Side) :
    (piece.map f).queue side = f (piece.queue side) := by
  cases side <;> rfl

/-- The text between the decorations. -/
def content (piece : Piece κ) (source : String) : Except Fault String :=
  match piece.edited with
  | some replacement => .ok replacement.text
  | none => piece.span.read source

@[simp] theorem content_map (f : κ → μ) (piece : Piece κ) (source : String) :
    (piece.map f).content source = piece.content source := rfl

/-- The left half keeps the intro and the name mark, the right half takes over the
outro and the link. The two queues that the halves lack are supplied. -/
def split (cap : Int) (piece : Piece κ) (offset : Int) (leftOutro rightIntro : κ) :
    Except Fault (Piece κ × Piece κ) :=
  if piece.isEdited then .error (.alreadyEdited piece.span)
  else if piece.span.Inside offset then do
    let position ← checkOffset cap offset
    let rightSpan ← Span.ofBounds cap position piece.span.stop
    -- This comes when the outro has been handed over. It passes once the other two have.
    let leftSpan ← Span.ofBounds cap piece.span.start position
    let left := { piece with span := leftSpan, outro := leftOutro }
    let right :=
      { span := rightSpan, intro := rightIntro, outro := piece.outro, next := piece.next }
    .ok (left, right)
  else .error (.offsetNotInside offset piece.span)

/-- When the earlier checks of a split are passed, the left half has a span under the same cap. -/
theorem exists_left_span {cap offset : Int} {piece : Piece κ} {rest : Span} {position : Nat}
    (inside : piece.span.Inside offset) (checked : checkOffset cap offset = .ok position)
    (built : Span.ofBounds cap position piece.span.stop = .ok rest) :
    ∃ first, Span.ofBounds cap piece.span.start position = .ok first ∧
      first.start = piece.span.start ∧ first.stop = rest.start ∧ rest.stop = piece.span.stop := by
  obtain ⟨rfl, small⟩ := checkOffset_eq_ok_iff.mp checked
  obtain ⟨starts, stops, _⟩ := Span.ofBounds_eq_ok_iff.mp built
  have order : piece.span.start < position := Int.ofNat_lt.mp inside.1
  exact ⟨⟨piece.span.start, position, order⟩, Span.ofBounds_eq_ok_iff.mpr ⟨rfl, rfl, small⟩, rfl,
    Int.ofNat_inj.mp starts, (Int.ofNat_inj.mp stops).symm⟩

/-- The halves of a piece at a position inside it. -/
def halves (piece : Piece κ) (position : Nat)
    (inside : piece.span.start < position ∧ position < piece.span.stop) (leftOutro rightIntro : κ) :
    Piece κ × Piece κ :=
  ({ piece with span := ⟨piece.span.start, position, inside.1⟩, outro := leftOutro },
   { span := ⟨position, piece.span.stop, inside.2⟩, intro := rightIntro, outro := piece.outro,
     next := piece.next })

theorem split_eq_ok_iff {cap : Int} {piece : Piece κ} {offset : Int} {leftOutro rightIntro : κ}
    {result : Piece κ × Piece κ} :
    piece.split cap offset leftOutro rightIntro = .ok result ↔
      piece.edited = none ∧ (piece.span.stop : Int) ≤ cap ∧
        ∃ position inside, offset = ((position : Nat) : Int) ∧
          result = piece.halves position inside leftOutro rightIntro := by
  have order := piece.span.start_lt_stop
  constructor
  · intro cutting
    unfold split at cutting
    split at cutting
    · cases cutting
    · rename_i fresh
      split at cutting
      · rename_i inside
        obtain ⟨low, high⟩ := inside
        cases checked : checkOffset cap offset with
        | error fault => simp [checked, bind, Except.bind] at cutting
        | ok position =>
          obtain ⟨rfl, _⟩ := checkOffset_eq_ok_iff.mp checked
          cases built : Span.ofBounds cap position piece.span.stop with
          | error fault => simp [checked, built, bind, Except.bind] at cutting
          | ok rest =>
            obtain ⟨first, admitted, starts, meets, stops⟩ := exists_left_span ⟨low, high⟩ checked built
            obtain ⟨same, _, fits⟩ := Span.ofBounds_eq_ok_iff.mp built
            have lower : piece.span.start < position := Int.ofNat_lt.mp low
            have upper : position < piece.span.stop := Int.ofNat_lt.mp high
            obtain rfl : rest = ⟨position, piece.span.stop, upper⟩ :=
              Span.ext (Int.ofNat_inj.mp same).symm stops
            obtain rfl : first = ⟨piece.span.start, position, lower⟩ := Span.ext starts meets
            simp only [checked, built, admitted, bind, Except.bind, Except.ok.injEq] at cutting
            exact ⟨by simpa [isEdited] using fresh, fits, position, ⟨lower, upper⟩, rfl, cutting.symm⟩
      · cases cutting
  · rintro ⟨fresh, fits, position, inside, rfl, rfl⟩
    have between : piece.span.Inside position := ⟨by omega, by omega⟩
    have built : Span.ofBounds cap position piece.span.stop =
        .ok ⟨position, piece.span.stop, inside.2⟩ := Span.ofBounds_eq_ok_iff.mpr ⟨rfl, rfl, fits⟩
    have checked : checkOffset cap position = .ok position := checkOffset_natCast (by omega)
    have admitted : Span.ofBounds cap piece.span.start position =
        .ok ⟨piece.span.start, position, inside.1⟩ :=
      Span.ofBounds_eq_ok_iff.mpr ⟨rfl, rfl, (checkOffset_eq_ok_iff.mp checked).2⟩
    simp [split, isEdited, fresh, between, checked, built, admitted, bind, Except.bind, halves]

theorem split_map (f : κ → μ) (cap : Int) (piece : Piece κ) (offset : Int)
    (leftOutro rightIntro : κ) :
    (piece.map f).split cap offset (f leftOutro) (f rightIntro) =
      (piece.split cap offset leftOutro rightIntro).map
        fun result => (result.1.map f, result.2.map f) := by
  by_cases changed : piece.edited.isSome = true
  · simp [split, isEdited, changed, Except.map]
  · by_cases inside : piece.span.Inside offset
    · cases checked : checkOffset cap offset with
      | error fault => simp [split, isEdited, changed, inside, checked, bind, Except.bind, Except.map]
      | ok position =>
        cases built : Span.ofBounds cap position piece.span.stop with
        | error fault =>
          simp [split, isEdited, changed, inside, checked, built, bind, Except.bind, Except.map]
        | ok rightSpan =>
          cases admitted : Span.ofBounds cap piece.span.start position <;>
            simp [split, isEdited, changed, inside, checked, built, admitted, bind, Except.bind,
              Except.map, map]
    · simp [split, isEdited, changed, inside, Except.map]

/-- Everything the piece shows, in order: intro, content, outro. -/
def output (piece : Piece (List Fragment)) (source : String) : Except Fault (List String) :=
  (piece.content source).map fun content =>
    piece.intro.map Fragment.text ++ content :: piece.outro.map Fragment.text

/-- Pieces are compared field by field, their fragments by text. -/
instance [BEq κ] : BEq (Piece κ) where
  beq a b := a.span == b.span && a.edited == b.edited && a.intro == b.intro &&
    a.outro == b.outro && a.next == b.next && a.storeName == b.storeName

end Piece

end Patchwork
