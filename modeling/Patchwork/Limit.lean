import Patchwork.Fault

/-! # Limits

The cap bounds every offset and the length of every text. It may be any integer
and may change between operations, so each check takes it as an argument. Under a
large cap a span can be longer than a machine word can count. Each check is pinned by
the exact condition under which it succeeds.
-/
namespace Patchwork

/-- The cap in force at the start: offsets and lengths fit an unsigned 32-bit word. -/
def defaultCap : Int := 4294967295

def checkOffset (cap offset : Int) : Except Fault Nat :=
  if 0 ≤ offset ∧ offset ≤ cap then .ok offset.toNat else .error (.offsetOutOfRange offset cap)

theorem checkOffset_eq_ok_iff {cap offset : Int} {position : Nat} :
    checkOffset cap offset = .ok position ↔ offset = position ∧ offset ≤ cap := by
  unfold checkOffset
  split
  · simp only [Except.ok.injEq]
    omega
  · simp only [reduceCtorEq, false_iff]
    omega

theorem checkOffset_natCast {cap : Int} {offset : Nat} (small : (offset : Int) ≤ cap) :
    checkOffset cap offset = .ok offset := checkOffset_eq_ok_iff.mpr ⟨rfl, small⟩

def checkLength (cap : Int) (length : Nat) : Except Fault Nat :=
  if length ≤ cap then .ok length else .error (.textTooLong length cap)

theorem checkLength_eq_ok_iff {cap : Int} {length result : Nat} :
    checkLength cap length = .ok result ↔ result = length ∧ length ≤ cap := by
  unfold checkLength
  split
  · simp_all [eq_comm]
  · simp only [reduceCtorEq, false_iff]
    rintro ⟨rfl, small⟩
    contradiction

/-- The start is checked first, then the stop, then their order. -/
def Span.ofBounds (cap start stop : Int) : Except Fault Span := do
  let low ← checkOffset cap start
  let high ← checkOffset cap stop
  if ordered : low < high then .ok ⟨low, high, ordered⟩ else .error (.emptyRange low high)

theorem Span.ofBounds_eq_ok_iff {cap start stop : Int} {span : Span} :
    Span.ofBounds cap start stop = .ok span ↔
      start = span.start ∧ stop = span.stop ∧ stop ≤ cap := by
  have order := span.start_lt_stop
  constructor
  · intro built
    cases low : checkOffset cap start with
    | error fault => simp [Span.ofBounds, low, bind, Except.bind] at built
    | ok first =>
      cases high : checkOffset cap stop with
      | error fault => simp [Span.ofBounds, low, high, bind, Except.bind] at built
      | ok last =>
        simp only [Span.ofBounds, low, high, bind, Except.bind] at built
        split at built
        · cases built
          have left := checkOffset_eq_ok_iff.mp low
          have right := checkOffset_eq_ok_iff.mp high
          exact ⟨left.1, right⟩
        · cases built
  · rintro ⟨rfl, rfl, small⟩
    simp only [Span.ofBounds, bind, Except.bind, checkOffset_natCast small,
      checkOffset_natCast (Int.le_trans (Int.ofNat_le.mpr (Nat.le_of_lt order)) small)]
    simp [order]

/-- The greatest length that can be told: the greatest signed 64-bit word. -/
def longestLength : Nat := 9223372036854775807

/-- The length of a span, where it is asked for. A span itself may be longer than can be told. -/
def Span.measure (span : Span) : Except Fault Nat :=
  if span.length ≤ longestLength then .ok span.length else .error .lengthOverflow

theorem Span.measure_eq_ok_iff {span : Span} {length : Nat} :
    span.measure = .ok length ↔ span.length = length ∧ length ≤ longestLength := by
  unfold Span.measure
  split
  · simp only [Except.ok.injEq]
    omega
  · simp only [reduceCtorEq, false_iff]
    omega

/-- Reading checks the end of the source alone. -/
def Span.read (span : Span) (source : String) : Except Fault String :=
  if span.stop ≤ source.length then .ok (span.cut source)
  else .error (.spanPastEnd span source.length)

theorem Span.read_eq_ok_iff {span : Span} {source text : String} :
    span.read source = .ok text ↔ span.stop ≤ source.length ∧ span.cut source = text := by
  unfold Span.read
  split
  · simp_all
  · simp only [reduceCtorEq, false_iff]
    rintro ⟨fits, _⟩
    contradiction

end Patchwork
