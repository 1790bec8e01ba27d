import Patchwork.Proofs.Legible.Quoted
import Patchwork.Span
import Patchwork.Text.Written

/-! # Legible ways of writing

A way of writing is legible if what is written of a value ends in one place only, whatever
follows it, and shows a part of the value, its face. Texts between marks and words are legible
on their own, numbers before anything but a digit. Optional values and sequences are legible
if their members are and do not start as their absence is written.
-/
namespace Patchwork

/-- Two values, each followed by something, are written alike exactly if they have the
same face and the same follows. -/
def Legible {α β : Type} (write : α → String) (face : α → β) : Prop :=
  ∀ a b rest rest', write a ++ rest = write b ++ rest' ↔ face a = face b ∧ rest = rest'

/-- A text starts with some other character. -/
def Avoids (c : Char) (text : String) : Prop := ∃ first ∈ text.toList.head?, first ≠ c

theorem Avoids.append {c : Char} {text : String} (avoids : Avoids c text) (rest : String) :
    Avoids c (text ++ rest) := by
  obtain ⟨first, starts, other⟩ := avoids
  refine ⟨first, ?_, other⟩
  rw [String.toList_append, List.head?_append, Option.mem_def.mp starts]
  rfl

theorem Avoids.append_ne {c : Char} {text word : String} (avoids : Avoids c text)
    (starts : word.toList.head? = some c) (rest rest' : String) : text ++ rest ≠ word ++ rest' := by
  intro same
  obtain ⟨first, leads, other⟩ := avoids.append rest
  rw [same, String.toList_append, List.head?_append, starts] at leads
  exact other (Option.some.inj leads).symm

namespace Legible

variable {α β : Type} {write : α → String} {face : α → β}

theorem write_eq_iff (legible : Legible write face) {a b : α} :
    write a = write b ↔ face a = face b := by
  have bare := legible a b "" ""
  rwa [String.append_empty, String.append_empty, and_iff_left rfl] at bare

theorem followedBy (legible : Legible write face) (word : String) :
    Legible (fun a => write a ++ word) face := by
  intro a b rest rest'
  rw [String.append_assoc, String.append_assoc, legible, String.append_right_inj]

theorem precededBy (legible : Legible write face) (word : String) :
    Legible (fun a => word ++ write a) face := by
  intro a b rest rest'
  rw [String.append_assoc, String.append_assoc, String.append_right_inj, legible]

theorem append_self_iff {γ : Type} {seen : γ} {text rest rest' : String} :
    text ++ rest = text ++ rest' ↔ seen = seen ∧ rest = rest' :=
  (String.append_right_inj text).trans (and_iff_right rfl).symm

/-! ### Texts, words and numbers -/

theorem quote (printable : Char → Bool) : Legible (Patchwork.quote printable) id := by
  intro a b rest rest'
  rw [← String.toList_inj, String.toList_append, String.toList_append]
  simp only [Patchwork.quote, String.toList_ofList]
  rw [Quoted.quoteChars_append_iff, String.toList_inj, String.toList_inj]
  rfl

theorem word {yes no : String} {c : Char} (avoids : Avoids c yes)
    (starts : no.toList.head? = some c) : Legible (fun flag : Bool => if flag then yes else no) id := by
  intro a b rest rest'
  have apart := avoids.append_ne starts
  cases a <;> cases b
  · exact append_self_iff
  · exact iff_of_false (apart rest' rest).symm (by simp)
  · exact iff_of_false (apart rest rest') (by simp)
  · exact append_self_iff

/-- The digits of a number end before the first character that is none. -/
theorem natural {stop : String} (closed : ∃ first ∈ stop.toList.head?, first.isDigit = false) :
    Legible (fun number : Nat => toString number ++ stop) id := by
  intro a b rest rest'
  obtain ⟨first, leads, other⟩ := closed
  obtain ⟨others, shape⟩ := List.head?_eq_some_iff.mp leads
  have digits (number : Nat) (rest : String) :
      (toString number ++ stop ++ rest).toList.takeWhile Char.isDigit = Nat.toDigits 10 number := by
    have run : ∀ c ∈ Nat.toDigits 10 number, c.isDigit = true := fun c member =>
      Nat.isDigit_of_mem_toDigits (by decide) (by decide) member
    rw [String.toList_append, String.toList_append, Nat.toString_eq_repr, Nat.toList_repr, shape,
      List.append_assoc, List.takeWhile_append_of_pos run, List.cons_append,
      List.takeWhile_cons_of_neg (by simp [other]), List.append_nil]
  constructor
  · intro same
    have number : a = b := by
      have alike : Nat.toDigits 10 a = Nat.toDigits 10 b := by
        rw [← digits a rest, ← digits b rest', same]
      have read := congrArg (Nat.ofDigitChars 10 · 0) alike
      simpa only [Nat.ofDigitChars_ten_toDigits] using read
    subst number
    exact ⟨rfl, (String.append_right_inj _).mp same⟩
  · rintro ⟨rfl, rfl⟩
    rfl

theorem span (middle close : String)
    (between : ∃ first ∈ middle.toList.head?, first.isDigit = false)
    (closed : ∃ first ∈ close.toList.head?, first.isDigit = false) :
    Legible (fun span : Span => toString span.start ++ middle ++ (toString span.stop ++ close)) id := by
  intro a b rest rest'
  have starts := natural between a.start b.start
  have stops := natural closed a.stop b.stop
  simp only [String.append_assoc] at starts stops
  simp only [String.append_assoc, starts, stops, id, Span.ext_iff, and_assoc]

/-- A digit is neither the sign of a number nor the first letter of a word. -/
theorem avoids_natural {c : Char} (other : c.isDigit = false) (number : Nat) :
    Avoids c (toString number) := by
  obtain ⟨first, leads⟩ : ∃ first, (toString number).toList.head? = some first := by
    rw [Nat.toString_eq_repr, Nat.toList_repr]
    exact ⟨_, List.head?_eq_some_head Nat.toDigits_ne_nil⟩
  refine ⟨first, leads, ?_⟩
  rw [Nat.toString_eq_repr, Nat.toList_repr] at leads
  have digit : first.isDigit = true :=
    Nat.isDigit_of_mem_toDigits (by decide) (by decide) (List.mem_of_head? leads)
  rintro rfl
  exact Bool.false_ne_true (other.symm.trans digit)

theorem avoids_integer {c : Char} (other : c.isDigit = false) (unsigned : '-' ≠ c) (number : Int) :
    Avoids c (toString number) := by
  cases number with
  | ofNat size => exact avoids_natural other size
  | negSucc size => exact Avoids.append ⟨'-', rfl, unsigned⟩ _

theorem integer {stop : String} (closed : ∃ first ∈ stop.toList.head?, first.isDigit = false) :
    Legible (fun number : Int => toString number ++ stop) id := by
  intro a b rest rest'
  have below (size : Nat) : toString (Int.negSucc size) = "-" ++ toString (size + 1) := rfl
  have signed (a b : Nat) (rest rest' : String) :
      toString (Int.ofNat a) ++ stop ++ rest ≠ toString (Int.negSucc b) ++ stop ++ rest' := by
    rw [below, String.append_assoc, String.append_assoc, String.append_assoc]
    exact (avoids_natural rfl a).append_ne rfl _ _
  cases a with
  | ofNat a =>
    cases b with
    | ofNat b => exact (natural closed a b rest rest').trans (and_congr_left' Int.ofNat_inj.symm)
    | negSucc b => exact iff_of_false (signed a b rest rest') (by simp)
  | negSucc a =>
    cases b with
    | ofNat b => exact iff_of_false (signed b a rest' rest).symm (by simp)
    | negSucc b =>
      have sizes := natural closed (a + 1) (b + 1) rest rest'
      simp only [String.append_assoc] at sizes
      simp only [below, String.append_assoc, String.append_right_inj, sizes, id, Int.negSucc.injEq,
        Nat.add_right_cancel_iff]

/-! ### Optional values and sequences -/

theorem optional {stop : String} (legible : Legible (fun a => write a ++ stop) face)
    (present : ∀ a, Avoids 'N' (write a)) :
    Legible (fun value => writeOptional write value ++ stop) (Option.map face) := by
  intro a b rest rest'
  have absent (a : α) (rest rest' : String) :
      write a ++ stop ++ rest ≠ "None" ++ stop ++ rest' := by
    rw [String.append_assoc, String.append_assoc]
    exact (present a).append_ne rfl _ _
  cases a with
  | none =>
    cases b with
    | none => exact append_self_iff
    | some b => exact iff_of_false (absent b rest' rest).symm (by simp)
  | some a =>
    cases b with
    | none => exact iff_of_false (absent a rest rest') (by simp)
    | some b =>
      rw [Option.map_some, Option.map_some, Option.some.injEq]
      exact legible a b rest rest'

def writeOthers (write : α → String) : List α → String
  | [] => "])"
  | a :: others => ", " ++ (write a ++ writeOthers write others)

theorem writeSequence_nil : writeSequence ([].map write) = "deque([" ++ "])" := rfl

theorem writeSequence_cons (a : α) (others : List α) :
    writeSequence ((a :: others).map write) = "deque([" ++ (write a ++ writeOthers write others) := by
  rw [writeSequence, String.append_assoc, String.append_right_inj]
  induction others generalizing a with
  | nil => rw [List.map_cons, List.map_nil, String.intercalate_singleton, writeOthers]
  | cons b others ih =>
    rw [List.map_cons, List.map_cons, String.intercalate_cons_cons, ← List.map_cons,
      String.append_assoc, String.append_assoc, ih, writeOthers]

theorem others (legible : Legible write face) : Legible (writeOthers write) (List.map face) := by
  have closed (a : α) (values : List α) (rest rest' : String) :
      writeOthers write (a :: values) ++ rest ≠ "])" ++ rest' := by
    rw [writeOthers, String.append_assoc]
    exact Avoids.append_ne ⟨',', rfl, by decide⟩ rfl _ _
  intro a
  induction a with
  | nil =>
    rintro (_ | ⟨d, b⟩) rest rest'
    · exact append_self_iff
    · exact iff_of_false (closed d b rest' rest).symm (by simp)
  | cons c a ih =>
    rintro (_ | ⟨d, b⟩) rest rest'
    · exact iff_of_false (closed c a rest rest') (by simp)
    · simp only [writeOthers, String.append_assoc, String.append_right_inj]
      rw [legible c d, ih b, List.map_cons, List.map_cons, List.cons.injEq, and_assoc]

theorem sequence (legible : Legible write face) (present : ∀ a, Avoids ']' (write a)) :
    Legible (fun values => writeSequence (values.map write)) (List.map face) := by
  intro a b rest rest'
  have opened (values : List α) (a : α) (rest rest' : String) :
      writeSequence ((a :: values).map write) ++ rest ≠ writeSequence ([].map write) ++ rest' := by
    simp only [writeSequence_cons, writeSequence_nil, String.append_assoc, ne_eq,
      String.append_right_inj]
    exact (present a).append_ne rfl _ _
  cases a with
  | nil =>
    cases b with
    | nil => exact append_self_iff
    | cons d b => exact iff_of_false (opened b d rest' rest).symm (by simp)
  | cons c a =>
    cases b with
    | nil => exact iff_of_false (opened a c rest rest') (by simp)
    | cons d b =>
      simp only [writeSequence_cons, String.append_assoc, String.append_right_inj]
      rw [legible c d, legible.others a b, List.map_cons, List.map_cons, List.cons.injEq, and_assoc]

end Legible

end Patchwork
