import Mathlib.Algebra.Group.Nat.Defs
import Patchwork.Text.Quoted

/-! # Quoted texts are read back

An escaped character starts with a backslash or with itself, and never with the mark. So
the characters of a quoted text are read off one after the other, and the first mark met
on the way is the one that closes it.
-/
namespace Patchwork.Quoted

/-! ### Code points by number -/

def hexValue (digits : List Char) : Nat :=
  digits.foldl (fun value digit => value * 16 + "0123456789abcdef".toList.idxOf digit) 0

theorem hexValue_hexDigits (width value : Nat) :
    hexValue (hexDigits width value) = value % 16 ^ width := by
  have read : ∀ digit < 16, "0123456789abcdef".toList.idxOf (hexDigit digit) = digit := by decide
  induction width generalizing value with
  | zero => rw [Nat.pow_zero, Nat.mod_one]; rfl
  | succ width ih =>
    have ahead : hexValue (hexDigits width (value / 16)) = value / 16 % 16 ^ width := ih _
    unfold hexValue at ahead ⊢
    rw [hexDigits, List.foldl_append, ahead, List.foldl_cons, List.foldl_nil,
      read _ (Nat.mod_lt _ (by decide)), Nat.pow_succ', Nat.mod_mul]
    omega

def readCode (width : Nat) (text : List Char) : Char × List Char :=
  (Char.ofNat (hexValue (text.take width)), text.drop width)

theorem readCode_hexDigits {width : Nat} {c : Char} (small : c.toNat < 16 ^ width)
    (rest : List Char) : readCode width (hexDigits width c.toNat ++ rest) = (c, rest) := by
  have length := length_hexDigits width c.toNat
  rw [readCode, List.take_left' length, List.drop_left' length, hexValue_hexDigits,
    Nat.mod_eq_of_lt small, Char.ofNat_toNat]

/-! ### Single characters -/

def readEscape : List Char → Option (Char × List Char)
  | [] => none
  | kind :: rest =>
    if kind = 'x' then some (readCode 2 rest)
    else if kind = 'u' then some (readCode 4 rest)
    else if kind = 'U' then some (readCode 8 rest)
    else if kind = 't' then some ('\t', rest)
    else if kind = 'n' then some ('\n', rest)
    else if kind = 'r' then some ('\r', rest)
    else some (kind, rest)

/-- The first character that an escaped text stands for, and what follows it. -/
def unescape : List Char → Option (Char × List Char)
  | [] => none
  | c :: rest => if c = backslash then readEscape rest else some (c, rest)

def IsMark (mark : Char) : Prop := mark = apostrophe ∨ mark = quotation

theorem isMark_markFor (text : List Char) : IsMark (markFor text) := by
  unfold markFor
  split
  · exact .inr rfl
  · exact .inl rfl

variable {printable : Char → Bool} {mark : Char}

theorem IsMark.ne_backslash (isMark : IsMark mark) : mark ≠ backslash := by
  rcases isMark with rfl | rfl <;> decide

theorem unescape_escapeCode (c : Char) (rest : List Char) :
    unescape (escapeCode c.toNat ++ rest) = some (c, rest) := by
  have bound : c.toNat < 0x110000 := by
    rcases c.valid with low | ⟨_, high⟩
    · exact Nat.lt_trans low (by decide)
    · exact high
  unfold escapeCode
  split
  · rename_i small
    exact congrArg some (readCode_hexDigits small rest)
  · split
    · rename_i small
      exact congrArg some (readCode_hexDigits small rest)
    · exact congrArg some (readCode_hexDigits (Nat.lt_trans bound (by decide)) rest)

theorem unescape_escape (isMark : IsMark mark) (c : Char) (rest : List Char) :
    unescape (escape printable mark c ++ rest) = some (c, rest) := by
  by_cases marked : c = mark ∨ c = backslash
  · rw [escape, if_pos marked]
    -- Neither a mark nor a backslash names another way to go on after a backslash.
    rcases marked with rfl | rfl
    · rcases isMark with rfl | rfl <;> rfl
    · rfl
  by_cases tab : c = '\t'
  · rw [escape, if_neg marked, if_pos tab, tab]
    rfl
  by_cases feed : c = '\n'
  · rw [escape, if_neg marked, if_neg tab, if_pos feed, feed]
    rfl
  by_cases back : c = '\r'
  · rw [escape, if_neg marked, if_neg tab, if_neg feed, if_pos back, back]
    rfl
  rw [escape, if_neg marked, if_neg tab, if_neg feed, if_neg back]
  split
  · exact if_neg fun slash => marked (.inr slash)
  · exact unescape_escapeCode c rest

theorem escape_append_iff (isMark : IsMark mark) {c d : Char} {rest rest' : List Char} :
    escape printable mark c ++ rest = escape printable mark d ++ rest' ↔ c = d ∧ rest = rest' := by
  constructor
  · intro same
    have read := congrArg unescape same
    rw [unescape_escape isMark, unescape_escape isMark] at read
    exact Prod.mk.inj (Option.some.inj read)
  · rintro ⟨rfl, rfl⟩
    rfl

/-- No character is written so that it could be taken for the end of the text. -/
theorem escape_append_ne (isMark : IsMark mark) (c : Char) (rest rest' : List Char) :
    escape printable mark c ++ rest ≠ mark :: rest' := by
  intro same
  have read := congrArg unescape same
  rw [unescape_escape isMark, unescape, if_neg isMark.ne_backslash] at read
  obtain ⟨rfl, -⟩ := Prod.mk.inj (Option.some.inj read)
  rw [escape, if_pos (.inl rfl)] at same
  exact isMark.ne_backslash (List.cons.inj same).1.symm

/-! ### Whole texts -/

theorem flatMap_escape_iff (isMark : IsMark mark) {a b rest rest' : List Char} :
    a.flatMap (escape printable mark) ++ mark :: rest =
        b.flatMap (escape printable mark) ++ mark :: rest' ↔
      a = b ∧ rest = rest' := by
  induction a generalizing b with
  | nil =>
    cases b with
    | nil => simp
    | cons d b =>
      rw [List.flatMap_nil, List.nil_append, List.flatMap_cons, List.append_assoc]
      exact iff_of_false (fun same => escape_append_ne isMark _ _ _ same.symm) (by simp)
  | cons c a ih =>
    cases b with
    | nil =>
      rw [List.flatMap_nil, List.nil_append, List.flatMap_cons, List.append_assoc]
      exact iff_of_false (escape_append_ne isMark _ _ _) (by simp)
    | cons d b =>
      rw [List.flatMap_cons, List.flatMap_cons, List.append_assoc, List.append_assoc,
        escape_append_iff isMark, ih, List.cons.injEq, and_assoc]

/-- The mark is seen first, and the text is read up to the mark that closes it. -/
theorem quoteChars_append_iff {a b rest rest' : List Char} :
    quoteChars printable a ++ rest = quoteChars printable b ++ rest' ↔ a = b ∧ rest = rest' := by
  constructor
  · intro same
    simp only [quoteChars, List.cons_append, List.append_assoc, List.nil_append, List.cons.injEq]
      at same
    obtain ⟨mark, same⟩ := same
    rw [← mark] at same
    exact (flatMap_escape_iff (isMark_markFor a)).mp same
  · rintro ⟨rfl, rfl⟩
    rfl

end Patchwork.Quoted
