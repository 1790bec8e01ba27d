/-! # Quoted texts

A text is written between two marks on one line, in characters that can be seen. The
mark is an apostrophe unless the text holds apostrophes and no quotation mark. Which
characters beyond ASCII can be seen is a parameter.
-/
namespace Patchwork.Quoted

abbrev apostrophe : Char := '\x27'
abbrev quotation : Char := '\x22'
abbrev backslash : Char := '\x5c'

def hexDigit (digit : Nat) : Char := "0123456789abcdef".toList.getD digit '0'

/-- The last digits of a number to base sixteen, as many as asked for. -/
def hexDigits : Nat → Nat → List Char
  | 0, _ => []
  | width + 1, value => hexDigits width (value / 16) ++ [hexDigit (value % 16)]

theorem length_hexDigits (width value : Nat) : (hexDigits width value).length = width := by
  induction width generalizing value with
  | zero => rfl
  | succ width ih => simp [hexDigits, ih]

/-- A code point by number, in the shortest of the three forms that holds it. -/
def escapeCode (code : Nat) : List Char :=
  if code < 0x100 then backslash :: 'x' :: hexDigits 2 code
  else if code < 0x10000 then backslash :: 'u' :: hexDigits 4 code
  else backslash :: 'U' :: hexDigits 8 code

/-- Whether a character is written as itself, the marks and the backslash aside. -/
def isPlain (printable : Char → Bool) (c : Char) : Bool :=
  if c.toNat < 0x80 then 0x20 ≤ c.toNat && c.toNat < 0x7f else printable c

def escape (printable : Char → Bool) (mark c : Char) : List Char :=
  if c = mark ∨ c = backslash then [backslash, c]
  else if c = '\t' then [backslash, 't']
  else if c = '\n' then [backslash, 'n']
  else if c = '\r' then [backslash, 'r']
  else if isPlain printable c then [c]
  else escapeCode c.toNat

def markFor (text : List Char) : Char :=
  if apostrophe ∈ text ∧ quotation ∉ text then quotation else apostrophe

def quoteChars (printable : Char → Bool) (text : List Char) : List Char :=
  markFor text :: text.flatMap (escape printable (markFor text)) ++ [markFor text]

end Patchwork.Quoted

namespace Patchwork

def quote (printable : Char → Bool) (text : String) : String :=
  String.ofList (Quoted.quoteChars printable text.toList)

end Patchwork
