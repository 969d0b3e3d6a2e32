import Transcript.Unicode.Property

/-!
# Quoted text

A text between double quotes in which every character can be seen: quotes, backslashes and the usual
controls have an escape of one letter, and other characters without a form of their own are written
by code point.
-/

namespace Transcript.Text

/-- The digits of a number in base sixteen, small letters. -/
def hexDigits (n : Nat) : List Char :=
  Nat.toDigits 16 n

/-- The written form of one character. -/
def quoteChar (c : Char) : List Char :=
  match c with
  | '\x00' => ['\\', '0']
  | '\t' => ['\\', 't']
  | '\r' => ['\\', 'r']
  | '\n' => ['\\', 'n']
  | '"' => ['\\', '"']
  | '\\' => ['\\', '\\']
  | c =>
    if 0x20 ≤ c.toNat && c.toNat < 0x7F then [c]
    else if Unicode.graphemeExtenders.contains c || Unicode.unprintable.contains c then
      ['\\', 'u', '{'] ++ hexDigits c.toNat ++ ['}']
    else [c]

/-- A text in quotes. -/
def quote (s : List Char) : List Char :=
  '"' :: (s.flatMap quoteChar ++ ['"'])

end Transcript.Text
