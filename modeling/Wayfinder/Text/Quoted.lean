/-
Quoted text.

A text between double quotes in which everything that could not be read back is escaped: quotes,
backslashes and the usual control characters by a letter, all other characters that cannot be shown
on their own by their code point.
-/
import Wayfinder.Text.Property

namespace Wayfinder.Text

/-- The hexadecimal digits of a number, in lower case. -/
def hexDigits (n : Nat) : List Char := Nat.toDigits 16 n

/-- A code point written as an escape, the number in braces. -/
def escapeCodePoint (c : Char) : List Char :=
  "\\u\x7b".toList ++ hexDigits c.toNat ++ ['\x7d']

/-- A character as it stands between quotes. Characters that extend the one before are escaped, so
that they do not change how the quote looks. -/
def escapeChar (c : Char) : List Char :=
  if c = '\x00' then ['\\', '0']
  else if c = '\t' then ['\\', 't']
  else if c = '\r' then ['\\', 'r']
  else if c = '\n' then ['\\', 'n']
  else if c = '\\' ∨ c = '"' then ['\\', c]
  else if isGraphemeExtend c then escapeCodePoint c
  else if isPrintable c then [c]
  else escapeCodePoint c

/-- A text in double quotes. -/
def quote (s : String) : String :=
  String.ofList ('"' :: s.toList.flatMap escapeChar ++ ['"'])

end Wayfinder.Text
