import MonkeySyntax.Text.Combining
import MonkeySyntax.Text.Printable

/-!
# Quoted text

The form in which listings show a literal: between double quotes, with quotes, backslashes and
everything that would not be seen on its own written as an escape.
-/

namespace MonkeySyntax

/-- The code point of `c` in lower case hexadecimal, between braces. -/
def codePointEscape (c : Char) : List Char :=
  ['\\', 'u', '\x7b'] ++ Nat.toDigits 16 c.toNat ++ ['\x7d']

def escaped (c : Char) : List Char :=
  if c = '\x00' then ['\\', '0']
  else if c = '\t' then ['\\', 't']
  else if c = '\r' then ['\\', 'r']
  else if c = '\n' then ['\\', 'n']
  else if c = '"' then ['\\', '"']
  else if c = '\\' then ['\\', '\\']
  else if isCombining c || !isPrintable c then codePointEscape c
  else [c]

def quoted (text : String) : String :=
  String.ofList ('"' :: text.toList.flatMap escaped ++ ['"'])

end MonkeySyntax
