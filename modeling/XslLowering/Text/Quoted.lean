import XslLowering.Text.CharClass

/-!
# Quoted texts

A text in a description of a value stands in double quotes. Quotes, backslashes, the usual control
characters and all characters that do not show are escaped; everything else stands as it is.
-/

namespace XslLowering.Text

/-- The escape by code point, `\u` and the number in lower-case hexadecimal between braces. -/
def codeEscape (c : Char) : List Char :=
  '\\' :: 'u' :: '\x7b' :: (Nat.toDigits 16 c.toNat ++ ['\x7d'])

def quoteChar (c : Char) : List Char :=
  if c == '\x00' then ['\\', '0']
  else if c == '\t' then ['\\', 't']
  else if c == '\r' then ['\\', 'r']
  else if c == '\n' then ['\\', 'n']
  else if c == '\\' then ['\\', '\\']
  else if c == '\x22' then ['\\', '\x22']
  else if isPrintable c then [c]
  else codeEscape c

def quoted (s : String) : String :=
  String.ofList ('\x22' :: (s.toList.flatMap quoteChar ++ ['\x22']))

end XslLowering.Text
