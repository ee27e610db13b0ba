/-!
# JSON values
-/

namespace XslLowering

/-- A JSON value. Numbers are kept as they are written. A string in which some escape stands for one
half of a character has no text. -/
inductive Json where
  | null
  | boolean (b : Bool)
  | number (digits : String)
  | string (text : Option String)
  | array (items : List Json)
  | object (fields : List (Option String × Json))

namespace Json

/-- A hexadecimal digit in lower case. -/
def hexDigitChar (n : Nat) : Char := if n < 10 then Char.ofNat (48 + n) else Char.ofNat (87 + n)

def escapeChar (c : Char) : List Char :=
  if c == '\x22' then ['\\', '\x22']
  else if c == '\\' then ['\\', '\\']
  else if c == '\x08' then ['\\', 'b']
  else if c == '\x0c' then ['\\', 'f']
  else if c == '\n' then ['\\', 'n']
  else if c == '\r' then ['\\', 'r']
  else if c == '\t' then ['\\', 't']
  else if c.toNat < 32 then
    ['\\', 'u', '0', '0', hexDigitChar (c.toNat / 16), hexDigitChar (c.toNat % 16)]
  else [c]

/-- A text as a JSON string. -/
def quote (text : String) : String :=
  "\x22" ++ String.ofList (text.toList.flatMap escapeChar) ++ "\x22"

end Json

end XslLowering
