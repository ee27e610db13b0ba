import XslLowering.Markup.Error
import XslLowering.Text.Bytes
import XslLowering.Text.Hexadecimal

/-!
# References and escapes

`unescape` replaces the references of a text, `&name;` and `&#number;`; a replacement is not looked
into again. `escapeText` and `escapeValue` write texts and attribute values so that markup
characters, and in values the control characters that mark lines, come back as they are.
-/

namespace XslLowering.Markup

open Text

/-- The entities that every document has. -/
def predefined (name : String) : Option String :=
  if name == "lt" then some "<"
  else if name == "gt" then some ">"
  else if name == "amp" then some "&"
  else if name == "apos" then some "'"
  else if name == "quot" then some "\x22"
  else none

/-- The value of a digit in a base up to sixteen. -/
def digitIn (base : Nat) (c : Char) : Option Nat :=
  if c.isDigit || ('a' ≤ c && c ≤ 'f') || ('A' ≤ c && c ≤ 'F') then
    if hexDigit c < base then some (hexDigit c) else none
  else none

/-- Reads digits into a number below `2 ^ 32`, from the left: the first digit that does not belong
to the base, or that makes the number too large, is the fault. -/
def readDigits (base : Nat) (number : Nat) : List Char → Except CharRefFault Nat
  | [] => .ok number
  | c :: cs =>
    match digitIn base c with
    | none => .error .invalidDigit
    | some digit =>
      if base * number + digit < 4294967296 then readDigits base (base * number + digit) cs
      else .error .numberTooLarge

def unsignedNumber (base : Nat) : List Char → Except CharRefFault Nat
  | [] => .error .emptyNumber
  | c :: cs => if c == '+' || c == '-' then .error .unexpectedSign else readDigits base 0 (c :: cs)

/-- The character written by the digits after `&#`; a leading `x` marks hexadecimal. -/
def charOfNumber (digits : List Char) : Except CharRefFault Char := do
  let code ← match digits with
    | 'x' :: hex => unsignedNumber 16 hex
    | decimal => unsignedNumber 10 decimal
  if code = 0 then .error .nullCharacter
  else if code.isValidChar then .ok (Char.ofNat code)
  else .error (.invalidCodepoint code)

/-- The text for the reference with this body, which starts at byte `start` of its value. -/
def resolveReference (resolve : String → Option String) (start : Nat) (body : List Char) :
    Except EscapeFault (List Char) :=
  match body with
  | '#' :: digits =>
    match charOfNumber digits with
    | .ok c => .ok [c]
    | .error fault => .error (.charRef fault)
  | _ =>
    match resolve (String.ofList body) with
    | some replacement => .ok replacement.toList
    | none => .error (.unrecognized start (start + byteLength body) (String.ofList body))

/-- A character that neither starts nor ends a reference. -/
def isReferenceBody (c : Char) : Bool := c != '&' && c != ';'

/-- Replaces the references in the last part of a value that has `total` bytes. -/
def unescapeFrom (resolve : String → Option String) (total : Nat) (cs : List Char) :
    Except EscapeFault (List Char) :=
  match cs with
  | [] => .ok []
  | c :: rest =>
    if c == '&' then
      match _h : rest.dropWhile isReferenceBody with
      | ';' :: after => do
        let text ← resolveReference resolve (total - byteLength rest)
          (rest.takeWhile isReferenceBody)
        let texts ← unescapeFrom resolve total after
        return text ++ texts
      | _ => .error (.unterminated (total - byteLength (c :: rest)) total)
    else do
      let texts ← unescapeFrom resolve total rest
      return c :: texts
termination_by cs.length
decreasing_by
  · have hle := (List.dropWhile_suffix isReferenceBody (l := rest)).length_le
    rw [_h] at hle
    simp at hle ⊢
    omega
  · simp

/-- Replaces all references of a text. -/
def unescape (resolve : String → Option String) (cs : List Char) : Except EscapeFault (List Char) :=
  unescapeFrom resolve (byteLength cs) cs

def escapeTextChar (c : Char) : List Char :=
  if c == '<' then "&lt;".toList
  else if c == '>' then "&gt;".toList
  else if c == '&' then "&amp;".toList
  else [c]

def escapeText (cs : List Char) : List Char := cs.flatMap escapeTextChar

def escapeValueChar (c : Char) : List Char :=
  if c == '<' then "&lt;".toList
  else if c == '>' then "&gt;".toList
  else if c == '&' then "&amp;".toList
  else if c == '\x27' then "&apos;".toList
  else if c == '\x22' then "&quot;".toList
  else if c == '\n' then "&#10;".toList
  else if c == '\r' then "&#13;".toList
  else if c == '\t' then "&#9;".toList
  else [c]

def escapeValue (cs : List Char) : List Char := cs.flatMap escapeValueChar

end XslLowering.Markup
