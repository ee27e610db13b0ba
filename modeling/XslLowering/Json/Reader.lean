import XslLowering.Json.Basic
import XslLowering.Text.Blank
import XslLowering.Text.Hexadecimal
import XslLowering.Text.Search

/-!
# Reading JSON

`Json.read?` reads a text that holds one JSON value and nothing else but blanks. What is open around
the place that is read is kept on a stack, so values may be nested to any depth.
-/

namespace XslLowering.Json

open Text

/-! ## Strings -/

/-- Four hexadecimal digits as a number, and what follows them. -/
def unit? (cs : List Char) : Option (Nat × List Char) :=
  match cs with
  | a :: b :: c :: d :: rest =>
    let digits := [a, b, c, d]
    if digits.all fun x => x.isDigit || ('a' ≤ x && x ≤ 'f') || ('A' ≤ x && x ≤ 'F') then
      some (hexNumber digits, rest)
    else none
  | _ => none

def isHighHalf (unit : Nat) : Bool := 0xd800 ≤ unit && unit ≤ 0xdbff

def isLowHalf (unit : Nat) : Bool := 0xdc00 ≤ unit && unit ≤ 0xdfff

/-- The character of two halves. -/
def joinHalves (high low : Nat) : Char := Char.ofNat (0x10000 + (high - 0xd800) * 0x400 + (low - 0xdc00))

/-- The low half that follows a high one, if it does. -/
def lowHalf? (cs : List Char) : Option (Nat × List Char) :=
  match cs with
  | '\\' :: 'u' :: digits =>
    match unit? digits with
    | some (unit, rest) => if isLowHalf unit then some (unit, rest) else none
    | none => none
  | _ => none

/-- What an escape stands for, and what follows it; the text starts after the backslash. An escape
for one half of a character stands for nothing. -/
def escape? (cs : List Char) : Option (Option Char × List Char) :=
  match cs with
  | '\x22' :: rest => some (some '\x22', rest)
  | '\\' :: rest => some (some '\\', rest)
  | '/' :: rest => some (some '/', rest)
  | 'b' :: rest => some (some '\x08', rest)
  | 'f' :: rest => some (some '\x0c', rest)
  | 'n' :: rest => some (some '\n', rest)
  | 'r' :: rest => some (some '\r', rest)
  | 't' :: rest => some (some '\t', rest)
  | 'u' :: digits =>
    match unit? digits with
    | none => none
    | some (unit, rest) =>
      if isHighHalf unit then
        match lowHalf? rest with
        | some (low, rest) => some (some (joinHalves unit low), rest)
        | none => some (none, rest)
      else if isLowHalf unit then some (none, rest)
      else some (some (Char.ofNat unit), rest)
  | _ => none

/-- The rest of a string after its opening quote, with `acc` what was read of it in reverse order.
Every step takes at least one character. -/
def stringRest : Nat → Option (List Char) → List Char → Option (Option String × List Char)
  | 0, _, _ => none
  | _, _, [] => none
  | fuel + 1, acc, c :: cs =>
    if c == '\x22' then some (acc.map fun text => String.ofList text.reverse, cs)
    else if c == '\\' then
      match escape? cs with
      | none => none
      | some (some d, rest) => stringRest fuel (acc.map (d :: ·)) rest
      | some (none, rest) => stringRest fuel none rest
    else if c.toNat < 32 then none
    else stringRest fuel (acc.map (c :: ·)) cs

/-- A string after its opening quote. -/
def string? (cs : List Char) : Option (Option String × List Char) :=
  stringRest (cs.length + 1) (some []) cs

/-! ## Numbers -/

/-- At least one digit, and what follows. -/
def digits? (cs : List Char) : Option (List Char × List Char) :=
  let digits := cs.takeWhile Char.isDigit
  if digits.isEmpty then none else some (digits, cs.dropWhile Char.isDigit)

/-- The whole part of a number, which has no zero in front of other digits. -/
def whole? (cs : List Char) : Option (List Char × List Char) :=
  match cs with
  | '0' :: rest =>
    match rest with
    | d :: _ => if d.isDigit then none else some (['0'], rest)
    | [] => some (['0'], [])
  | _ => digits? cs

/-- The digits after a point, if there is a point. -/
def fraction? (cs : List Char) : Option (List Char × List Char) :=
  match cs with
  | '.' :: rest => (digits? rest).map fun (digits, after) => ('.' :: digits, after)
  | _ => some ([], cs)

/-- An exponent, if there is one. -/
def exponent? (cs : List Char) : Option (List Char × List Char) :=
  match cs with
  | e :: rest =>
    if e == 'e' || e == 'E' then
      match rest with
      | sign :: after =>
        if sign == '+' || sign == '-' then
          (digits? after).map fun (digits, after) => (e :: sign :: digits, after)
        else (digits? rest).map fun (digits, after) => (e :: digits, after)
      | [] => none
    else some ([], cs)
  | [] => some ([], [])

/-- A number, and what follows it. -/
def number? (cs : List Char) : Option (String × List Char) := do
  let (sign, cs) := match cs with
    | '-' :: rest => (['-'], rest)
    | _ => ([], cs)
  let (whole, cs) ← whole? cs
  let (fraction, cs) ← fraction? cs
  let (exponent, cs) ← exponent? cs
  return (String.ofList (sign ++ whole ++ fraction ++ exponent), cs)

/-! ## Values -/

/-- An array or object that is open, with what it holds so far in reverse order. -/
inductive Frame where
  | array (items : List Json)
  /-- An object that waits for the value of its last name. -/
  | object (fields : List (Option String × Json)) (name : Option String)

/-- What has to come next. -/
inductive Expected where
  | value
  | valueOrClose
  | name (fields : List (Option String × Json))
  | nameOrClose
  /-- What may follow a value. -/
  | after (value : Json)

/-- A value that is neither array nor object. -/
def scalar? (cs : List Char) : Option (Json × List Char) :=
  match cs with
  | '\x22' :: rest => (string? rest).map fun (text, after) => (.string text, after)
  | _ =>
    match stripLead "true".toList cs with
    | some rest => some (.boolean true, rest)
    | none =>
      match stripLead "false".toList cs with
      | some rest => some (.boolean false, rest)
      | none =>
        match stripLead "null".toList cs with
        | some rest => some (.null, rest)
        | none => (number? cs).map fun (digits, after) => (.number digits, after)

/-- A name and the colon after it. -/
def name? (cs : List Char) : Option (Option String × List Char) :=
  match cs with
  | '\x22' :: rest =>
    match string? rest with
    | some (text, after) =>
      match after.dropWhile isSpace with
      | ':' :: after => some (text, after)
      | _ => none
    | none => none
  | _ => none

/-- Reads on; every step takes at least one character. -/
def readFrom : Nat → Expected → List Frame → List Char → Option Json
  | 0, _, _, _ => none
  | fuel + 1, expected, frames, cs =>
    let cs := cs.dropWhile isSpace
    match expected, cs with
    | .after value, [] => if frames.isEmpty then some value else none
    | .after value, c :: rest =>
      match frames with
      | [] => none
      | .array items :: frames =>
        if c == ',' then readFrom fuel .value (.array (value :: items) :: frames) rest
        else if c == ']' then readFrom fuel (.after (.array (value :: items).reverse)) frames rest
        else none
      | .object fields name :: frames =>
        let fields := (name, value) :: fields
        if c == ',' then readFrom fuel (.name fields) frames rest
        else if c == '\x7d' then readFrom fuel (.after (.object fields.reverse)) frames rest
        else none
    | .valueOrClose, ']' :: rest =>
      match frames with
      | .array items :: frames => readFrom fuel (.after (.array items.reverse)) frames rest
      | _ => none
    | .nameOrClose, '\x7d' :: rest => readFrom fuel (.after (.object [])) frames rest
    | .nameOrClose, _ =>
      match name? cs with
      | some (name, rest) => readFrom fuel .value (.object [] name :: frames) rest
      | none => none
    | .name fields, _ =>
      match name? cs with
      | some (name, rest) => readFrom fuel .value (.object fields name :: frames) rest
      | none => none
    | _, '[' :: rest => readFrom fuel .valueOrClose (.array [] :: frames) rest
    | _, '\x7b' :: rest => readFrom fuel .nameOrClose frames rest
    | _, _ =>
      match scalar? cs with
      | some (value, rest) => readFrom fuel (.after value) frames rest
      | none => none

/-- The value that a text holds. -/
def read? (text : String) : Option Json :=
  readFrom (text.length + 2) .value [] text.toList

end XslLowering.Json
