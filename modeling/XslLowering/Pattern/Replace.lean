import XslLowering.Pattern.Program
import XslLowering.Pattern.Reader

/-!
# Patterns

`Pattern.ofText?` reads a pattern, `Pattern.isMatch` searches for it, and `Pattern.replaceAll`
replaces all its matches. In a replacement, `$name` and `$` with a name in braces stand for what a
group has matched, and `$$` for a dollar sign.
-/

namespace XslLowering

/-- A pattern ready to be matched, and its groups that have a name. -/
structure Pattern where
  matcher : Pattern.Matcher
  names : List (String × Nat)

namespace Pattern

/-- Reads a pattern. -/
def ofText? (flags : Flags) (text : String) : Option Pattern :=
  (readPattern flags text.toList).map fun (node, groups, names) =>
    ⟨Matcher.ofNode node groups, names⟩

/-- Whether a pattern matches somewhere in a text. -/
def isMatch (p : Pattern) (text : String) : Bool :=
  (p.matcher.search text.toList.toArray 0).isSome

/-- A match: the places where every group starts and ends. -/
structure Match where
  slots : Slots

namespace Match

def start (m : Match) : Nat := (m.slots.getD 0 none).getD 0

def stop (m : Match) : Nat := (m.slots.getD 1 none).getD 0

/-- What a group has matched. -/
def group (m : Match) (text : Array Char) (index : Nat) : List Char :=
  match m.slots.getD (2 * index) none, m.slots.getD (2 * index + 1) none with
  | some start, some stop => (text.extract start stop).toList
  | _, _ => []

end Match

/-- The next match after `lastStop`, the end of the match before. An empty match directly at the end
of the match before does not count. -/
def nextMatch (p : Pattern) (text : Array Char) (place : Nat) (lastStop : Option Nat) :
    Option Match :=
  match p.matcher.search text place with
  | none => none
  | some slots =>
    let found : Match := ⟨slots⟩
    if found.start = found.stop ∧ lastStop = some found.stop then
      (p.matcher.search text (place + 1)).map Match.mk
    else some found

/-- All matches from left to right; there is at most one for each place between characters. -/
def matchesFrom (p : Pattern) (text : Array Char) (place : Nat) (lastStop : Option Nat) :
    Nat → List Match
  | 0 => []
  | fuel + 1 =>
    match p.nextMatch text place lastStop with
    | none => []
    | some found => found :: p.matchesFrom text found.stop (some found.stop) fuel

/-! ## Replacements -/

/-- A part of a replacement. -/
inductive ReplacementPart where
  | text (c : Char)
  | group (index : Nat)
  | named (name : String)

/-- Digits with an optional plus sign, for a number below `2 ^ 64`. -/
def groupIndex? (name : List Char) : Option Nat :=
  let digits := match name with
    | '+' :: rest => rest
    | _ => name
  let number := digits.foldl (fun n d => 10 * n + (d.toNat - '0'.toNat)) 0
  if digits.isEmpty || !digits.all Char.isDigit || 18446744073709551616 ≤ number then none
  else some number

def reference (name : List Char) : ReplacementPart :=
  match groupIndex? name with
  | some index => .group index
  | none => .named (String.ofList name)

def isReferenceChar (c : Char) : Bool := c.isAlphanum || c == '_'

/-- Splits a replacement into its parts. -/
def replacementParts (cs : List Char) : List ReplacementPart :=
  match cs with
  | [] => []
  | c :: rest =>
    if c == '$' then
      match rest with
      | '$' :: after => .text '$' :: replacementParts after
      | '\x7b' :: inner =>
        match _h : inner.dropWhile (· != '\x7d') with
        | [] => .text '$' :: replacementParts ('\x7b' :: inner)
        | _ :: after => reference (inner.takeWhile (· != '\x7d')) :: replacementParts after
      | after =>
        if (after.takeWhile isReferenceChar).isEmpty then .text '$' :: replacementParts after
        else reference (after.takeWhile isReferenceChar) ::
          replacementParts (after.dropWhile isReferenceChar)
    else .text c :: replacementParts rest
termination_by cs.length
decreasing_by
  · simp only [List.length_cons]
    omega
  · simp only [List.length_cons]
    omega
  · have hle := (List.dropWhile_suffix (· != '\x7d') (l := inner)).length_le
    rw [_h] at hle
    simp only [List.length_cons] at hle ⊢
    omega
  · simp only [List.length_cons]
    omega
  · have := (List.dropWhile_suffix isReferenceChar (l := after)).length_le
    simp only [List.length_cons]
    omega
  · simp only [List.length_cons]
    omega

/-- The text that takes the place of a match. -/
def expand (p : Pattern) (text : Array Char) (found : Match) (parts : List ReplacementPart) :
    List Char :=
  parts.flatMap fun
    | .text c => [c]
    | .group index => found.group text index
    | .named name =>
      match p.names.lookup name with
      | some index => found.group text index
      | none => []

/-- The text from `place` on with the given matches replaced. -/
def replaceMatches (p : Pattern) (text : Array Char) (parts : List ReplacementPart) (place : Nat) :
    List Match → List Char
  | [] => (text.extract place text.size).toList
  | found :: rest =>
    (text.extract place found.start).toList ++ p.expand text found parts ++
      p.replaceMatches text parts found.stop rest

/-- A text with all matches replaced. -/
def replaceAll (p : Pattern) (text replacement : String) : String :=
  let chars := text.toList.toArray
  let found := p.matchesFrom chars 0 none (chars.size + 2)
  String.ofList (p.replaceMatches chars (replacementParts replacement.toList) 0 found)

end Pattern

end XslLowering
