import XslLowering.Text.CharSet

/-!
# Parts of a pattern

A pattern is made of sets of characters, assertions about the place between two characters, and the
usual ways to combine them. `Node` is a pattern once it is read.
-/

namespace XslLowering.Pattern

open Text

/-- What the end or start of a word is taken for. -/
inductive WordEdge where
  | boundary | noBoundary | start | stop | startHalf | stopHalf

/-- An assertion about a place in a text. -/
inductive Look where
  | textStart | textEnd
  /-- Lines end with a line feed, or with `crlf` also with a carriage return or with both. -/
  | lineStart (crlf : Bool)
  | lineEnd (crlf : Bool)
  /-- The edge of a word of characters of the given kind. -/
  | word (edge : WordEdge) (wordChars : CharSet)

def WordEdge.holds (edge : WordEdge) (before after : Bool) : Bool :=
  match edge with
  | .boundary => before != after
  | .noBoundary => before == after
  | .start => !before && after
  | .stop => before && !after
  | .startHalf => !before
  | .stopHalf => !after

/-- Whether an assertion holds between two characters of a text, where either may be missing. -/
def Look.holds (look : Look) (before after : Option Char) : Bool :=
  match look with
  | .textStart => before.isNone
  | .textEnd => after.isNone
  | .lineStart false => before.isNone || before == some '\n'
  | .lineEnd false => after.isNone || after == some '\n'
  | .lineStart true =>
    before.isNone || before == some '\n' || (before == some '\r' && after != some '\n')
  | .lineEnd true =>
    after.isNone || after == some '\r' || (after == some '\n' && before != some '\r')
  | .word edge wordChars => edge.holds (before.any wordChars.contains) (after.any wordChars.contains)

/-- A pattern as it is read. -/
inductive Node where
  | empty
  | set (s : CharSet)
  | look (l : Look)
  | seq (first second : Node)
  /-- The first alternative is preferred. -/
  | alt (first second : Node)
  /-- From `least` to `most` times, as often as possible if it is greedy. -/
  | repeated (node : Node) (least : Nat) (most : Option Nat) (greedy : Bool)
  | group (index : Nat) (node : Node)

namespace Node

/-- Whether every match has at least one character. -/
def consumes : Node → Bool
  | .empty | .look _ => false
  | .set _ => true
  | .seq a b => a.consumes || b.consumes
  | .alt a b => a.consumes && b.consumes
  | .repeated a least _ _ => least != 0 && a.consumes
  | .group _ a => a.consumes

/-- Whether no match has any character. -/
def isEmptyOnly : Node → Bool
  | .empty | .look _ => true
  | .set _ => false
  | .seq a b => a.isEmptyOnly && b.isEmptyOnly
  | .alt a b => a.isEmptyOnly && b.isEmptyOnly
  | .repeated a _ most _ => most == some 0 || a.isEmptyOnly
  | .group _ a => a.isEmptyOnly

end Node

end XslLowering.Pattern
