import XslLowering.Pattern.Basic

/-!
# The size of a pattern

A pattern stands for two automata over the bytes of UTF-8, one that reads a text forwards and one
that reads it backwards. `Node.fits` says whether each of them stays within `sizeLimit`, which keeps
repetitions of large sets and of repetitions from taking all the memory there is.

All states of an automaton take the same space. A state that leads to others by ranges of bytes, or
that chooses between others, takes a little more for each of them.
-/

namespace XslLowering.Pattern

open Text

/-! ## Characters as bytes -/

/-- The characters from `first` to `last` that take `digits` bytes after the first one. Each of these
holds a digit in base 64, and the first byte is `lead` and what is left of the number. -/
structure ByteForm where
  first : Nat
  last : Nat
  digits : Nat
  lead : Nat

/-- All forms, the surrogates left out. -/
def byteForms : List ByteForm :=
  [⟨0, 0x7f, 0, 0⟩, ⟨0x80, 0x7ff, 1, 0xc0⟩, ⟨0x800, 0xd7ff, 2, 0xe0⟩, ⟨0xe000, 0xffff, 2, 0xe0⟩,
    ⟨0x10000, lastCode, 3, 0xf0⟩]

/-- The numbers from `first` to `last` in base 64 with `digits` digits after the leading number, as
few products of ranges as possible in ascending order. -/
def digitRanges : (digits first last : Nat) → List (List CodeRange)
  | 0, first, last => [[⟨first, last⟩]]
  | digits + 1, first, last =>
    let unit := Nat.pow 64 (digits + 1)
    let low := first / unit
    let high := last / unit
    if low = high then
      (digitRanges digits (first % unit) (last % unit)).map (⟨low, low⟩ :: ·)
    else
      let startsLate := first % unit ≠ 0
      let endsEarly := last % unit ≠ unit - 1
      let start := if startsLate then low + 1 else low
      let stop := if endsEarly then high else high + 1
      (if startsLate then
        (digitRanges digits (first % unit) (unit - 1)).map (⟨low, low⟩ :: ·) else []) ++
      (if start < stop then
        [⟨start, stop - 1⟩ :: List.replicate (digits + 1) ⟨0, 63⟩] else []) ++
      (if endsEarly then
        (digitRanges digits 0 (last % unit)).map (⟨high, high⟩ :: ·) else [])

/-- The first byte of a form is `lead` higher than the number it stands for. -/
def raiseLead (lead : Nat) : List CodeRange → List CodeRange
  | [] => []
  | r :: rest => ⟨r.first + lead, r.last + lead⟩ :: rest

/-- A set of characters as sequences of ranges of bytes, in ascending order. -/
def byteSequences (s : CharSet) : List (List CodeRange) :=
  s.ranges.flatMap fun r =>
    byteForms.flatMap fun form =>
      let first := max r.first form.first
      let last := min r.last form.last
      if first ≤ last then (digitRanges form.digits first last).map (raiseLead form.lead) else []

/-- The bytes of the only character of a set, if there is only one. -/
def singleBytes? (s : CharSet) : Option (List Nat) :=
  match s.ranges with
  | [r] => if r.first = r.last then (byteSequences s).head?.map (·.map (·.first)) else none
  | _ => none

/-! ## Sets -/

/-- The space of a state. -/
def stateSize : Nat := 32

/-- What a state takes for a range of bytes that it follows to another state. -/
def rangeSize : Nat := 8

/-- What a state takes for another state that it may go on with. -/
def branchSize : Nat := 4

/-- A state that goes on with one of two states. -/
def choiceSize : Nat := stateSize + 2 * branchSize

/-- States that are already there: for each its ranges of bytes, with the number of the state that a
range leads to. Zero is the number of the state behind the set, the others count from one, and the
last one comes first. -/
abbrev States := List (List (CodeRange × Nat))

/-- The number of a state, which is added unless it is there. -/
def States.number (states : States) (state : List (CodeRange × Nat)) : Nat × States :=
  match states.idxOf? state with
  | some i => (states.length - i, states)
  | none => (states.length + 1, state :: states)

/-- Joins neighbouring sequences that start with the same range. -/
def groupByHead : List (List CodeRange) → List (CodeRange × List (List CodeRange))
  | [] => []
  | [] :: rest => groupByHead rest
  | (r :: tail) :: rest =>
    match groupByHead rest with
    | [] => [(r, [tail])]
    | (head, tails) :: groups =>
      if head = r then (head, tail :: tails) :: groups else (r, [tail]) :: (head, tails) :: groups

/-- Adds the states for sequences of at most the given length; states with equal ranges that lead to
equal states are the same. -/
def States.addSequences (states : States) : Nat → List (List CodeRange) → Nat × States
  | 0, _ => (0, states)
  | length + 1, sequences =>
    if sequences.all (·.isEmpty) then (0, states)
    else
      let (state, states) := (groupByHead sequences).foldl (fun (state, states) (r, tails) =>
        let (target, states) := States.addSequences states length tails
        (state ++ [(r, target)], states)) ([], states)
      states.number state

/-- The length of the common start of two lists. -/
def commonLength : List CodeRange → List CodeRange → Nat
  | a :: as, b :: bs => if a = b then commonLength as bs + 1 else 0
  | _, _ => 0

/-- The number of states when each sequence shares those of its start with the one before. -/
def sharedLength (before : List CodeRange) : List (List CodeRange) → Nat
  | [] => 0
  | sequence :: rest =>
    sequence.length - commonLength before sequence + sharedLength sequence rest

/-- The space for a set of characters. A single character is a row of bytes, and a set of characters
of one byte a single state. -/
def setSize (backward : Bool) (s : CharSet) : Nat :=
  match singleBytes? s with
  | some bytes => bytes.length * stateSize
  | none =>
    if s.ranges.all (·.last < 128) then 2 * stateSize + s.ranges.length * rangeSize
    else
      let sequences := byteSequences s
      if backward then
        2 * stateSize + sequences.length * branchSize + sharedLength [] sequences * stateSize
      else
        let states := (States.addSequences [] 4 sequences).2
        (states.map fun state => stateSize + state.length * rangeSize).foldl (· + ·) stateSize

/-! ## Alternatives of plain texts -/

/-- Texts in the order of preference up to the first empty one, and so on for what comes after it. -/
def splitAtEmpty (texts : List (List Nat)) : List (List (List Nat)) :=
  texts.foldr (fun text parts =>
    if text.isEmpty then [] :: parts
    else
      match parts with
      | [] => [[text]]
      | part :: rest => (text :: part) :: rest) [[]]

/-- The texts that follow each first byte. -/
def tailsByByte (texts : List (List Nat)) : List (List (List Nat)) :=
  let bytes := (texts.filterMap List.head?).eraseDups
  bytes.map fun byte =>
    texts.filterMap fun
      | [] => none
      | b :: tail => if b == byte then some tail else none

/-- The space for texts of at most the given length, kept as a tree by their bytes. Wherever a text
ends, what comes after it in the order of preference starts anew. -/
def treeSize : (length : Nat) → List (List Nat) → Nat
  | 0, _ => 0
  | length + 1, texts =>
    let parts := splitAtEmpty texts
    let branches := (parts.filter (!·.isEmpty)).length + (parts.length - 1)
    let sizes := parts.map fun part =>
      let tails := tailsByByte part
      let ranges := if tails.length < 2 then 0 else tails.length * rangeSize
      let own := if part.isEmpty then 0 else stateSize + ranges
      (tails.map fun tail => if tail.all (·.isEmpty) then 0 else treeSize length tail).foldl (· + ·) own
    sizes.foldl (· + ·) (stateSize + branches * branchSize)

/-- The space for alternatives that are plain texts. -/
def textsSize (backward : Bool) (texts : List (List Nat)) : Nat :=
  let texts := if backward then texts.map List.reverse else texts
  stateSize + treeSize ((texts.map List.length).foldl max 0 + 1) texts

/-! ## Patterns -/

namespace Node

/-- Whether a pattern matches at the start of a text only. -/
def startsText : Node → Bool
  | .look .textStart => true
  | .seq a b => a.startsText || a.isEmptyOnly && b.startsText
  | .alt a b => a.startsText && b.startsText
  | .group _ a => a.startsText
  | .repeated a least _ _ => least != 0 && a.startsText
  | _ => false

/-- Whether a pattern matches at the end of a text only. -/
def endsText : Node → Bool
  | .look .textEnd => true
  | .seq a b => b.endsText || b.isEmptyOnly && a.endsText
  | .alt a b => a.endsText && b.endsText
  | .group _ a => a.endsText
  | .repeated a least _ _ => least != 0 && a.endsText
  | _ => false

/-- The space that a part of a pattern takes: `plain` as an element of a sequence, where nothing
takes no space, and `branch` as an alternative. A plain text is there as its bytes, and a choice
between plain texts as all of them. -/
structure Space where
  plain : Nat
  branch : Nat
  text : Option (List Nat)
  texts : Option (List (List Nat))

def Space.ofPlain (plain : Nat) (text : Option (List Nat)) : Space :=
  ⟨plain, (if plain = 0 then stateSize else plain) + branchSize, text, text.map fun bytes => [bytes]⟩

/-- The space of an element of a sequence. -/
def Space.inner (backward : Bool) (space : Space) : Nat :=
  match space.text, space.texts with
  | none, some texts => textsSize backward texts
  | _, _ => space.plain

/-- The space of something that stands alone, where nothing takes a state too. -/
def Space.alone (backward : Bool) (space : Space) : Nat :=
  let inner := space.inner backward
  if inner = 0 then stateSize else inner

/-- The space of a repetition of something that takes `once`. -/
def repetitionSpace (once : Nat) (consumes : Bool) : (least : Nat) → (most : Option Nat) → Nat
  | 0, some 1 => once + choiceSize + stateSize
  | 0, none => if consumes then once + choiceSize else once + 2 * choiceSize + stateSize
  | least, none => least * once + choiceSize
  | least, some most =>
    if least = most then least * once
    else
      (if least = 0 then stateSize else least * once) + stateSize +
        (most - least) * (once + choiceSize)

def space (backward : Bool) : Node → Space
  | .empty => .ofPlain 0 none
  | .set s => .ofPlain (setSize backward s) (singleBytes? s)
  | .look _ => .ofPlain stateSize none
  | .seq a b =>
    let a := a.space backward
    let b := b.space backward
    let text := match a.text, b.text with
      | some first, some second => some (first ++ second)
      | _, _ => none
    .ofPlain (a.inner backward + b.inner backward) text
  | .alt a b =>
    let a := a.space backward
    let b := b.space backward
    let texts := match a.texts, b.texts with
      | some first, some second => some (first ++ second)
      | _, _ => none
    ⟨2 * stateSize + a.branch + b.branch, a.branch + b.branch, none, texts⟩
  | .repeated a least most _ =>
    .ofPlain (repetitionSpace ((a.space backward).alone backward) a.consumes least most) none
  | .group _ a =>
    .ofPlain ((a.space backward).alone backward + if backward then 0 else 2 * stateSize) none

/-- The space for going on to the next place where a match may start, if there is any. -/
def searchSize (anchored : Bool) : Nat :=
  if anchored then stateSize else choiceSize + 2 * stateSize + rangeSize

/-- The space for a whole pattern, which is a group that ends in a state of its own. -/
def size (backward : Bool) (node : Node) : Nat :=
  searchSize (if backward then node.endsText else node.startsText) +
    ((Node.group 0 node).space backward).inner backward + stateSize

/-- How much space each automaton of a pattern may take. -/
def sizeLimit : Nat := 10485760

/-- Whether a pattern is not too large. -/
def fits (node : Node) : Bool := node.size false ≤ sizeLimit && node.size true ≤ sizeLimit

end Node

end XslLowering.Pattern
