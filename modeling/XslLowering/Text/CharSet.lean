import XslLowering.Text.Hexadecimal

/-!
# Sets of characters

A set of characters is a list of ranges of code points, in ascending order, that neither overlap nor
touch. `CharSet.contains` asks whether a character is in one of them, and the sets have the usual
operations.

The sets of the character database are written as text, one entry a range: hexadecimal code points,
`first-last` for a range, `first-last/step` for every `step`-th code point in it, entries separated
by blanks. `CharSet.ofText` reads such a text. Where every code point has some value the text gives
the start of each run of equal values instead, which `Run.ofText` reads.
-/

namespace XslLowering.Text

/-- The largest code point. -/
def lastCode : Nat := 0x10ffff

/-- The code points from `first` to `last`, both included. -/
structure CodeRange where
  first : Nat
  last : Nat
deriving DecidableEq

def CodeRange.contains (r : CodeRange) (code : Nat) : Bool :=
  r.first ≤ code && code ≤ r.last

/-- Reads `first-last`, `first-last/step` or a single code point. -/
def CodeRange.listOfText (text : List Char) : List CodeRange :=
  let first := hexNumber (text.takeWhile (· ≠ '-'))
  match (text.dropWhile (· ≠ '-')).drop 1 with
  | [] => [⟨first, first⟩]
  | tail =>
    let last := hexNumber (tail.takeWhile (· ≠ '/'))
    match hexNumber ((tail.dropWhile (· ≠ '/')).drop 1) with
    | 0 => [⟨first, last⟩]
    | step =>
      (List.range ((last - first) / step + 1)).map fun i => ⟨first + step * i, first + step * i⟩

/-- The entries of a table text: its maximal runs without a blank or a line end. -/
def entries (text : List Char) : List (List Char) :=
  let step (c : Char) (acc : List (List Char)) : List (List Char) :=
    if c == ' ' || c == '\n' then [] :: acc
    else
      match acc with
      | [] => [[c]]
      | entry :: rest => (c :: entry) :: rest
  (text.foldr step []).filter (!·.isEmpty)

/-- A set of characters, as ranges of their code points. -/
structure CharSet where
  ranges : List CodeRange

namespace CharSet

def ofText (text : String) : CharSet :=
  ⟨(entries text.toList).flatMap CodeRange.listOfText⟩

def containsCode (s : CharSet) (code : Nat) : Bool := s.ranges.any (·.contains code)

def contains (s : CharSet) (c : Char) : Bool := s.containsCode c.toNat

def empty : CharSet := ⟨[]⟩

def range (first last : Char) : CharSet := ⟨[⟨first.toNat, last.toNat⟩]⟩

def single (c : Char) : CharSet := range c c

/-- Joins ranges that overlap or touch. They come in the order of their first code points, and
`current` before all of them. -/
def join (current : CodeRange) : List CodeRange → List CodeRange
  | [] => [current]
  | r :: rest =>
    if r.first ≤ current.last + 1 then join ⟨current.first, max current.last r.last⟩ rest
    else current :: join r rest

/-- The set of ranges that come in the order of their first code points. -/
def ofOrdered : List CodeRange → CharSet
  | [] => empty
  | r :: rest => ⟨join r rest⟩

/-- The set of some code points. -/
def ofCodes (codes : List Nat) : CharSet :=
  ofOrdered ((codes.mergeSort (· ≤ ·)).map fun code => ⟨code, code⟩)

def union (a b : CharSet) : CharSet := ofOrdered (a.ranges.merge b.ranges (·.first ≤ ·.first))

/-- The union of some sets. -/
def unions (sets : List CharSet) : CharSet := sets.foldl union empty

/-- The code points from `start` on that are in none of the ranges. -/
def gaps (start : Nat) : List CodeRange → List CodeRange
  | [] => if start ≤ lastCode then [⟨start, lastCode⟩] else []
  | r :: rest =>
    if start < r.first then ⟨start, r.first - 1⟩ :: gaps (r.last + 1) rest
    else gaps (r.last + 1) rest

/-- All characters but those of a set. -/
def complement (a : CharSet) : CharSet := ⟨gaps 0 a.ranges⟩

def intersection (a b : CharSet) : CharSet := (a.complement.union b.complement).complement

def difference (a b : CharSet) : CharSet := a.intersection b.complement

def symmetricDifference (a b : CharSet) : CharSet := (a.difference b).union (b.difference a)

end CharSet

/-! ## Runs -/

/-- A run of code points with one value, up to where the next run starts. -/
structure Run (α : Type) where
  start : Nat
  value : α

/-- Reads a start in lower-case hexadecimal followed by a value that starts with a capital. -/
def Run.ofText {α : Type} (value : List Char → α) (text : List Char) : Run α :=
  ⟨hexNumber (text.takeWhile (fun c => !c.isUpper)), value (text.dropWhile (fun c => !c.isUpper))⟩

/-- The ranges of the runs whose value satisfies `p`. -/
def rangesOfRuns {α : Type} (p : α → Bool) : List (Run α) → List CodeRange
  | [] => []
  | [run] => if p run.value then [⟨run.start, lastCode⟩] else []
  | run :: next :: rest =>
    let others := rangesOfRuns p (next :: rest)
    if p run.value then ⟨run.start, next.start - 1⟩ :: others else others

/-- The code points whose value satisfies `p`. -/
def CharSet.ofRuns {α : Type} (p : α → Bool) (runs : List (Run α)) : CharSet :=
  .ofOrdered (rangesOfRuns p runs)

end XslLowering.Text
