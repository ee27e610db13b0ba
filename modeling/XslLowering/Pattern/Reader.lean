import XslLowering.Pattern.CaseFolding
import XslLowering.Pattern.NamedSet
import XslLowering.Pattern.Size
import XslLowering.Text.Blank
import XslLowering.Text.Search

/-!
# Reading patterns

`readPattern` reads the text of a pattern. Groups and classes are kept on a stack while they are
open, so every step takes at least one character off the text. There are no look-around assertions
and no references back to groups.
-/

namespace XslLowering.Pattern

open Text

/-- How a pattern is to be read from some place on. -/
structure Flags where
  ignoreCase : Bool
  /-- Line starts and line ends are places in the middle of a text too. -/
  multiLine : Bool
  /-- The dot stands for a line feed too. -/
  dotAll : Bool
  /-- Repetitions are greedy when they are marked as lazy, and the other way round. -/
  swapGreed : Bool
  /-- Characters are characters, and not bytes. -/
  unicode : Bool
  /-- A carriage return ends a line too. -/
  crlf : Bool
  /-- Blanks and comments in the pattern do not count. -/
  verbose : Bool

/-- Flags as they are unless something else is said. -/
def Flags.standard : Flags := ⟨false, false, false, false, true, false, false⟩

def Flags.set (f : Flags) (letter : Char) (on : Bool) : Option Flags :=
  match letter with
  | 'i' => some { f with ignoreCase := on }
  | 'm' => some { f with multiLine := on }
  | 's' => some { f with dotAll := on }
  | 'U' => some { f with swapGreed := on }
  | 'u' => some { f with unicode := on }
  | 'R' => some { f with crlf := on }
  | 'x' => some { f with verbose := on }
  | _ => none

/-! ## Blanks and numbers -/

/-- Skips blanks, and comments up to the end of their line. -/
def skipComments (inComment : Bool) : List Char → List Char
  | [] => []
  | c :: cs =>
    if inComment then skipComments (c != '\n') cs
    else if isBlank c then skipComments false cs
    else if c == '#' then skipComments true cs
    else c :: cs

/-- What is left of a text after what does not count at its start. -/
def Flags.skip (f : Flags) (cs : List Char) : List Char :=
  if f.verbose then skipComments false cs else cs

theorem length_skipComments (inComment : Bool) (cs : List Char) :
    (skipComments inComment cs).length ≤ cs.length := by
  induction cs generalizing inComment with
  | nil => simp [skipComments]
  | cons c cs ih =>
    unfold skipComments
    split
    · exact Nat.le_succ_of_le (ih _)
    · split
      · exact Nat.le_succ_of_le (ih _)
      · split
        · exact Nat.le_succ_of_le (ih _)
        · exact Nat.le_refl _

theorem Flags.length_skip (f : Flags) (cs : List Char) : (f.skip cs).length ≤ cs.length := by
  unfold Flags.skip
  split
  · exact length_skipComments ..
  · exact Nat.le_refl _

/-- The characters that satisfy `p`, with what does not count between them left out, and the rest
of the text. -/
def Flags.takeWhile (f : Flags) (p : Char → Bool) (cs : List Char) : List Char × List Char :=
  match cs with
  | [] => ([], [])
  | c :: rest =>
    if p c then
      let (taken, after) := f.takeWhile p (f.skip rest)
      (c :: taken, after)
    else ([], c :: rest)
termination_by cs.length
decreasing_by
  have := f.length_skip rest
  simp
  omega

/-- A decimal number below `2 ^ 32`, with blanks around it. -/
def Flags.decimal (f : Flags) (cs : List Char) : Option Nat × List Char :=
  let (digits, after) := f.takeWhile Char.isDigit (cs.dropWhile isBlank)
  let rest := (f.takeWhile isBlank after).2
  let number := digits.foldl (fun n d => 10 * n + hexDigit d) 0
  (if digits.isEmpty || 4294967296 ≤ number then none else some number, rest)

/-! ## Escapes -/

/-- What a single element of a pattern is. -/
inductive Primitive where
  | literal (c : Char)
  | set (s : CharSet)
  | look (l : Look)

/-- Characters that mean something in a pattern, so that they can be escaped. -/
def isMeta (c : Char) : Bool := "\\.+*?()|[]\x7b\x7d^$#&-~".toList.contains c

/-- Characters that stand for themselves when they are escaped. -/
def isEscapable (c : Char) : Bool :=
  isMeta c || (c.toNat < 128 && !c.isAlphanum && c != '<' && c != '>')

def isHexDigit (c : Char) : Bool :=
  c.isDigit || ('a' ≤ c && c ≤ 'f') || ('A' ≤ c && c ≤ 'F')

def charOfHex (digits : List Char) : Option Char :=
  let code := hexNumber (digits.map Char.toLower)
  if code.isValidChar then some (Char.ofNat code) else none

/-- As many digits of a hexadecimal number as are asked for. -/
def Flags.hexDigits (f : Flags) : Nat → List Char → Option (List Char × List Char)
  | 0, cs => some ([], cs)
  | count + 1, cs =>
    match cs with
    | [] => none
    | c :: rest =>
      if isHexDigit c then
        (f.hexDigits count (f.skip rest)).map fun (digits, after) => (c :: digits, after)
      else none

/-- The character with the hexadecimal number that follows, in braces or with `count` digits. In a
pattern of bytes two digits name a byte, which has to be a character by itself. -/
def Flags.hexChar (f : Flags) (count : Nat) (cs : List Char) : Option (Char × List Char) :=
  match f.skip cs with
  | '\x7b' :: inner =>
    let (digits, after) := f.takeWhile isHexDigit (f.skip inner)
    match after with
    | '\x7d' :: rest =>
      if digits.isEmpty then none else (charOfHex digits).map fun c => (c, f.skip rest)
    | _ => none
  | digits => do
    let (digits, rest) ← f.hexDigits count digits
    let c ← charOfHex digits
    if count = 2 && !f.unicode && 128 ≤ c.toNat then none else some (c, rest)

/-- All bytes but those of a set, a byte being the character with its number. -/
def byteComplement (s : CharSet) : CharSet := s.complement.intersection (.ofText "0-ff")

/-- Adds case variants if case does not count, then takes the complement if that is asked for. Sets
of bytes must not go beyond the first half, since such bytes are no characters. -/
def Flags.finishSet (f : Flags) (negated : Bool) (s : CharSet) : Option CharSet :=
  if f.unicode then
    let s := if f.ignoreCase then ignoringCase s else s
    some (if negated then s.complement else s)
  else
    let s := if f.ignoreCase then ignoringAsciiCase s else s
    let s := if negated then byteComplement s else s
    if s.ranges.all (·.last < 128) then some s else none

/-- The set named in the braces after `\p`, and whether it is to be complemented. -/
def bracedSet (name : List Char) : Option (CharSet × Bool) :=
  match splitAtSeq ['!', '='] name with
  | some (property, value) => (setWithValue? property value).map fun s => (s, true)
  | none =>
    let plain := match splitAtSeq [':'] name with
      | some (property, value) => setWithValue? property value
      | none =>
        match splitAtSeq ['='] name with
        | some (property, value) => setWithValue? property value
        | none => setNamed? name
    plain.map fun s => (s, false)

/-- The set named after `\p` or `\P`. -/
def Flags.propertySet (f : Flags) (negated : Bool) (cs : List Char) :
    Option (CharSet × List Char) := do
  let ((s, excluded), rest) ← match f.skip cs with
    | '\x7b' :: inner =>
      let (name, after) := f.takeWhile (· != '\x7d') (f.skip inner)
      match after with
      | _ :: rest => (bracedSet name).map fun s => (s, rest)
      | [] => none
    | c :: rest => if c == '\\' then none else (setNamed? [c]).map fun s => ((s, false), f.skip rest)
    | [] => none
  if f.unicode then
    let s ← f.finishSet (negated != excluded) s
    return (s, rest)
  else none

def asciiWordChars : CharSet := .ofText "30-39 41-5a 5f 61-7a"

def asciiBlanks : CharSet := .ofText "9-d 20"

def asciiDigits : CharSet := .ofText "30-39"

/-- The set that a letter stands for: digits, blanks or word characters, or all others if the
letter is a capital. -/
def Flags.letterSet (f : Flags) (letter : Char) : Option CharSet :=
  let set? : Option CharSet := match letter.toLower with
    | 'd' => some (if f.unicode then decimalDigits else asciiDigits)
    | 's' => some (if f.unicode then whiteSpace else asciiBlanks)
    | 'w' => some (if f.unicode then wordChars else asciiWordChars)
    | _ => none
  match set? with
  | none => none
  | some s => { f with ignoreCase := false }.finishSet letter.isUpper s

def Flags.wordChars (f : Flags) : CharSet :=
  if f.unicode then Pattern.wordChars else asciiWordChars

def isEdgeNameChar (c : Char) : Bool := c.isAlpha || c == '-'

/-- The kind of word boundary that braces after `\b` name. If no name stands there the braces are a
repetition and are left alone. -/
def Flags.boundary (f : Flags) (cs : List Char) : Option (WordEdge × List Char) :=
  match cs with
  | '\x7b' :: inner =>
    match f.skip inner with
    | [] => none
    | c :: rest =>
      if isEdgeNameChar c then
        let (name, after) := f.takeWhile isEdgeNameChar (c :: rest)
        match after with
        | '\x7d' :: rest =>
          if name == "start".toList then some (.start, rest)
          else if name == "end".toList then some (.stop, rest)
          else if name == "start-half".toList then some (.startHalf, rest)
          else if name == "end-half".toList then some (.stopHalf, rest)
          else none
        | _ => none
      else some (.boundary, cs)
  | _ => some (.boundary, cs)

/-- The characters that letters stand for when they are escaped. -/
def controlEscape? : Char → Option Char
  | 'a' => some '\x07'
  | 'f' => some '\x0c'
  | 't' => some '\t'
  | 'n' => some '\n'
  | 'r' => some '\r'
  | 'v' => some '\x0b'
  | _ => none

/-- What follows a backslash. -/
def Flags.escape (f : Flags) (cs : List Char) : Option (Primitive × List Char) :=
  match cs with
  | [] => none
  | c :: rest =>
    let word (edge : WordEdge) := Primitive.look (.word edge f.wordChars)
    if c == 'x' then (f.hexChar 2 rest).map fun (d, after) => (.literal d, after)
    else if c == 'u' then (f.hexChar 4 rest).map fun (d, after) => (.literal d, after)
    else if c == 'U' then (f.hexChar 8 rest).map fun (d, after) => (.literal d, after)
    else if c == 'p' || c == 'P' then
      (f.propertySet (c == 'P') rest).map fun (s, after) => (.set s, after)
    else if c == 'd' || c == 's' || c == 'w' || c == 'D' || c == 'S' || c == 'W' then
      (f.letterSet c).map fun s => (.set s, rest)
    else if isEscapable c then some (.literal c, rest)
    else if c == 'A' then some (.look .textStart, rest)
    else if c == 'z' then some (.look .textEnd, rest)
    else if c == 'b' then (f.boundary rest).map fun (edge, after) => (word edge, after)
    else if c == 'B' then some (word .noBoundary, rest)
    else if c == '<' then some (word .start, rest)
    else if c == '>' then some (word .stop, rest)
    else (controlEscape? c).map fun d => (.literal d, rest)

/-! ## Classes in brackets -/

inductive SetOperation where
  | intersection | difference | symmetricDifference

def SetOperation.apply : SetOperation → CharSet → CharSet → CharSet
  | .intersection => .intersection
  | .difference => .difference
  | .symmetricDifference => .symmetricDifference

/-- What was read of a class since the last bracket or operation. -/
structure ClassItems where
  /-- The union of the items. -/
  union : CharSet
  count : Nat
  /-- How deep the deepest item is nested. -/
  depth : Nat

namespace ClassItems

def none : ClassItems := ⟨.empty, 0, 0⟩

def add (items : ClassItems) (s : CharSet) (depth : Nat) : ClassItems :=
  ⟨items.union.union s, items.count + 1, max items.depth depth⟩

/-- The same single character, as often as it was written. -/
def ofChar (c : Char) (count : Nat) : ClassItems := ⟨.single c, count, 0⟩

/-- The depth of the items together. -/
def nesting (items : ClassItems) : Nat := if items.count < 2 then items.depth else items.depth + 1

end ClassItems

/-- What is open around the place that is read in a class. -/
inductive ClassFrame where
  /-- A bracket, with what its surroundings hold so far. -/
  | bracket (outer : ClassItems) (negated : Bool)
  /-- An operation that waits for its second set; the first one is nested to a depth. -/
  | operation (op : SetOperation) (first : CharSet) (depth : Nat)

/-- A class that is being read. -/
structure ClassReading where
  rest : List Char
  items : ClassItems
  frames : List ClassFrame

/-- Where the reading of a class has got to. -/
inductive ClassStep where
  | more (reading : ClassReading)
  | finished (s : CharSet) (depth : Nat) (rest : List Char)

/-- A range of characters as a set; in a pattern of bytes they must be single bytes. -/
def Flags.charSet (f : Flags) (first last : Char) : Option CharSet :=
  if f.unicode || last.toNat < 128 then some (.range first last) else none

/-- A set with its case variants, if case does not count. -/
def Flags.foldSet (f : Flags) (s : CharSet) : CharSet :=
  if !f.ignoreCase then s else if f.unicode then ignoringCase s else ignoringAsciiCase s

/-- Carries out the operation that waits for `second`, and tells how deep the result is nested. -/
def Flags.popOperation (f : Flags) (second : ClassItems) :
    List ClassFrame → CharSet × Nat × List ClassFrame
  | .operation op first depth :: frames =>
    (op.apply (f.foldSet first) (f.foldSet second.union), max depth second.nesting + 1, frames)
  | frames => (second.union, second.nesting, frames)

/-- Opens a class; the text starts after its bracket. -/
def Flags.openClass (f : Flags) (outer : ClassItems) (frames : List ClassFrame) (cs : List Char) :
    Option ClassReading :=
  let afterBracket := f.skip cs
  let (negated, start) := match afterBracket with
    | '^' :: rest => (true, f.skip rest)
    | _ => (false, afterBracket)
  let (hyphens, rest) := f.takeWhile (· == '-') start
  match hyphens, rest with
  | _, [] => none
  | [], ']' :: after =>
    match f.skip after with
    | [] => none
    | after => some ⟨after, .ofChar ']' 1, .bracket outer negated :: frames⟩
  | [], rest => some ⟨rest, .none, .bracket outer negated :: frames⟩
  | _, rest => some ⟨rest, .ofChar '-' hyphens.length, .bracket outer negated :: frames⟩

/-- The sets of characters below 128 that have names in brackets and colons. -/
def asciiSet? (name : String) : Option CharSet :=
  match name with
  | "alnum" => some (.ofText "30-39 41-5a 61-7a")
  | "alpha" => some (.ofText "41-5a 61-7a")
  | "ascii" => some (.ofText "0-7f")
  | "blank" => some (.ofText "9 20")
  | "cntrl" => some (.ofText "0-1f 7f")
  | "digit" => some asciiDigits
  | "graph" => some (.ofText "21-7e")
  | "lower" => some (.ofText "61-7a")
  | "print" => some (.ofText "20-7e")
  | "punct" => some (.ofText "21-2f 3a-40 5b-60 7b-7e")
  | "space" => some asciiBlanks
  | "upper" => some (.ofText "41-5a")
  | "word" => some asciiWordChars
  | "xdigit" => some (.ofText "30-39 41-46 61-66")
  | _ => none

/-- A named set such as `[:alpha:]` or `[:^alpha:]`; the text starts after the bracket. -/
def namedAsciiSet? (cs : List Char) : Option (CharSet × Bool × List Char) :=
  match cs with
  | ':' :: inner =>
    let (negated, inner) := match inner with
      | '^' :: rest => (true, rest)
      | _ => (false, inner)
    match inner.dropWhile (· != ':') with
    | ':' :: ']' :: rest =>
      (asciiSet? (String.ofList (inner.takeWhile (· != ':')))).map fun s => (s, negated, rest)
    | _ => none
  | _ => none

/-- The next character or escape of a class. -/
def Flags.classItem (f : Flags) (cs : List Char) : Option (Primitive × List Char) :=
  match cs with
  | [] => none
  | c :: rest => if c == '\\' then f.escape rest else some (.literal c, rest)

/-- The character after a hyphen, with what does not count left out. -/
def Flags.peekAfter (f : Flags) (cs : List Char) : Option Char :=
  if f.verbose then
    match cs.dropWhile isBlank with
    | '#' :: rest => (rest.dropWhile isBlank).head?
    | rest => rest.head?
  else cs.head?

/-- The next item of a class: a character, a range or an escape that stands for a set. -/
def Flags.classRange (f : Flags) (cs : List Char) : Option (CharSet × List Char) := do
  let (first, rest) ← f.classItem cs
  let single : Option (CharSet × List Char) := match first with
    | .literal c => (f.charSet c c).map fun s => (s, f.skip rest)
    | .set s => some (s, f.skip rest)
    | .look _ => none
  match f.skip rest with
  | [] => none
  | '-' :: after =>
    let next := f.peekAfter after
    if next == some ']' || next == some '-' then single
    else
      let (second, rest) ← f.classItem (f.skip after)
      match first, second with
      | .literal a, .literal b =>
        if a ≤ b then (f.charSet a b).map fun s => (s, rest) else none
      | _, _ => none
  | _ => single

/-- Starts an operation after what was read. -/
def Flags.pushOperation (f : Flags) (op : SetOperation) (r : ClassReading) (rest : List Char) :
    ClassReading :=
  let (first, depth, frames) := f.popOperation r.items r.frames
  ⟨rest, .none, .operation op first depth :: frames⟩

/-- Closes the innermost bracket. -/
def Flags.closeClass (f : Flags) (r : ClassReading) (rest : List Char) : Option ClassStep :=
  match f.popOperation r.items r.frames with
  | (content, depth, .bracket outer negated :: frames) => do
    let s ← f.finishSet negated content
    return if frames.isEmpty then .finished s (depth + 1) rest
      else .more ⟨rest, outer.add s (depth + 1), frames⟩
  | _ => none

/-- Reads one more item of a class. -/
def Flags.stepClass (f : Flags) (r : ClassReading) : Option ClassStep :=
  match f.skip r.rest with
  | [] => none
  | '[' :: rest =>
    match namedAsciiSet? rest with
    | some (named, negated, after) => do
      let s ← f.finishSet negated named
      return .more { r with rest := after, items := r.items.add s 0 }
    | none => (f.openClass r.items r.frames rest).map .more
  | ']' :: rest => f.closeClass r rest
  | '&' :: '&' :: rest => some (.more (f.pushOperation .intersection r rest))
  | '-' :: '-' :: rest => some (.more (f.pushOperation .difference r rest))
  | '~' :: '~' :: rest => some (.more (f.pushOperation .symmetricDifference r rest))
  | cs => do
    let (s, rest) ← f.classRange cs
    return .more { r with rest, items := r.items.add s 0 }

/-- Reads a class to its end, and tells how deep it is nested; every step takes at least one
character. -/
def Flags.readClass (f : Flags) : Nat → ClassReading → Option (CharSet × Nat × List Char)
  | 0, _ => none
  | fuel + 1, r =>
    match f.stepClass r with
    | none => none
    | some (.finished s depth rest) => some (s, depth, rest)
    | some (.more r) => f.readClass fuel r

/-! ## Patterns -/

/-- A part of a sequence: something to match, with how deep it is nested, or a change of flags. -/
inductive Item where
  | node (node : Node) (depth : Nat)
  | flags

/-- A group that is open: what stands before it, and what is to be restored after it. -/
structure GroupFrame where
  items : List Item
  alternatives : List (Node × Nat)
  flags : Flags
  index : Option Nat

/-- A pattern that is being read. Lists are in reverse order. -/
structure Reading where
  rest : List Char
  flags : Flags
  items : List Item
  alternatives : List (Node × Nat)
  groups : List GroupFrame
  /-- The number of groups that capture what they match. -/
  captures : Nat
  names : List (String × Nat)

/-- A sequence of items, with its depth. -/
def sequence (items : List Item) : Node × Nat :=
  let nodes := items.filterMap fun
    | .node n depth => some (n, depth)
    | .flags => none
  let joined := nodes.foldl (fun (acc : Option Node) (n, _) => some (match acc with
    | none => n
    | some after => .seq n after)) none
  let depth := nodes.foldl (fun acc (_, d) => max acc d) 0
  (joined.getD .empty, if items.length < 2 then depth else depth + 1)

/-- The union of alternatives that are all single characters, or all larger sets. -/
def unionOfSets? (nodes : List Node) : Option CharSet :=
  let isSingle (s : CharSet) : Bool := s.ranges.length == 1 && s.ranges.all fun r => r.first = r.last
  let sets := nodes.filterMap fun
    | .set s => some s
    | _ => none
  if sets.length == nodes.length && (sets.all isSingle || !sets.any isSingle) then
    some (.unions sets)
  else none

/-- The alternatives read so far and the last one, as one node. -/
def alternation (alternatives : List (Node × Nat)) (last : Node × Nat) : Node × Nat :=
  if alternatives.isEmpty then last
  else
    let node := match unionOfSets? (last.1 :: alternatives.map (·.1)) with
      | some s => .set s
      | none => alternatives.foldl (fun after (n, _) => Node.alt n after) last.1
    (node, alternatives.foldl (fun acc (_, d) => max acc d) last.2 + 1)

/-- Repeats the last item. -/
def Reading.repeatLast (r : Reading) (rest : List Char) (least : Nat) (most : Option Nat)
    (greedy : Bool) : Option Reading :=
  match r.items with
  | .node n depth :: items =>
    let (least, most) :=
      if n.isEmptyOnly then (min least 1, some (min (most.getD 1) 1)) else (least, most)
    let node := Node.repeated n least most (greedy != r.flags.swapGreed)
    some { r with rest, items := .node node (depth + 1) :: items }
  | _ => none

/-- A repetition by one of the signs for it; a question mark directly after it makes it lazy. -/
def Reading.signRepetition (r : Reading) (rest : List Char) (least : Nat) (most : Option Nat) :
    Option Reading :=
  match rest with
  | '?' :: after => r.repeatLast after least most false
  | _ => r.repeatLast rest least most true

/-- The bounds of a repetition in braces, and what follows them; the text starts after the brace. -/
def Flags.bounds (f : Flags) (cs : List Char) : Option ((Nat × Option Nat) × List Char) :=
  match f.decimal (f.skip cs) with
  | (least?, ',' :: rest) =>
    match f.skip rest with
    | '\x7d' :: after => least?.map fun least => ((least, none), after)
    | rest =>
      match least?, f.decimal rest with
      | some least, (some most, '\x7d' :: after) =>
        if least ≤ most then some ((least, some most), after) else none
      | _, _ => none
  | (some count, '\x7d' :: after) => some ((count, some count), after)
  | _ => none

def Reading.countedRepetition (r : Reading) (cs : List Char) : Option Reading := do
  let ((least, most), after) ← r.flags.bounds cs
  match r.flags.skip after with
  | '?' :: rest => r.repeatLast rest least most false
  | rest => r.repeatLast rest least most true

/-- Reads flags up to a colon or parenthesis. -/
def readFlags (seen : List Char) (negated lastNegation : Bool) (f : Flags) :
    List Char → Option (Flags × List Char)
  | [] => none
  | c :: cs =>
    if c == ':' || c == ')' then if lastNegation then none else some (f, c :: cs)
    else if seen.contains c then none
    else if c == '-' then readFlags (c :: seen) true true f cs
    else
      match f.set c (!negated) with
      | some f => readFlags (c :: seen) negated false f cs
      | none => none

def isGroupNameStart (c : Char) : Bool := c == '_' || isAlphabetic c

def isGroupNameChar (c : Char) : Bool :=
  c == '_' || c == '.' || c == '[' || c == ']' || isAlphanumeric c

/-- The name of a group, up to its closing angle bracket. -/
def groupName? (cs : List Char) : Option (String × List Char) :=
  match cs.dropWhile (· != '>') with
  | [] => none
  | _ :: rest =>
    match cs.takeWhile (· != '>') with
    | [] => none
    | c :: name =>
      if isGroupNameStart c && name.all isGroupNameChar then some (String.ofList (c :: name), rest)
      else none

/-- Opens a group. -/
def Reading.openGroup (r : Reading) (index : Option Nat) (inner : Flags) (rest : List Char) :
    Reading :=
  { r with
    rest
    flags := inner
    items := []
    alternatives := []
    groups := ⟨r.items, r.alternatives, r.flags, index⟩ :: r.groups
    captures := if index.isSome then r.captures + 1 else r.captures }

def Reading.openNamed (r : Reading) (cs : List Char) : Option Reading := do
  let (name, rest) ← groupName? cs
  if r.names.any (·.1 == name) then none
  else
    let index := r.captures + 1
    return { r.openGroup (some index) r.flags rest with names := (name, index) :: r.names }

/-- What follows an opening parenthesis: a group of some kind, or a change of flags. -/
def Reading.parenthesis (r : Reading) (cs : List Char) : Option Reading :=
  match r.flags.skip cs with
  | '?' :: '=' :: _ => none
  | '?' :: '!' :: _ => none
  | '?' :: '<' :: '=' :: _ => none
  | '?' :: '<' :: '!' :: _ => none
  | '?' :: 'P' :: '<' :: rest => r.openNamed rest
  | '?' :: '<' :: rest => r.openNamed rest
  | '?' :: ')' :: _ => none
  | '?' :: rest =>
    match readFlags [] false false r.flags rest with
    | some (flags, ':' :: after) => some (r.openGroup none flags after)
    | some (flags, _ :: after) =>
      some { r with rest := after, flags, items := .flags :: r.items }
    | _ => none
  | rest => some (r.openGroup (some (r.captures + 1)) r.flags rest)

/-- Closes the innermost group. -/
def Reading.closeGroup (r : Reading) (rest : List Char) : Option Reading :=
  match r.groups with
  | [] => none
  | frame :: groups =>
    let (inner, depth) := alternation r.alternatives (sequence r.items)
    let node := match frame.index with
      | some index => Node.group index inner
      | none => inner
    some { r with
      rest
      flags := frame.flags
      items := .node node (depth + 1) :: frame.items
      alternatives := frame.alternatives
      groups }

/-- Adds something to match to the sequence. -/
def Reading.push (r : Reading) (node : Node) (depth : Nat) (rest : List Char) : Reading :=
  { r with rest, items := .node node depth :: r.items }

/-- A character of the pattern that stands for itself. -/
def Flags.literal (f : Flags) (c : Char) : Node := .set (f.foldSet (.single c))

/-- The dot: any character, or any but those that end a line. -/
def Flags.dot (f : Flags) : Option Node :=
  if !f.unicode then none
  else
    let ends := if f.dotAll then "" else if f.crlf then "a d" else "a"
    some (.set (CharSet.ofText ends).complement)

def Flags.primitive (f : Flags) : Primitive → Node
  | .literal c => f.literal c
  | .set s => .set s
  | .look l => .look l

/-- Reads one more element of a pattern, which starts with `c`. -/
def Reading.step (r : Reading) (c : Char) (rest : List Char) : Option Reading :=
  let f := r.flags
  match c with
  | '(' => r.parenthesis rest
  | ')' => r.closeGroup rest
  | '|' => some { r with rest, items := [], alternatives := sequence r.items :: r.alternatives }
  | '[' => do
    let opened ← f.openClass .none [] rest
    let (s, depth, after) ← f.readClass (rest.length + 1) opened
    return r.push (.set s) depth after
  | '?' => r.signRepetition rest 0 (some 1)
  | '*' => r.signRepetition rest 0 none
  | '+' => r.signRepetition rest 1 none
  | '\x7b' => r.countedRepetition rest
  | '\\' => do
    let (primitive, after) ← f.escape rest
    return r.push (f.primitive primitive) 0 after
  | '.' => f.dot.map fun node => r.push node 0 rest
  | '^' => some (r.push (.look (if f.multiLine then .lineStart f.crlf else .textStart)) 0 rest)
  | '$' => some (r.push (.look (if f.multiLine then .lineEnd f.crlf else .textEnd)) 0 rest)
  | c => some (r.push (f.literal c) 0 rest)

/-- Reads a pattern to its end; every step takes at least one character. -/
def Reading.steps : Nat → Reading → Option Reading
  | 0, _ => none
  | fuel + 1, r =>
    match r.flags.skip r.rest with
    | [] => some r
    | c :: rest =>
      match r.step c rest with
      | none => none
      | some r => r.steps fuel

/-- How deep groups, repetitions, alternatives, sequences and classes may be nested. -/
def nestingLimit : Nat := 250

/-- Reads a pattern: what to match, the number of groups, and the names of groups. -/
def readPattern (flags : Flags) (text : List Char) : Option (Node × Nat × List (String × Nat)) := do
  let r ← Reading.steps (text.length + 1) ⟨text, flags, [], [], [], 0, []⟩
  if r.groups.isEmpty then
    let (node, depth) := alternation r.alternatives (sequence r.items)
    if depth ≤ nestingLimit && node.fits then some (node, r.captures, r.names)
    else none
  else none

end XslLowering.Pattern
