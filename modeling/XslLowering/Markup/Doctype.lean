import XslLowering.Dictionary
import XslLowering.Markup.Tag
import XslLowering.Text.Blank
import XslLowering.Text.Search

/-!
# Document type declarations

`doctypeRest` finds where a document type declaration ends. `declaredEntities` lists the entities
that the internal subset of a declaration declares, and `internalEntities` gives the replacement
texts of those that are declared with one. Declarations in comments do not count.
-/

namespace XslLowering.Markup

open Text

/-! ## The extent of a declaration -/

/-- What follows one piece of markup of the internal subset, given what stands after its `<`.
Comments and instructions end as such; in declarations that hold literals a `>` in quotes does not
count. -/
def afterSubsetMarkup (cs : List Char) : Option (List Char) :=
  if ['!', '-', '-'].isPrefixOf cs then afterSeq ['-', '-', '>'] (cs.drop 3)
  else if ['?'].isPrefixOf cs then afterSeq ['?', '>'] (cs.drop 1)
  else if "!ENTITY".toList.isPrefixOf cs || "!ATTLIST".toList.isPrefixOf cs ||
      "!NOTATION".toList.isPrefixOf cs then
    match splitAtGt none cs with
    | .ok (_, rest) => some rest
    | .error _ => none
  else afterSeq ['>'] cs

theorem length_afterSubsetMarkup {cs rest : List Char} (h : afterSubsetMarkup cs = some rest) :
    rest.length < cs.length := by
  unfold afterSubsetMarkup at h
  split at h
  · have := length_afterSeq h
    simp at this
    omega
  · split at h
    · have := length_afterSeq h
      simp at this
      omega
    · split at h
      · split at h
        · next hs =>
          cases h
          have := length_splitAtGt hs
          omega
        · cases h
      · have := length_afterSeq h
        simp at this
        omega

/-- What follows a declaration whose internal subset starts here. -/
def subsetRest (cs : List Char) : Option (List Char) :=
  match cs with
  | [] => none
  | c :: rest =>
    if c == ']' then afterSeq ['>'] rest
    else if c == '<' then
      match _h : afterSubsetMarkup rest with
      | some rest' => subsetRest rest'
      | none => none
    else subsetRest rest
termination_by cs.length
decreasing_by
  · have := length_afterSubsetMarkup _h
    simp
    omega
  · simp

/-- What follows a declaration: it ends with the next `>` outside quotes and outside its internal
subset. -/
def doctypeRest (cs : List Char) : Option (List Char) :=
  match cs with
  | [] => none
  | c :: rest =>
    if c == '>' then some rest
    else if c == '[' then subsetRest rest
    else if c == '\x27' || c == '\x22' then
      match _h : rest.dropWhile (· != c) with
      | [] => none
      | _ :: rest' => doctypeRest rest'
    else doctypeRest rest
termination_by cs.length
decreasing_by
  · have hle := (List.dropWhile_suffix (· != c) (l := rest)).length_le
    rw [_h] at hle
    simp at hle ⊢
    omega
  · simp

/-! ## Entity declarations -/

/-- What stands between the first `[` and the last `]` of a declaration. -/
def internalSubset? (doctype : List Char) : Option (List Char) :=
  match doctype.dropWhile (· != '[') with
  | [] => none
  | _ :: inner =>
    match inner.reverse.dropWhile (· != ']') with
    | [] => none
    | _ :: reversed => some reversed.reverse

/-- Leaves out comments. One that is not closed takes everything after it along. -/
def stripComments (cs : List Char) : List Char :=
  match cs with
  | [] => []
  | c :: rest =>
    if "<!--".toList.isPrefixOf (c :: rest) then
      match _h : afterSeq ['-', '-', '>'] (rest.drop 3) with
      | some after => stripComments after
      | none => []
    else c :: stripComments rest
termination_by cs.length
decreasing_by
  · have := length_afterSeq _h
    simp at this ⊢
    omega
  · simp

/-- The text that follows `<!ENTITY` and at least one blank. -/
def afterEntityKeyword? (cs : List Char) : Option (List Char) := do
  let rest ← stripLead "<!ENTITY".toList cs
  match rest with
  | c :: _ => if isBlank c then some (rest.dropWhile isBlank) else none
  | [] => none

/-- A character of the name of a declared entity. -/
def isEntityNameChar (c : Char) : Bool := !isBlank c && c != '>'

/-- Splits off a name, which must not be empty. -/
def nameWhile? (p : Char → Bool) (cs : List Char) : Option (List Char × List Char) :=
  if (cs.takeWhile p).isEmpty then none else some (cs.takeWhile p, cs.dropWhile p)

/-- The name after a percent sign and blanks, of a parameter entity. -/
def parameterName? : List Char → Option (List Char × List Char)
  | '%' :: c :: cs =>
    if isBlank c then nameWhile? isEntityNameChar (cs.dropWhile isBlank) else none
  | _ => none

/-- An entity declaration at the head of a text: the declared name, and what follows it. -/
def declaration? (cs : List Char) : Option (List Char × List Char) := do
  let rest ← afterEntityKeyword? cs
  parameterName? rest <|> nameWhile? isEntityNameChar rest

/-- A literal in quotes of either kind: its content, and what follows it. -/
def quotedLiteral? : List Char → Option (List Char × List Char)
  | [] => none
  | quote :: cs =>
    if quote == '\x27' || quote == '\x22' then
      match cs.dropWhile (· != quote) with
      | [] => none
      | _ :: rest => some (cs.takeWhile (· != quote), rest)
    else none

/-- The declaration of an entity by its replacement text: name, text, and what follows. -/
def internalDeclaration? (cs : List Char) : Option ((List Char × List Char) × List Char) := do
  let rest ← afterEntityKeyword? cs
  let (name, rest) ← nameWhile? (fun c => isEntityNameChar c && c != '%') rest
  match rest with
  | [] => none
  | c :: _ =>
    if isBlank c then
      let (value, rest) ← quotedLiteral? (rest.dropWhile isBlank)
      match rest.dropWhile isBlank with
      | '>' :: rest => some ((name, value), rest)
      | _ => none
    else none

/-- All finds of `match?` from left to right, each search going on after the last find. -/
def findAll {α : Type} (match? : List Char → Option (α × List Char)) (cs : List Char) : List α :=
  match cs with
  | [] => []
  | c :: rest =>
    match match? (c :: rest) with
    | some (a, after) =>
      if after.length < (c :: rest).length then a :: findAll match? after
      else a :: findAll match? rest
    | none => findAll match? rest
termination_by cs.length
decreasing_by
  · assumption
  · exact Nat.lt_succ_self _
  · exact Nat.lt_succ_self _

/-- The names of the entities, parameter entities among them, that a declaration declares. -/
def declaredEntities (doctype : String) : List String :=
  match internalSubset? doctype.toList with
  | none => []
  | some subset => (findAll declaration? (stripComments subset)).map String.ofList

/-- The replacement texts that a declaration gives; the first one for a name is binding. -/
def internalEntities (doctype : String) : Dictionary String :=
  match internalSubset? doctype.toList with
  | none => ∅
  | some subset =>
    (findAll internalDeclaration? (stripComments subset)).foldl
      (fun entities (name, value) =>
        entities.insertIfNew (String.ofList name) (String.ofList value)) ∅

end XslLowering.Markup
