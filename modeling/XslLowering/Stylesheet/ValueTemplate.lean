import XslLowering.Attempt
import XslLowering.Text.Blank
import XslLowering.Text.Search

/-!
# Value templates

A value template is a text in which expressions stand in braces; a brace that is text is written
twice. `ValueTemplate.parse` splits a value into its parts. `ValueTemplate.render` writes the parts
as one single expression, a `concat` of literals and expressions.
-/

namespace XslLowering.Stylesheet

open Text

/-- A part of a value template: text that stands for itself, or an expression without its braces. -/
inductive TemplatePart where
  | literal (text : List Char)
  | expression (text : List Char)
deriving DecidableEq

def TemplatePart.isLiteral : TemplatePart → Bool
  | .literal _ => true
  | .expression _ => false

/-- Why a value is no template. -/
inductive TemplateFault where
  | unclosedBrace
  | emptyExpression
  | strayBrace
deriving DecidableEq

def TemplateFault.message : TemplateFault → String
  | .unclosedBrace => "unclosed '\x7b'"
  | .emptyExpression => "empty expression"
  | .strayBrace => "'\x7d' outside an expression must be doubled"

/-- A value template, taken apart. -/
structure ValueTemplate where
  parts : List TemplatePart
  /-- Whether a doubled brace stands in the value. -/
  escaped : Bool
deriving DecidableEq

namespace ValueTemplate

/-- The texts before and after the brace that closes an expression. `quote` is the quote of the
literal that the text starts in, and `depth` the number of braces that are open inside the
expression; braces in literals do not count. -/
def splitExpression (quote : Option Char) (depth : Nat) :
    List Char → Option (List Char × List Char)
  | [] => none
  | c :: cs =>
    let keep := fun (split : List Char × List Char) => (c :: split.1, split.2)
    match quote with
    | some q => (splitExpression (if c == q then none else quote) depth cs).map keep
    | none =>
      if c == '\x27' || c == '\x22' then (splitExpression (some c) depth cs).map keep
      else if c == '\x7b' then (splitExpression none (depth + 1) cs).map keep
      else if c == '\x7d' then
        match depth with
        | 0 => some ([], cs)
        | outer + 1 => (splitExpression none outer cs).map keep
      else (splitExpression none depth cs).map keep

theorem splitExpression_eq_some {quote : Option Char} {depth : Nat} {cs inside after : List Char}
    (h : splitExpression quote depth cs = some (inside, after)) :
    cs = inside ++ '\x7d' :: after := by
  induction cs generalizing quote depth inside with
  | nil => cases h
  | cons c cs ih =>
    have step {quote' : Option Char} {depth' : Nat}
        (h : (splitExpression quote' depth' cs).map (fun s => (c :: s.1, s.2)) =
          some (inside, after)) : c :: cs = inside ++ '\x7d' :: after := by
      obtain ⟨⟨i, a⟩, hs, he⟩ := Option.map_eq_some_iff.1 h
      cases he
      simp [ih hs]
    simp only [splitExpression] at h
    split at h
    · exact step h
    · split at h
      · exact step h
      · split at h
        · exact step h
        · split at h
          · next hc =>
            split at h
            · cases h
              simp_all
            · exact step h
          · exact step h

/-- Adds a character of text in front of a template. -/
def consLiteral (c : Char) (t : ValueTemplate) : ValueTemplate :=
  match t.parts with
  | .literal text :: rest => { t with parts := .literal (c :: text) :: rest }
  | parts => { t with parts := .literal [c] :: parts }

/-- Adds a doubled brace in front of a template. -/
def consBrace (c : Char) (t : ValueTemplate) : ValueTemplate :=
  { t.consLiteral c with escaped := true }

def consExpression (text : List Char) (t : ValueTemplate) : ValueTemplate :=
  { t with parts := .expression text :: t.parts }

/-- Splits a value into its parts. -/
def ofChars (cs : List Char) : Except TemplateFault ValueTemplate :=
  match cs with
  | [] => .ok ⟨[], false⟩
  | c :: rest =>
    if c == '\x7b' then
      match rest with
      | '\x7b' :: rest' => (ofChars rest').map (consBrace '\x7b')
      | text =>
        match _h : splitExpression none 0 text with
        | none => .error .unclosedBrace
        | some (inside, after) =>
          if (trimBlank inside).isEmpty then .error .emptyExpression
          else (ofChars after).map (consExpression inside)
    else if c == '\x7d' then
      match rest with
      | '\x7d' :: rest' => (ofChars rest').map (consBrace '\x7d')
      | _ => .error .strayBrace
    else (ofChars rest).map (consLiteral c)
termination_by cs.length
decreasing_by
  · simp only [List.length_cons]
    omega
  · have := congrArg List.length (splitExpression_eq_some _h)
    simp only [List.length_append, List.length_cons] at this ⊢
    omega
  · simp only [List.length_cons]
    omega
  · simp only [List.length_cons]
    omega

def parse (value : String) : Except TemplateFault ValueTemplate := ofChars value.toList

/-- Whether the value stands for itself: it has neither expressions nor doubled braces. -/
def isStatic (t : ValueTemplate) : Bool := !t.escaped && t.parts.all TemplatePart.isLiteral

end ValueTemplate

/-! ## Writing templates -/

/-- The texts between the occurrences of a character. -/
def segments (mark : Char) : List Char → List (List Char)
  | [] => [[]]
  | c :: cs =>
    if c == mark then [] :: segments mark cs
    else
      match segments mark cs with
      | [] => [[c]]
      | segment :: rest => (c :: segment) :: rest

def inApostrophes (text : List Char) : List Char := '\x27' :: text ++ ['\x27']

def inDoubleQuotes (text : List Char) : List Char := '\x22' :: text ++ ['\x22']

/-- A segment without apostrophes, unless it is empty. -/
def quoteSegment (segment : List Char) : List (List Char) :=
  if segment.isEmpty then [] else [inApostrophes segment]

/-- A text as literals of expressions that have to be put together: one literal if some kind of
quotes does not stand in the text, and otherwise one for each apostrophe and each segment. -/
def quoteLiteral (text : List Char) : List (List Char) :=
  if !text.contains '\x27' then [inApostrophes text]
  else if !text.contains '\x22' then [inDoubleQuotes text]
  else
    match segments '\x27' text with
    | [] => []
    | first :: others =>
      quoteSegment first ++
        others.flatMap fun segment => inDoubleQuotes ['\x27'] :: quoteSegment segment

namespace ValueTemplate

/-- The arguments that a part contributes to the expression. -/
def partArguments {m : Type → Type} [Monad m] (compile : String → m String) :
    TemplatePart → m (List (List Char))
  | .literal text => return quoteLiteral text
  | .expression text => do
    let compiled ← compile (String.ofList text)
    return [compiled.toList]

/-- The arguments of all parts, in order. -/
def arguments {m : Type → Type} [Monad m] (compile : String → m String) :
    List TemplatePart → m (List (List Char))
  | [] => return []
  | part :: parts => do
    let first ← partArguments compile part
    let others ← arguments compile parts
    return first ++ others

/-- A template that holds nothing but the given arguments, put together. -/
def ofArguments : List (List Char) → List Char
  | [] => "\x7b''\x7d".toList
  | [argument] => '\x7b' :: argument ++ ['\x7d']
  | arguments => "\x7bconcat(".toList ++ List.intercalate [',', ' '] arguments ++ [')', '\x7d']

/-- Writes a template as one expression, with every expression in it compiled. -/
def render {m : Type → Type} [Monad m] (t : ValueTemplate) (compile : String → m String) :
    m String := do
  let args ← arguments compile t.parts
  return String.ofList (ofArguments args)

end ValueTemplate

end XslLowering.Stylesheet
