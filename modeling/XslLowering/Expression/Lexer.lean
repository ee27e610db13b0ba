import XslLowering.Expression.Error
import XslLowering.Expression.Token
import XslLowering.Text.Blank
import XslLowering.Text.Bytes
import XslLowering.Text.CharClass

/-!
# Splitting an expression into tokens

`lexeme?` splits the first token off a text that starts with no blank; it fails only on a quote that
is never closed. `scan` repeats this over a whole text, and `closeBrackets` checks that parentheses
and brackets are well nested. `tokenize` puts the two together: of all faults it reports the
leftmost one, and a bracket that is left open only if there is no other fault.

`lexeme?_append` says that a lexeme and its rest make up the text.
-/

namespace XslLowering.Expression

open Text

def isNameStart (c : Char) : Bool := isAlphabetic c || c == '_'

def isNameChar (c : Char) : Bool := isAlphanumeric c || c == '_' || c == '-' || c == '.'

def isQuote (c : Char) : Bool := c == '\x27' || c == '\x22'

/-- Splits off a name without a colon. -/
def simpleName? : List Char → Option (List Char × List Char)
  | [] => none
  | c :: cs =>
    if isNameStart c then some (c :: cs.takeWhile isNameChar, cs.dropWhile isNameChar) else none

/-- Splits off `name`, `name:name` or `name:*`, as much as there is. -/
def qualifiedName? (cs : List Char) : Option (List Char × List Char) :=
  match simpleName? cs with
  | none => none
  | some (name, rest) =>
    match rest with
    | ':' :: after =>
      match simpleName? after with
      | some (localName, rest') => some (name ++ ':' :: localName, rest')
      | none =>
        match after with
        | '*' :: rest' => some (name ++ [':', '*'], rest')
        | _ => some (name, rest)
    | _ => some (name, rest)

/-- The kind and the length of the punctuation or operator that starts with `c`. -/
def fixedToken? (c : Char) (cs : List Char) : Option (TokenKind × Nat) :=
  match c, cs with
  | '/', '/' :: _ => some (.doubleSlash, 2)
  | '/', _ => some (.slash, 1)
  | ':', ':' :: _ => some (.axisSeparator, 2)
  | '.', '.' :: _ => some (.dotDot, 2)
  | '.', _ => some (.dot, 1)
  | '@', _ => some (.atSign, 1)
  | ',', _ => some (.comma, 1)
  | '(', _ => some (.leftParen, 1)
  | ')', _ => some (.rightParen, 1)
  | '[', _ => some (.leftBracket, 1)
  | ']', _ => some (.rightBracket, 1)
  | '*', _ => some (.star, 1)
  | '!', '=' :: _ => some (.operator, 2)
  | '<', '=' :: _ => some (.operator, 2)
  | '>', '=' :: _ => some (.operator, 2)
  | '|', '|' :: _ => some (.operator, 2)
  | '=', _ => some (.operator, 1)
  | '<', _ => some (.operator, 1)
  | '>', _ => some (.operator, 1)
  | '+', _ => some (.operator, 1)
  | '-', _ => some (.operator, 1)
  | '|', _ => some (.operator, 1)
  | '!', _ => some (.operator, 1)
  | _, _ => none

/-- A token at the head of a text, and what follows it. -/
structure Lexeme where
  kind : TokenKind
  text : List Char
  rest : List Char

/-- A literal from its opening quote to the next quote of the same kind. -/
def literal? (quote : Char) (cs : List Char) : Option Lexeme :=
  match cs.dropWhile (· != quote) with
  | [] => none
  | closing :: rest =>
    some ⟨.stringLiteral, quote :: (cs.takeWhile (· != quote) ++ [closing]), rest⟩

/-- A number that starts with the digit `c`: digits, and optionally a point and further digits. -/
def number (c : Char) (cs : List Char) : Lexeme :=
  let whole := c :: cs.takeWhile Char.isDigit
  match cs.dropWhile Char.isDigit with
  | '.' :: rest =>
    ⟨.numberLiteral, whole ++ '.' :: rest.takeWhile Char.isDigit, rest.dropWhile Char.isDigit⟩
  | rest => ⟨.numberLiteral, whole, rest⟩

def startsWithDigit : List Char → Bool
  | [] => false
  | c :: _ => c.isDigit

/-- A token that is neither a literal nor a number nor a variable. -/
def otherLexeme (c : Char) (cs : List Char) : Lexeme :=
  match fixedToken? c cs with
  | some (kind, size) => ⟨kind, (c :: cs).take size, (c :: cs).drop size⟩
  | none =>
    match qualifiedName? (c :: cs) with
    | some (name, rest) => ⟨.name, name, rest⟩
    | none => ⟨.unknown, [c], cs⟩

/-- The first token of a text that starts with `c`; none if it is a literal that is not closed. -/
def lexeme? (c : Char) (cs : List Char) : Option Lexeme :=
  if isQuote c then literal? c cs
  else if c.isDigit then some (number c cs)
  else if c == '.' && startsWithDigit cs then
    some ⟨.numberLiteral, '.' :: cs.takeWhile Char.isDigit, cs.dropWhile Char.isDigit⟩
  else if c == '$' then
    match qualifiedName? cs with
    | some (name, rest) => some ⟨.varRef, '$' :: name, rest⟩
    | none => some (otherLexeme c cs)
  else some (otherLexeme c cs)

theorem simpleName?_append {cs name rest : List Char} (h : simpleName? cs = some (name, rest)) :
    name ++ rest = cs ∧ name ≠ [] := by
  cases cs with
  | nil => cases h
  | cons c cs =>
    simp only [simpleName?] at h
    split at h
    · cases h
      simp [List.takeWhile_append_dropWhile]
    · cases h

theorem qualifiedName?_append {cs name rest : List Char}
    (h : qualifiedName? cs = some (name, rest)) : name ++ rest = cs ∧ name ≠ [] := by
  simp only [qualifiedName?] at h
  split at h
  · cases h
  · next n r hn =>
    obtain ⟨hcs, hne⟩ := simpleName?_append hn
    split at h
    · next after =>
      split at h
      · next l r' hl =>
        cases h
        obtain ⟨hl', -⟩ := simpleName?_append hl
        simp [← hcs, ← hl']
      · split at h
        · cases h
          simp [← hcs]
        · cases h
          exact ⟨hcs, hne⟩
    · cases h
      exact ⟨hcs, hne⟩

theorem fixedToken?_pos {c : Char} {cs : List Char} {kind : TokenKind} {size : Nat}
    (h : fixedToken? c cs = some (kind, size)) : size = 1 ∨ size = 2 := by
  unfold fixedToken? at h
  split at h <;> first | cases h; simp | cases h

theorem otherLexeme_append (c : Char) (cs : List Char) :
    (otherLexeme c cs).text ++ (otherLexeme c cs).rest = c :: cs ∧ (otherLexeme c cs).text ≠ [] := by
  unfold otherLexeme
  split
  · next kind size h =>
    refine ⟨List.take_append_drop .., ?_⟩
    rcases fixedToken?_pos h with rfl | rfl <;> simp
  · split
    · next h => exact qualifiedName?_append h
    · simp

/-- A lexeme is not empty, and together with its rest it is the text. -/
theorem lexeme?_append {c : Char} {cs : List Char} {l : Lexeme} (h : lexeme? c cs = some l) :
    l.text ++ l.rest = c :: cs ∧ l.text ≠ [] := by
  unfold lexeme? at h
  split at h
  · unfold literal? at h
    split at h
    · cases h
    · next closing rest hd =>
      cases h
      have := List.takeWhile_append_dropWhile (p := (· != c)) (l := cs)
      rw [hd] at this
      simp [this]
  · split at h
    · cases h
      unfold number
      have happ := List.takeWhile_append_dropWhile (p := Char.isDigit) (l := cs)
      split
      · next rest hd =>
        rw [hd] at happ
        simp [List.takeWhile_append_dropWhile, happ]
      · simp [happ]
    · split at h
      · next hdot =>
        cases h
        simp only [Bool.and_eq_true, beq_iff_eq] at hdot
        simp [List.takeWhile_append_dropWhile, hdot.1]
      · split at h
        · next hd =>
          have hc : c = '$' := by simpa using hd
          split at h
          · next hq =>
            cases h
            simp [(qualifiedName?_append hq).1, hc]
          · cases h
            exact otherLexeme_append c cs
        · cases h
          exact otherLexeme_append c cs

theorem length_rest_le {c : Char} {cs : List Char} {l : Lexeme} (h : lexeme? c cs = some l) :
    l.rest.length ≤ cs.length := by
  obtain ⟨happ, hne⟩ := lexeme?_append h
  have := congrArg List.length happ
  have := List.length_pos_iff.2 hne
  simp at *
  omega

/-- Splits a text that starts at `offset` into tokens. The second part is the offset of a quote
that is never closed, where the splitting ends. -/
def scan (offset : Nat) (cs : List Char) : List Token × Option Nat :=
  match _h : cs.dropWhile isSpace with
  | [] => ([], none)
  | c :: rest =>
    let blanks := cs.takeWhile isSpace
    let start := offset + byteLength blanks
    match _hl : lexeme? c rest with
    | none => ([], some start)
    | some lexeme =>
      let (tokens, fault) := scan (start + byteLength lexeme.text) lexeme.rest
      (⟨lexeme.kind, String.ofList lexeme.text, some start, !blanks.isEmpty⟩ :: tokens, fault)
termination_by cs.length
decreasing_by
  have := length_rest_le _hl
  have hle := (List.dropWhile_suffix isSpace (l := cs)).length_le
  rw [_h] at hle
  simp at hle
  omega

/-- A bracket and where it stands. -/
structure Bracket where
  delimiter : Char
  offset : Nat

/-- The opening bracket that a closing one belongs to. -/
def opening (closing : Char) : Char := if closing == ')' then '(' else '['

/-- The bracket that a token is, if it is one. -/
def Token.bracket? (t : Token) : Option Bracket :=
  match t.kind with
  | .leftParen => some ⟨'(', t.offset.getD 0⟩
  | .rightParen => some ⟨')', t.offset.getD 0⟩
  | .leftBracket => some ⟨'[', t.offset.getD 0⟩
  | .rightBracket => some ⟨']', t.offset.getD 0⟩
  | _ => none

/-- Reads tokens with `opened` the brackets that are open, the innermost first. Gives those that
are open at the end, or fails with a closing bracket that does not match. -/
def closeBrackets (opened : List Bracket) : List Token → Except Bracket (List Bracket)
  | [] => .ok opened
  | t :: ts =>
    match t.bracket? with
    | none => closeBrackets opened ts
    | some b =>
      if b.delimiter == '(' || b.delimiter == '[' then closeBrackets (b :: opened) ts
      else
        match opened with
        | [] => .error b
        | innermost :: outer =>
          if innermost.delimiter == opening b.delimiter then closeBrackets outer ts else .error b

/-- The tokens of an expression. -/
def tokenize (source : String) : Except Error (List Token) :=
  let (tokens, unclosed) := scan 0 source.toList
  match closeBrackets [] tokens, unclosed with
  | .error b, _ => .error (.unbalancedBracket source b.delimiter b.offset)
  | .ok _, some offset => .error (.unterminatedLiteral source offset)
  | .ok (b :: _), none => .error (.unbalancedBracket source b.delimiter b.offset)
  | .ok [], none => .ok tokens

end XslLowering.Expression
