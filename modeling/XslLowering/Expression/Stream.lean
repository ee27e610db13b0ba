import XslLowering.Attempt
import XslLowering.Expression.Lexer

/-!
# Token streams

The tokens of an expression, with a place in them where reading goes on. The place is never beyond
the end of the tokens (`cursor_seek_le`, `cursor_splice_le`).
-/

namespace XslLowering.Expression

/-- Tokens, those before the cursor being read. -/
structure TokenStream where
  /-- The expression that the tokens were read from. -/
  source : String
  tokens : List Token
  cursor : Nat
deriving DecidableEq

namespace TokenStream

/-- The stream of an expression, at its start. -/
def read (source : String) : Attempt Error TokenStream :=
  match tokenize source with
  | .error e => throw e
  | .ok tokens => do
    Attempt.note .trace s!"Tokenized '{source}' into {tokens.length} tokens"
    return ⟨source, tokens, 0⟩

def size (s : TokenStream) : Nat := s.tokens.length

/-- Goes to the token with this number, or to the end if there is none. -/
def seek (s : TokenStream) (index : Nat) : TokenStream :=
  { s with cursor := min index s.tokens.length }

def advance (s : TokenStream) : TokenStream := s.seek (s.cursor + 1)

/-- The token that is `ahead` tokens further on. -/
def peek? (s : TokenStream) (ahead : Nat) : Option Token := s.tokens[s.cursor + ahead]?

def current? (s : TokenStream) : Option Token := s.peek? 0

def atEnd (s : TokenStream) : Bool := s.tokens.length ≤ s.cursor

/-- Replaces the tokens from `start` up to `stop`, both of which are taken back into the stream. The
cursor stays where it is, unless the stream gets too short for it. -/
def splice (s : TokenStream) (start stop : Nat) (replacement : List Token) : TokenStream :=
  let stop := min stop s.tokens.length
  let start := min start stop
  { s with tokens := s.tokens.take start ++ replacement ++ s.tokens.drop stop }.seek s.cursor

/-- The text of the expression that the tokens make up now. -/
def render (s : TokenStream) : String := String.ofList (renderTokens s.tokens)

@[simp] theorem tokens_seek (s : TokenStream) (i : Nat) : (s.seek i).tokens = s.tokens := rfl

theorem cursor_seek_le (s : TokenStream) (i : Nat) : (s.seek i).cursor ≤ (s.seek i).tokens.length :=
  Nat.min_le_right ..

theorem cursor_splice_le (s : TokenStream) (start stop : Nat) (replacement : List Token) :
    (s.splice start stop replacement).cursor ≤ (s.splice start stop replacement).tokens.length :=
  Nat.min_le_right ..

end TokenStream

end XslLowering.Expression
