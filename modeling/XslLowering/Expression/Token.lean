/-!
# Tokens of an expression

A token is a piece of an expression together with where it stood. Tokens that a replacement puts in
place of a call stood nowhere: they have no offset and no blank before them.
-/

namespace XslLowering.Expression

/-- What a token is. Kinds that stand for several texts, such as operators, are told apart by the
text. -/
inductive TokenKind where
  /-- A name, qualified or not: tests, functions, axes and the operators written as words. -/
  | name
  /-- `$name` -/
  | varRef
  | stringLiteral
  | numberLiteral
  | operator
  | slash
  | doubleSlash
  /-- `::` -/
  | axisSeparator
  | atSign
  | dot
  | dotDot
  | star
  | comma
  | leftParen
  | rightParen
  | leftBracket
  | rightBracket
  /-- A character that starts no other token; it is passed on as it is. -/
  | unknown
deriving DecidableEq

/-- Kinds of tokens that would grow into one if they stood side by side. -/
def TokenKind.isWordLike : TokenKind → Bool
  | .name | .varRef | .numberLiteral => true
  | _ => false

/-- A token that was read from an expression, or that a replacement has put there. -/
structure Token where
  kind : TokenKind
  text : String
  /-- Where the token starts in its expression, in bytes; absent for tokens of a replacement. -/
  offset : Option Nat
  /-- Whether a blank stood directly before the token. -/
  spaced : Bool
deriving DecidableEq

namespace Token

/-- A token that comes from no expression. -/
def synthetic (kind : TokenKind) (text : String) : Token := ⟨kind, text, none, false⟩

def ofName (text : String) : Token := synthetic .name text

/-- A reference to the variable called `name`. -/
def ofVariable (name : String) : Token := synthetic .varRef ("$" ++ name)

/-- A literal with this content, in apostrophes unless the content has one. -/
def ofString (content : String) : Token :=
  if content.toList.contains '\x27' then synthetic .stringLiteral ("\x22" ++ content ++ "\x22")
  else synthetic .stringLiteral ("'" ++ content ++ "'")

def ofOperator (text : String) : Token := synthetic .operator text

def slash : Token := synthetic .slash "/"

def doubleSlash : Token := synthetic .doubleSlash "//"

def atSign : Token := synthetic .atSign "@"

def dot : Token := synthetic .dot "."

def star : Token := synthetic .star "*"

def comma : Token := synthetic .comma ","

def leftParen : Token := synthetic .leftParen "("

def rightParen : Token := synthetic .rightParen ")"

def leftBracket : Token := synthetic .leftBracket "["

def rightBracket : Token := synthetic .rightBracket "]"

def isSynthetic (t : Token) : Bool := t.offset.isNone

/-- The blank written between two neighbours: one space where the second was spaced, and one where
a replacement has put two words side by side. -/
def gap (previous next : Token) : List Char :=
  let fuses := (previous.isSynthetic || next.isSynthetic) && previous.kind.isWordLike &&
    next.kind.isWordLike
  if next.spaced || fuses then [' '] else []

end Token

/-- Writes tokens that follow `previous`. -/
def renderAfter (previous : Token) : List Token → List Char
  | [] => []
  | t :: ts => previous.gap t ++ t.text.toList ++ renderAfter t ts

/-- Writes tokens as an expression. -/
def renderTokens : List Token → List Char
  | [] => []
  | t :: ts => t.text.toList ++ renderAfter t ts

end XslLowering.Expression
