import XslLowering.Expression.Place
import XslLowering.Expression.Stream
import XslLowering.Stylesheet.Basic

/-!
# Strategies for calls that the target lacks

A `Strategy` says what takes the place of a call. The two grouping functions become paths over the
variables that a grouped iteration provides, and a callback becomes a call of the one function
through which callbacks are reached, its arguments staying where they are.
-/

namespace XslLowering.Stylesheet

open Expression

/-- What takes the place of a call, and the number of the first token after what it replaces. -/
structure Replacement where
  tokens : List Token
  stop : Nat

/-- How calls of a function are replaced. -/
inductive Strategy where
  | currentGroup
  | currentGroupingKey
  /-- Calls the callback of this name. -/
  | callback (name : String)
  /-- Anything that looks at the tokens and at the place of the expression. -/
  | custom (replace : TokenStream → Place → Attempt Error Replacement)

/-- The innermost grouped iteration around an expression, and the name of its grouping. -/
def groupingAncestor (p : Place) : Option (NodeId × String) :=
  p.enclosing.findSome? fun node =>
    if p.document.localName? node == some "for-each" && isInstruction p.document node then
      ((p.document.attribute? node "group-id").filter fun id => !id.isEmpty).map ((node, ·))
    else none

/-- Whether the name of a grouping can be the end of a variable's name. -/
def isGroupId (id : String) : Bool :=
  id.toList.all fun c => Text.isAlphanumeric c || c == '_' || c == '-' || c == '.'

/-- A path that selects nothing. -/
def emptySelection : List Token := [.slash, .ofName "xs:sequence", .slash, .star]

/-- The members of the population that are recorded under the current group. -/
def groupSelection (id : String) : List Token :=
  [.ofVariable ("current-un-grouped-" ++ id), .leftBracket, .ofName "generate-id", .leftParen, .dot,
    .rightParen, .ofOperator "=", .ofVariable ("current-group-" ++ id), .doubleSlash,
    .ofName "xsl:element-id", .rightBracket]

/-- The key in the record of the current group. -/
def groupKey (id : String) : List Token :=
  [.ofName "string", .leftParen, .ofVariable ("current-group-" ++ id), .slash, .atSign,
    .ofName "key", .rightParen]

/-- The place after a call without arguments; a call with arguments is refused. -/
def afterEmptyCall (s : TokenStream) : Except Error Nat :=
  if (s.peek? 1).any (·.kind = .leftParen) && (s.peek? 2).any (·.kind = .rightParen) then
    .ok (s.cursor + 3)
  else .error (.invalidCall ((s.current?.map (·.text)).getD "") s.source .takesNoArguments)

/-- The replacement of a grouping function: `inside` the grouping around it, or `outside` of all
groupings, which is worth a warning. -/
def replaceGrouping (callee : String) (inside : String → List Token) (outside : List Token)
    (warning : String) (s : TokenStream) (p : Place) : Attempt Error Replacement := do
  let stop ← Attempt.ofExcept (afterEmptyCall s)
  match groupingAncestor p with
  | none =>
    Attempt.note .warn s!"{callee}() used outside a grouping construct in '{s.source}'; {warning}"
    return ⟨outside, stop⟩
  | some (_, id) =>
    if isGroupId id then return ⟨inside id, stop⟩
    else throw (.invalidCall callee s.source (.invalidGroupId id))

/-- The start of a call of a callback. Name and opening parenthesis are replaced; the arguments
stay, and calls among them are replaced in their turn. -/
def callbackCall (name : String) (s : TokenStream) : Replacement :=
  let stop := min (s.cursor + 2) s.tokens.length
  let comma := if s.tokens[stop]?.any (·.kind ≠ TokenKind.rightParen) then [Token.comma] else []
  ⟨[.ofName (callbackQualifier ++ ":call"), .leftParen, .ofString name] ++ comma, stop⟩

/-- The replacement of the call that the stream is at. -/
def Strategy.replace : Strategy → TokenStream → Place → Attempt Error Replacement
  | .currentGroup, s, p =>
    replaceGrouping "current-group" groupSelection emptySelection "it selects nothing" s p
  | .currentGroupingKey, s, p =>
    replaceGrouping "current-grouping-key" groupKey [.ofString ""] "it is empty" s p
  | .callback name, s, _ => return callbackCall name s
  | .custom replace, s, p => replace s p

end XslLowering.Stylesheet
