import XslLowering.Stylesheet.FunctionMap

/-!
# Compiling expressions

`replaceCalls` goes through the tokens of an expression from left to right. Where a name stands directly
before an opening parenthesis and has a strategy, the call is replaced and reading goes on after the
replacement, which is not looked into. The tokens that are left to read get fewer with every step.
`compile` does so for the text of an expression.
-/

namespace XslLowering.Stylesheet

open Expression

/-- The strategy for the call that the stream is at, if it is at one. -/
def FunctionMap.callAt? (m : FunctionMap) (s : TokenStream) : Option Strategy :=
  match s.current?, s.peek? 1 with
  | some t, some next => if t.kind = .name ∧ next.kind = .leftParen then m.get? t.text else none
  | _, _ => none

/-- The first token of a replacement is spaced as the call was. -/
def withSpacing (spaced : Bool) : List Token → List Token
  | [] => []
  | t :: ts => { t with spaced } :: ts

@[simp] theorem length_withSpacing (spaced : Bool) (ts : List Token) :
    (withSpacing spaced ts).length = ts.length := by
  cases ts <;> rfl

/-- Puts tokens in place of those from the cursor up to `stop`, and goes to what follows them. -/
def putTokens (s : TokenStream) (stop : Nat) (tokens : List Token) : TokenStream :=
  (s.splice s.cursor stop tokens).seek (s.cursor + tokens.length)

theorem lt_of_current? {s : TokenStream} {t : Token} (h : s.current? = some t) :
    s.cursor < s.tokens.length :=
  (List.getElem?_eq_some_iff.1 h).1

theorem remaining_advance {s : TokenStream} {t : Token} (h : s.current? = some t) :
    s.advance.tokens.length - s.advance.cursor < s.tokens.length - s.cursor := by
  have := lt_of_current? h
  simp only [TokenStream.advance, TokenStream.seek]
  omega

theorem remaining_putTokens {s : TokenStream} {stop : Nat} (tokens : List Token)
    (h : s.cursor < stop) (hs : stop ≤ s.tokens.length) :
    (putTokens s stop tokens).tokens.length - (putTokens s stop tokens).cursor <
      s.tokens.length - s.cursor := by
  simp only [putTokens, TokenStream.seek, TokenStream.splice, List.length_append, List.length_take,
    List.length_drop]
  omega

/-- Replaces the calls from the cursor on, and counts them. -/
def replaceCallsFrom (functions : FunctionMap) (place : Place) (s : TokenStream) :
    Attempt Error (TokenStream × Nat) :=
  match _h : s.current? with
  | none => return (s, 0)
  | some token =>
    match functions.callAt? s with
    | none => replaceCallsFrom functions place s.advance
    | some strategy => do
      let replacement ← strategy.replace s place
      let stop := min replacement.stop s.tokens.length
      if _hstop : s.cursor < stop then
        let tokens := withSpacing token.spaced replacement.tokens
        Attempt.note .trace
          s!"Replacing '{token.text}' tokens {s.cursor}..{stop} with {tokens.length} tokens"
        let (s', count) ← replaceCallsFrom functions place (putTokens s stop tokens)
        return (s', count + 1)
      else throw (.invalidCall token.text s.source .notConsumed)
termination_by s.tokens.length - s.cursor
decreasing_by
  · exact remaining_advance _h
  · exact remaining_putTokens _ _hstop (Nat.min_le_right ..)

/-- Replaces all calls, and counts them. -/
def replaceCalls (functions : FunctionMap) (place : Place) (s : TokenStream) :
    Attempt Error (TokenStream × Nat) :=
  replaceCallsFrom functions place (s.seek 0)

/-- Lowers an expression. -/
def compile (functions : FunctionMap) (place : Place) (expression : String) :
    Attempt Error String := do
  let s ← TokenStream.read expression
  let (s, count) ← replaceCalls functions place s
  let compiled := s.render
  if count ≠ 0 then
    Attempt.note .debug s!"Compiled '{expression}' -> '{compiled}' ({count} rewrites)"
  return compiled

end XslLowering.Stylesheet
