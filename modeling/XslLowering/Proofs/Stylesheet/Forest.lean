import XslLowering.Proofs.Expression.Rendering
import XslLowering.Proofs.Stylesheet.Lowering

/-!
# Lowering as a rewrite of groups

The tokens of an expression are a `Forest` of groups in parentheses and brackets. What lowering does
is said there without a cursor, by recursion over the groups:

* `Forest.lowered`: the tokens of a forest once its calls are replaced;
* `Forest.calls`: the number of calls that are replaced;
* `Forest.faults`: what is wrong with calls of grouping functions, in the order of reading.

`exists_forest` finds the forest of an expression, and `replaceCalls_eq_forest` says that the loop
over the tokens gives what these say.
-/

namespace XslLowering.Stylesheet

open Expression

/-! ## Groups -/

/-- Whether a closing bracket belongs to an opening one. -/
def Matches (opening closing : TokenKind) : Prop :=
  opening = .leftParen ∧ closing = .rightParen ∨ opening = .leftBracket ∧ closing = .rightBracket

/-- Tokens whose brackets are well nested. -/
inductive Forest where
  | nil
  /-- A token that is no bracket, and what follows it. -/
  | leaf (t : Token) (plain : t.bracket? = none) (rest : Forest)
  /-- Two brackets, what stands between them, and what follows them. -/
  | group (opening closing : Token) (matching : Matches opening.kind closing.kind)
    (inside rest : Forest)

namespace Forest

def tokens : Forest → List Token
  | nil => []
  | leaf t _ rest => t :: rest.tokens
  | group opening closing _ inside rest =>
    opening :: (inside.tokens ++ closing :: rest.tokens)

def isEmpty : Forest → Bool
  | nil => true
  | _ => false

end Forest

/-- The list is empty or starts with a closing bracket. -/
def Closes (ts : List Token) : Prop :=
  ∀ t ∈ ts.head?, t.kind = .rightParen ∨ t.kind = .rightBracket

/-- The tokens start with a forest, up to a bracket that closes one of those that are `opened`, and
all of these are closed in the end. -/
def StartsWithForest (opened : List Char) (ts : List Token) : Prop :=
  ∃ (f : Forest) (rest : List Token), ts = f.tokens ++ rest ∧ Closes rest ∧
    nesting opened rest = some []

theorem StartsWithForest.leaf {opened : List Char} {t : Token} {ts : List Token}
    (h : StartsWithForest opened ts) (hb : t.bracket? = none) : StartsWithForest opened (t :: ts) := by
  obtain ⟨f, rest, rfl, hrest⟩ := h
  exact ⟨.leaf t hb f, rest, rfl, hrest⟩

theorem StartsWithForest.group {opened : List Char} {t c : Token} {ts : List Token}
    (h : StartsWithForest opened ts) (hm : Matches t.kind c.kind) (inside : Forest) :
    StartsWithForest opened (t :: (inside.tokens ++ c :: ts)) := by
  obtain ⟨f, rest, rfl, hrest⟩ := h
  exact ⟨.group t c hm inside f, rest, by simp [Forest.tokens], hrest⟩

/-- A bracket that is opened last is closed first. -/
theorem nest_closing {t c : Token} {opened outer inner : List Char}
    (ht : t.kind = .leftParen ∨ t.kind = .leftBracket) (hn : nest opened t.kind = some inner)
    (hc : c.kind = .rightParen ∨ c.kind = .rightBracket) (ho : nest inner c.kind = some outer) :
    Matches t.kind c.kind ∧ outer = opened := by
  rcases ht with ht | ht <;> rcases hc with hc | hc <;> rw [ht] at hn ⊢ <;> rw [hc] at ho ⊢ <;>
    cases hn <;> cases ho
  · exact ⟨.inl ⟨rfl, rfl⟩, rfl⟩
  · exact ⟨.inr ⟨rfl, rfl⟩, rfl⟩

theorem startsWithForest_of_nesting {opened : List Char} {ts : List Token}
    (h : nesting opened ts = some []) : StartsWithForest opened ts := by
  induction hn : ts.length using Nat.strongRecOn generalizing ts opened with
  | ind n ih =>
  subst hn
  cases ts with
  | nil => exact ⟨.nil, [], rfl, by simp [Closes], h⟩
  | cons t ts =>
    have leaf (hb : t.bracket? = none) (hn : nest opened t.kind = some opened) :
        StartsWithForest opened (t :: ts) := by
      rw [nesting_cons, hn] at h
      exact (ih _ (Nat.lt_succ_self _) h rfl).leaf hb
    have group (ht : t.kind = .leftParen ∨ t.kind = .leftBracket) (d : Char)
        (hn : nest opened t.kind = some (d :: opened)) : StartsWithForest opened (t :: ts) := by
      rw [nesting_cons, hn] at h
      obtain ⟨inside, rest, rfl, hcloses, hrest⟩ := ih _ (Nat.lt_succ_self _) h rfl
      cases rest with
      | nil => cases hrest
      | cons c rest =>
        rw [nesting_cons, Option.bind_eq_some_iff] at hrest
        obtain ⟨outer, ho, hrest⟩ := hrest
        obtain ⟨hm, rfl⟩ := nest_closing ht hn (hcloses c rfl) ho
        refine (ih rest.length ?_ hrest rfl).group hm inside
        simp only [List.length_cons, List.length_append]
        omega
    have close (hk : t.kind = .rightParen ∨ t.kind = .rightBracket) :
        StartsWithForest opened (t :: ts) :=
      ⟨.nil, t :: ts, rfl, by simpa [Closes] using hk, h⟩
    cases hk : t.kind with
    | leftParen => exact group (.inl hk) '(' (by rw [hk]; rfl)
    | leftBracket => exact group (.inr hk) '[' (by rw [hk]; rfl)
    | rightParen => exact close (.inl hk)
    | rightBracket => exact close (.inr hk)
    | _ => exact leaf (by simp [Token.bracket?, hk]) (by rw [hk]; rfl)

/-- The tokens of an expression are a forest. -/
theorem exists_forest {source : String} {tokens : List Token} (h : tokenize source = .ok tokens) :
    ∃ f : Forest, f.tokens = tokens := by
  obtain ⟨f, rest, rfl, hcloses, hrest⟩ := startsWithForest_of_nesting (tokenize_eq_ok_iff.1 h).2
  cases rest with
  | nil => exact ⟨f, (List.append_nil _).symm⟩
  | cons c rest =>
    rw [nesting_cons] at hrest
    rcases hcloses c rfl with hk | hk <;> rw [hk] at hrest <;> cases hrest

/-! ## Calls -/

/-- A function whose calls are replaced: one that stands for tokens inside a grouping and for others
outside of all groupings, or a callback. -/
inductive Callee where
  | grouping (inside : String → List Token) (outside : List Token)
  | callback

/-- The function that is called where `t` stands directly before the group that `opening` opens. -/
def callee? (registry : Callback.Registry) (t opening : Token) : Option Callee :=
  if t.kind = .name ∧ opening.kind = .leftParen then
    if t.text = "current-group" then some (.grouping groupSelection emptySelection)
    else if t.text = "current-grouping-key" then some (.grouping groupKey [.ofString ""])
    else if registry.contains t.text then some .callback
    else none
  else none

/-- What is wrong with a call of a grouping function. -/
def groupingFault? (place : Place) (source name : String) (arguments : Forest) :
    Option Expression.Error :=
  if arguments.isEmpty then
    match groupingAncestor place with
    | none => none
    | some (_, id) =>
      if isGroupId id then none else some (.invalidCall name source (.invalidGroupId id))
  else some (.invalidCall name source .takesNoArguments)

/-- What a call of a grouping function becomes. -/
def groupingReplacement (place : Place) (inside : String → List Token) (outside : List Token) :
    List Token :=
  match groupingAncestor place with
  | none => outside
  | some (_, id) => inside id

/-- What the name of a callback and the parenthesis after it become. -/
def callbackReplacement (name : String) (arguments : Forest) : List Token :=
  [.ofName "ext:call", .leftParen, .ofString name] ++
    if arguments.isEmpty then [] else [.comma]

namespace Forest

variable (registry : Callback.Registry) (place : Place) (source : String)

/-- The tokens once calls are replaced. The first token of a replacement is spaced as the call was,
and the arguments of a callback are lowered in their turn. -/
def lowered : Forest → List Token
  | nil => []
  | leaf t _ (group opening closing _ inside rest) =>
    match callee? registry t opening with
    | some (.grouping within outside) =>
      withSpacing t.spaced (groupingReplacement place within outside) ++ rest.lowered
    | some .callback =>
      withSpacing t.spaced (callbackReplacement t.text inside) ++
        (inside.lowered ++ closing :: rest.lowered)
    | none => t :: opening :: (inside.lowered ++ closing :: rest.lowered)
  | leaf t _ rest => t :: rest.lowered
  | group opening closing _ inside rest => opening :: (inside.lowered ++ closing :: rest.lowered)

/-- The number of calls that are replaced. -/
def calls : Forest → Nat
  | nil => 0
  | leaf t _ (group opening _ _ inside rest) =>
    (if (callee? registry t opening).isSome then 1 else 0) + (inside.calls + rest.calls)
  | leaf _ _ rest => rest.calls
  | group _ _ _ inside rest => inside.calls + rest.calls

/-- What is wrong with calls of grouping functions, in the order of reading. -/
def faults : Forest → List Expression.Error
  | nil => []
  | leaf t _ (group opening _ _ inside rest) =>
    (match callee? registry t opening with
      | some (.grouping _ _) => (groupingFault? place source t.text inside).toList
      | _ => []) ++ (inside.faults ++ rest.faults)
  | leaf _ _ rest => rest.faults
  | group _ _ _ inside rest => inside.faults ++ rest.faults

end Forest

/-! ## The loop over the tokens -/

/-- What lowering gives when it has put down some tokens for some calls and goes on with `result`,
unless it has met a fault. -/
def goOn (faults : List Expression.Error) (put : List Token) (calls : Nat)
    (result : Except Expression.Error (List Token × Nat)) :
    Except Expression.Error (List Token × Nat) :=
  match faults with
  | [] => result.map fun (us, count) => (put ++ us, calls + count)
  | e :: _ => .error e

theorem goOn_goOn (fs gs : List Expression.Error) (us vs : List Token) (m n : Nat)
    (result : Except Expression.Error (List Token × Nat)) :
    goOn fs us m (goOn gs vs n result) = goOn (fs ++ gs) (us ++ vs) (m + n) result := by
  cases fs with
  | cons e fs => rfl
  | nil =>
    cases gs with
    | cons e gs => rfl
    | nil =>
      cases result with
      | error e => rfl
      | ok result => simp [goOn, Except.map, Nat.add_assoc]

variable {registry : Callback.Registry} {functions : FunctionMap} {place : Place} {source : String}

/-- A token that calls nothing is kept. -/
theorem lowerCalls_keep {t : Token} {ts : List Token} (h : functions.callee? t ts = none) :
    lowerCalls functions place source (t :: ts) =
      goOn [] [t] 0 (lowerCalls functions place source ts) := by
  rw [lowerCalls_cons, lowerStep, h]
  rfl

theorem lowerCalls_bracket {t : Token} (h : t.kind ≠ .name) (ts : List Token) :
    lowerCalls functions place source (t :: ts) =
      goOn [] [t] 0 (lowerCalls functions place source ts) := by
  refine lowerCalls_keep ?_
  cases ts with
  | nil => rfl
  | cons next ts => simp [FunctionMap.callee?, h]

/-- A name calls nothing where no parenthesis is opened after it. -/
theorem lowerCalls_leaf {t : Token} {ts : List Token}
    (h : ∀ next ∈ ts.head?, next.kind ≠ .leftParen) :
    lowerCalls functions place source (t :: ts) =
      goOn [] [t] 0 (lowerCalls functions place source ts) := by
  refine lowerCalls_keep ?_
  cases ts with
  | nil => rfl
  | cons next ts => simp [FunctionMap.callee?, h next rfl]

theorem any_head_tokens {c : Token} (hc : c.kind = .rightParen) (f : Forest) (ts : List Token) :
    (f.tokens ++ c :: ts).head?.any (·.kind = .rightParen) = f.isEmpty := by
  cases f with
  | nil => simp [Forest.tokens, Forest.isEmpty, hc]
  | leaf t plain rest =>
    have : t.kind ≠ .rightParen := fun hk => by simp [Token.bracket?, hk] at plain
    simp [Forest.tokens, Forest.isEmpty, this]
  | group opening closing matching inside rest =>
    have : opening.kind ≠ .rightParen := by
      rcases matching with ⟨hk, -⟩ | ⟨hk, -⟩ <;> simp [hk]
    simp [Forest.tokens, Forest.isEmpty, this]

/-- The function that is called is the one that the map has a strategy for. -/
theorem callee?_builtFrom (hf : functions.BuiltFrom registry) (t opening : Token)
    (ts : List Token) :
    match callee? registry t opening with
    | none => functions.callee? t (opening :: ts) = none
    | some .callback =>
      functions.callee? t (opening :: ts) = some (.callback t.text) ∧ opening.kind = .leftParen
    | some (.grouping within outside) =>
      ∃ strategy, functions.callee? t (opening :: ts) = some strategy ∧
        opening.kind = .leftParen ∧ (strategy = .currentGroup ∨ strategy = .currentGroupingKey) ∧
        ∀ source place, strategy.groupingTokens source place =
          groupingTokens t.text within outside source place := by
  simp only [FunctionMap.callee?, callee?, hf.get?]
  split_ifs with hk hg hkey hcontains
  · exact ⟨_, rfl, hk.2, .inl rfl, fun _ _ => by rw [hg]; rfl⟩
  · exact ⟨_, rfl, hk.2, .inr rfl, fun _ _ => by rw [hkey]; rfl⟩
  · exact ⟨rfl, hk.2⟩
  · rfl
  · rfl

/-- Where a callback is called, the arguments are lowered next. -/
theorem lowerCalls_callback {t opening closing : Token} {arguments : Forest} {ts : List Token}
    (h : functions.callee? t (opening :: (arguments.tokens ++ closing :: ts)) =
      some (.callback t.text))
    (hc : closing.kind = .rightParen) :
    lowerCalls functions place source (t :: opening :: (arguments.tokens ++ closing :: ts)) =
      goOn [] (withSpacing t.spaced (callbackReplacement t.text arguments)) 1
        (lowerCalls functions place source (arguments.tokens ++ closing :: ts)) := by
  have hcomma : (arguments.tokens ++ closing :: ts).head?.any (·.kind ≠ .rightParen) =
      !arguments.isEmpty := by
    rw [← any_head_tokens hc arguments ts]
    cases arguments.tokens <;> simp
  have hput : callbackTokens t.text (arguments.tokens ++ closing :: ts) =
      callbackReplacement t.text arguments := by
    rw [callbackTokens, callbackReplacement, hcomma,
      show callbackQualifier ++ ":call" = "ext:call" by decide]
    cases arguments.isEmpty <;> rfl
  rw [lowerCalls_cons, lowerStep, h]
  simp only [List.drop_succ_cons, List.drop_zero, hput]
  rfl

/-- Where a grouping function is called, all of the call is replaced, or it is a fault. -/
theorem lowerCalls_grouping {t opening closing : Token} {arguments : Forest} {ts : List Token}
    {strategy : Strategy} {within : String → List Token} {outside : List Token}
    (h : functions.callee? t (opening :: (arguments.tokens ++ closing :: ts)) = some strategy)
    (hs : strategy = .currentGroup ∨ strategy = .currentGroupingKey)
    (ht : strategy.groupingTokens source place =
      groupingTokens t.text within outside source place)
    (hc : closing.kind = .rightParen) :
    lowerCalls functions place source (t :: opening :: (arguments.tokens ++ closing :: ts)) =
      goOn (groupingFault? place source t.text arguments).toList
        (withSpacing t.spaced (groupingReplacement place within outside)) 1
        (lowerCalls functions place source ts) := by
  have hl : lowerStep functions place source t (opening :: (arguments.tokens ++ closing :: ts)) =
      if arguments.isEmpty then
        (groupingTokens t.text within outside source place).map fun tokens =>
          ⟨withSpacing t.spaced tokens, (arguments.tokens ++ closing :: ts).drop 1, 1⟩
      else .error (.invalidCall t.text source .takesNoArguments) := by
    rw [lowerStep_grouping h hs, ht, ← any_head_tokens hc arguments ts]
  rw [lowerCalls_cons, hl, groupingFault?, groupingReplacement, groupingTokens]
  cases arguments with
  | nil =>
    simp only [Forest.isEmpty, ↓reduceIte]
    cases groupingAncestor place with
    | none => rfl
    | some found => cases hid : isGroupId found.2 <;> simp [hid] <;> rfl
  | leaf _ _ _ => rfl
  | group _ _ _ _ _ => rfl

theorem Matches.ne_name {opening closing : TokenKind} (h : Matches opening closing) :
    opening ≠ .name ∧ closing ≠ .name := by
  rcases h with ⟨rfl, rfl⟩ | ⟨rfl, rfl⟩ <;> decide

theorem Matches.closing_rightParen {opening closing : TokenKind} (h : Matches opening closing)
    (ho : opening = .leftParen) : closing = .rightParen := by
  rcases h with ⟨-, rfl⟩ | ⟨rfl, -⟩
  · rfl
  · cases ho

theorem Forest.tokens_call {t opening closing : Token} (plain : t.bracket? = none)
    (hm : Matches opening.kind closing.kind) (inside rest : Forest) (ts : List Token) :
    (Forest.leaf t plain (.group opening closing hm inside rest)).tokens ++ ts =
      t :: opening :: (inside.tokens ++ closing :: (rest.tokens ++ ts)) := by
  simp [Forest.tokens]

/-- The tokens of a group are kept around what stands between them. -/
theorem lowerCalls_group {opening closing : Token} (hm : Matches opening.kind closing.kind)
    {inside rest : Forest} {ts : List Token}
    (hinside : ∀ {us}, Closes us → lowerCalls functions place source (inside.tokens ++ us) =
      goOn (inside.faults registry place source) (inside.lowered registry place)
        (inside.calls registry) (lowerCalls functions place source us))
    (hrest : lowerCalls functions place source (rest.tokens ++ ts) =
      goOn (rest.faults registry place source) (rest.lowered registry place)
        (rest.calls registry) (lowerCalls functions place source ts)) :
    lowerCalls functions place source (inside.tokens ++ closing :: (rest.tokens ++ ts)) =
      goOn (inside.faults registry place source ++ rest.faults registry place source)
        (inside.lowered registry place ++ closing :: rest.lowered registry place)
        (inside.calls registry + rest.calls registry) (lowerCalls functions place source ts) := by
  have hclosing : Closes (closing :: (rest.tokens ++ ts)) := by
    rcases hm with ⟨-, hk⟩ | ⟨-, hk⟩ <;> simp [Closes, hk]
  rw [hinside hclosing, lowerCalls_bracket hm.ne_name.2, hrest, goOn_goOn, goOn_goOn]
  simp

/-- The tokens of a forest are lowered as the forest is. -/
theorem lowerCalls_tokens (hf : functions.BuiltFrom registry) (f : Forest) {ts : List Token}
    (hts : Closes ts) :
    lowerCalls functions place source (f.tokens ++ ts) =
      goOn (f.faults registry place source) (f.lowered registry place) (f.calls registry)
        (lowerCalls functions place source ts) := by
  induction f using Forest.lowered.induct registry generalizing ts with
  | case1 =>
    cases h : lowerCalls functions place source ts <;>
      simp [Forest.tokens, Forest.faults, Forest.lowered, Forest.calls, goOn, Except.map, h]
  | case2 t plain opening closing hm inside rest within outside hc ih =>
    have hs := callee?_builtFrom hf t opening (inside.tokens ++ closing :: (rest.tokens ++ ts))
    rw [hc] at hs
    obtain ⟨strategy, hs, ho, hg, hput⟩ := hs
    rw [Forest.tokens_call, lowerCalls_grouping hs hg (hput source place) (hm.closing_rightParen ho),
      ih hts]
    simp only [Forest.faults, Forest.lowered, Forest.calls, hc, Option.isSome_some, ↓reduceIte]
    -- Arguments are a fault, which hides those among them.
    cases inside with
    | nil => simp [goOn_goOn, Forest.faults, Forest.calls]
    | leaf _ _ _ => rfl
    | group _ _ _ _ _ => rfl
  | case3 t plain opening closing hm inside rest hc ihInside ihRest =>
    have hs := callee?_builtFrom hf t opening (inside.tokens ++ closing :: (rest.tokens ++ ts))
    rw [hc] at hs
    rw [Forest.tokens_call, lowerCalls_callback hs.1 (hm.closing_rightParen hs.2),
      lowerCalls_group hm ihInside (ihRest hts), goOn_goOn]
    simp [Forest.faults, Forest.lowered, Forest.calls, hc]
  | case4 t plain opening closing hm inside rest hc ihInside ihRest =>
    have hs := callee?_builtFrom hf t opening (inside.tokens ++ closing :: (rest.tokens ++ ts))
    rw [hc] at hs
    rw [Forest.tokens_call, lowerCalls_keep hs, lowerCalls_bracket hm.ne_name.1,
      lowerCalls_group hm ihInside (ihRest hts), goOn_goOn, goOn_goOn]
    simp [Forest.faults, Forest.lowered, Forest.calls, hc]
  | case5 t plain rest hrest ih =>
    have hnext : ∀ next ∈ (rest.tokens ++ ts).head?, next.kind ≠ .leftParen := by
      cases rest with
      | nil =>
        intro next hn
        rcases hts next hn with hk | hk <;> simp [hk]
      | leaf u plain rest =>
        intro next hn
        cases hn
        exact fun hk => by simp [Token.bracket?, hk] at plain
      | group opening closing hm inside rest => exact absurd rfl (hrest opening closing hm inside rest)
    rw [Forest.tokens, List.cons_append, lowerCalls_leaf hnext, ih hts, goOn_goOn]
    simp [Forest.faults, Forest.lowered, Forest.calls]
  | case6 opening closing hm inside rest ihInside ihRest =>
    simp only [Forest.tokens, List.cons_append, List.append_assoc, Forest.faults, Forest.lowered,
      Forest.calls]
    rw [lowerCalls_bracket hm.ne_name.1, lowerCalls_group hm ihInside (ihRest hts), goOn_goOn]
    simp

/-- The loop over the tokens of an expression gives what a recursion over its groups says: the
tokens with calls replaced and the number of calls, or the first fault. -/
theorem replaceCalls_eq_forest (hf : functions.BuiltFrom registry) {tokens : List Token}
    (ht : tokenize source = .ok tokens) :
    (∃ f : Forest, f.tokens = tokens) ∧
      ∀ f : Forest, f.tokens = tokens →
        (replaceCalls functions place ⟨source, tokens, 0⟩).result =
          match f.faults registry place source with
          | [] =>
            .ok (⟨source, f.lowered registry place, (f.lowered registry place).length⟩,
              f.calls registry)
          | e :: _ => .error e := by
  refine ⟨exists_forest ht, ?_⟩
  rintro f rfl
  have h : lowerCalls functions place source (f.tokens ++ []) =
      goOn (f.faults registry place source) (f.lowered registry place) (f.calls registry)
        (lowerCalls functions place source []) :=
    lowerCalls_tokens hf f (by simp [Closes])
  rw [List.append_nil, lowerCalls_nil] at h
  rw [replaceCalls_eq_lowerCalls hf.plain, h]
  cases f.faults registry place source with
  | nil => simp [goOn, Except.map]
  | cons e faults => rfl

/-- A grouping function among the arguments of a callback, in a grouped iteration: both calls are
replaced, and the blanks before them stay. -/
theorem replaceCalls_nested_calls :
    ∃ functions tokens s,
      FunctionMap.BuiltFrom (Callback.Registry.empty.register "f" (.redirect "f")) functions ∧
      tokenize "1 + f( current-group())" = .ok tokens ∧
      (replaceCalls functions inGrouping ⟨"1 + f( current-group())", tokens, 0⟩).result =
        .ok (s, 2) ∧
      s.render = "1 + ext:call('f', $current-un-grouped-g[generate-id(.)=" ++
        "$current-group-g//xsl:element-id])" := by
  have hf : (FunctionMap.ofCallback "f").BuiltFrom (.register .empty "f" (.redirect "f")) :=
    FunctionMap.builtFrom_ofCallback _ (by decide) (by decide)
  have ht : tokenize "1 + f( current-group())" = .ok
      [⟨.numberLiteral, "1", some 0, false⟩, ⟨.operator, "+", some 2, true⟩,
        ⟨.name, "f", some 4, true⟩, ⟨.leftParen, "(", some 5, false⟩,
        ⟨.name, "current-group", some 7, true⟩, ⟨.leftParen, "(", some 20, false⟩,
        ⟨.rightParen, ")", some 21, false⟩, ⟨.rightParen, ")", some 22, false⟩] := by decide +kernel
  obtain ⟨f, htokens, hfaults, hcalls, hrender⟩ : ∃ f : Forest, f.tokens =
        [⟨.numberLiteral, "1", some 0, false⟩, ⟨.operator, "+", some 2, true⟩,
          ⟨.name, "f", some 4, true⟩, ⟨.leftParen, "(", some 5, false⟩,
          ⟨.name, "current-group", some 7, true⟩, ⟨.leftParen, "(", some 20, false⟩,
          ⟨.rightParen, ")", some 21, false⟩, ⟨.rightParen, ")", some 22, false⟩] ∧
      f.faults (Callback.Registry.empty.register "f" (.redirect "f")) inGrouping
        "1 + f( current-group())" = [] ∧
      f.calls (Callback.Registry.empty.register "f" (.redirect "f")) = 2 ∧
      String.ofList (renderTokens (f.lowered (Callback.Registry.empty.register "f" (.redirect "f"))
        inGrouping)) = "1 + ext:call('f', $current-un-grouped-g[generate-id(.)=" ++
          "$current-group-g//xsl:element-id])" :=
    ⟨.leaf ⟨.numberLiteral, "1", some 0, false⟩ rfl (.leaf ⟨.operator, "+", some 2, true⟩ rfl
      (.leaf ⟨.name, "f", some 4, true⟩ rfl
        (.group ⟨.leftParen, "(", some 5, false⟩ ⟨.rightParen, ")", some 22, false⟩ (.inl ⟨rfl, rfl⟩)
          (.leaf ⟨.name, "current-group", some 7, true⟩ rfl
            (.group ⟨.leftParen, "(", some 20, false⟩ ⟨.rightParen, ")", some 21, false⟩
              (.inl ⟨rfl, rfl⟩) .nil .nil)) .nil))),
      rfl, by decide +kernel, by decide +kernel, by decide +kernel⟩
  have h : (replaceCalls _ inGrouping _).result = _ := (replaceCalls_eq_forest hf ht).2 f htokens
  rw [hfaults, hcalls] at h
  exact ⟨_, _, _, hf, ht, h, hrender⟩

end XslLowering.Stylesheet
