import XslLowering.Proofs.Expression.Rendering

/-!
# Expressions put together as text

`Reads` says which tokens a text has, up to where they stand (`reads_of_scan`, `Reads.exists_scan`).
Texts that are joined with a divider between them have the tokens of both (`Reads.append`), so that
arguments joined with commas have the tokens of all of them (`reads_intercalate`).

The way back is `splitAtCommas`, which splits tokens at the commas outside of all brackets. It gives
the arguments back exactly if none of them has such a comma itself
(`splitAtCommas_intercalate_eq_iff`).
-/

namespace XslLowering.Expression

open Text

/-! ## Tokens of joined texts -/

/-- The text has these tokens, given by their kinds and texts. -/
inductive Reads : List Char → List (TokenKind × String) → Prop
  | blank {cs : List Char} : (∀ c ∈ cs, isSpace c = true) → Reads cs []
  | token {blanks rest : List Char} {t : Token} {keys : List (TokenKind × String)} :
    (∀ b ∈ blanks, isSpace b = true) → t.HasText → EndsBefore t.kind t.text.toList rest →
    Reads rest keys → Reads (blanks ++ (t.text.toList ++ rest)) (t.key :: keys)

theorem reads_of_scan {offset : Nat} {cs : List Char} {ts : List Token}
    (h : scan offset cs = (ts, none)) : Reads cs (ts.map Token.key) := by
  induction ts generalizing offset cs with
  | nil => exact .blank (isSpace_of_scan_nil h)
  | cons t ts ih =>
    obtain ⟨blanks, rest, rfl, hblanks, -, -, ht, he, hscan⟩ := scan_eq_cons h
    exact .token hblanks ht he (ih hscan)

theorem Reads.exists_scan {cs : List Char} {keys : List (TokenKind × String)} (h : Reads cs keys)
    (offset : Nat) : ∃ ts, scan offset cs = (ts, none) ∧ ts.map Token.key = keys := by
  induction h generalizing offset with
  | blank h => exact ⟨[], scan_of_blank (List.dropWhile_eq_nil_iff.2 h) offset, rfl⟩
  | @token blanks rest t keys hblanks ht he _ ih =>
    obtain ⟨ts, hscan, rfl⟩ := ih (offset + byteLength blanks + byteLength t.text.toList)
    have htoken := scan_token ht he hblanks offset
    rw [hscan] at htoken
    exact ⟨_, htoken, rfl⟩

/-- Blanks before a text are not read. -/
theorem Reads.blanks_append {cs blanks : List Char} {keys : List (TokenKind × String)}
    (h : Reads cs keys) (hb : ∀ b ∈ blanks, isSpace b = true) : Reads (blanks ++ cs) keys := by
  cases h with
  | blank h => exact .blank (List.forall_mem_append.2 ⟨hb, h⟩)
  | token hblanks ht he h =>
    rw [← List.append_assoc]
    exact .token (List.forall_mem_append.2 ⟨hb, hblanks⟩) ht he h

theorem Reads.cons {t : Token} {rest : List Char} {keys : List (TokenKind × String)} (ht : t.HasText)
    (he : EndsBefore t.kind t.text.toList rest) (h : Reads rest keys) :
    Reads (t.text.toList ++ rest) (t.key :: keys) :=
  @Reads.token [] rest t keys (List.forall_mem_nil _) ht he h

/-- A token that ends before a text ends there too if the text is followed by a divider. -/
theorem endsBefore_append_divider {kind : TokenKind} {text rest after : List Char} {c : Char}
    (h : EndsBefore kind text rest) (hc : isDivider c = true) :
    EndsBefore kind text (rest ++ c :: after) := by
  cases rest with
  | nil => exact endsBefore_divider hc ..
  | cons d rest =>
    have hend : EndsBefore kind text (d :: rest ++ []) := by rwa [List.append_nil]
    exact endsBefore_append hend (List.cons_ne_nil _ _) (leadsAs_divider hc [] after)

/-- No token goes on over a divider. -/
theorem Reads.append {cs after : List Char} {c : Char} {keys others : List (TokenKind × String)}
    (h : Reads cs keys) (hc : isDivider c = true) (ho : Reads (c :: after) others) :
    Reads (cs ++ c :: after) (keys ++ others) := by
  induction h with
  | blank h => exact ho.blanks_append h
  | token hblanks ht he _ ih =>
    rw [List.append_assoc, List.append_assoc]
    exact .token hblanks ht (endsBefore_append_divider he hc) ih

/-- Texts joined with commas have the tokens of all of them. -/
theorem reads_intercalate {args : List (List Char)} {groups : List (List (TokenKind × String))}
    (h : List.Forall₂ Reads args groups) (hne : args ≠ []) {after : List Char} {c : Char}
    {others : List (TokenKind × String)} (hc : isDivider c = true) (ho : Reads (c :: after) others) :
    Reads (List.intercalate [',', ' '] args ++ c :: after)
      (List.intercalate [Token.comma.key] groups ++ others) := by
  induction h with
  | nil => exact absurd rfl hne
  | @cons arg group args groups harg hargs ih =>
    cases hargs with
    | nil => simpa using harg.append hc ho
    | @cons next nextGroup args groups hnext hargs =>
      have hrest := ih (List.cons_ne_nil _ _)
      have hcomma : Token.comma.HasText := hasText_synthetic rfl rfl
      have hjoined : Reads (',' :: ' ' :: (List.intercalate [',', ' '] (next :: args) ++ c :: after))
          (Token.comma.key :: (List.intercalate [Token.comma.key] (nextGroup :: groups) ++ others)) :=
        .cons hcomma (endsBefore_of_head fun _ _ _ => rfl)
          (hrest.blanks_append (List.forall_mem_singleton.2 rfl))
      have hboth := harg.append (show isDivider ',' = true from rfl) hjoined
      simpa [List.intercalate_cons_cons] using hboth

/-- The brackets of joined tokens are well nested if those of each of them are. -/
theorem nesting_intercalate {groups : List (List Token)}
    (h : ∀ ts ∈ groups, nesting [] ts = some []) :
    nesting [] (List.intercalate [Token.comma] groups) = some [] := by
  induction groups with
  | nil => rfl
  | cons ts groups ih =>
    rw [List.forall_mem_cons] at h
    cases groups with
    | nil => simpa using h.1
    | cons us groups =>
      rw [List.intercalate_cons_cons, nesting_append, nesting_append, h.1, Option.bind_some]
      exact ih h.2

theorem map_key_intercalate (groups : List (List Token)) :
    (List.intercalate [Token.comma] groups).map Token.key =
      List.intercalate [Token.comma.key] (groups.map (List.map Token.key)) := by
  induction groups with
  | nil => rfl
  | cons ts groups ih =>
    cases groups with
    | nil => simp
    | cons us groups =>
      rw [List.intercalate_cons_cons, List.map_append, ih]
      simp [List.intercalate_cons_cons]

/-! ## Splitting at commas -/

/-- The number of open brackets after a token. -/
def depthAfter (depth : Nat) : TokenKind → Nat
  | .leftParen | .leftBracket => depth + 1
  | .rightParen | .rightBracket => depth - 1
  | _ => depth

/-- The tokens between the commas that stand outside of all brackets. `depth` is the number of
brackets that are open before the tokens. -/
def splitAtCommas (depth : Nat) : List (TokenKind × String) → List (List (TokenKind × String))
  | [] => [[]]
  | t :: ts =>
    if t.1 = .comma ∧ depth = 0 then [] :: splitAtCommas depth ts
    else (splitAtCommas (depthAfter depth t.1) ts).modifyHead (t :: ·)

/-- A comma outside of all brackets. -/
def HasOuterComma (ts : List Token) : Prop :=
  ∃ before t after, ts = before ++ t :: after ∧ t.kind = .comma ∧ nesting [] before = some []

theorem length_nest {opened opened' : List Char} {kind : TokenKind}
    (h : nest opened kind = some opened') : depthAfter opened.length kind = opened'.length := by
  unfold nest at h
  split at h <;> cases h <;> first | rfl | (cases kind <;> simp_all [depthAfter])

theorem splitAtCommas_ne_nil (depth : Nat) (ts : List (TokenKind × String)) :
    splitAtCommas depth ts ≠ [] := by
  induction ts generalizing depth with
  | nil => simp [splitAtCommas]
  | cons t ts ih =>
    rw [splitAtCommas]
    split
    · exact List.cons_ne_nil _ _
    · simpa using ih _

theorem modifyHead_append {α : Type} {f : α → α} {xs : List α} (h : xs ≠ []) (ys : List α) :
    (xs ++ ys).modifyHead f = xs.modifyHead f ++ ys := by
  cases xs with
  | nil => exact absurd rfl h
  | cons x xs => rfl

/-- Well nested tokens before a comma are split on their own. -/
theorem splitAtCommas_append {opened : List Char} {ts : List Token}
    (h : nesting opened ts = some []) (rest : List (TokenKind × String)) :
    splitAtCommas opened.length (ts.map Token.key ++ Token.comma.key :: rest) =
      splitAtCommas opened.length (ts.map Token.key) ++ splitAtCommas 0 rest := by
  induction ts generalizing opened with
  | nil =>
    cases h
    rfl
  | cons t ts ih =>
    rw [nesting_cons] at h
    obtain ⟨opened', hnest, h⟩ := Option.bind_eq_some_iff.1 h
    have hdepth : depthAfter opened.length t.key.1 = opened'.length := length_nest hnest
    rw [List.map_cons, List.cons_append, splitAtCommas, splitAtCommas]
    split
    · rename_i hcomma
      rw [hcomma.1] at hdepth
      rw [show opened.length = opened'.length from hdepth, ih h]
      rfl
    · rw [hdepth, ih h, modifyHead_append (splitAtCommas_ne_nil _ _)]

/-- Tokens are one argument exactly if no comma stands outside of their brackets. -/
theorem splitAtCommas_eq_singleton_iff {opened : List Char} {ts : List Token}
    (h : nesting opened ts = some []) :
    splitAtCommas opened.length (ts.map Token.key) = [ts.map Token.key] ↔
      ¬∃ before t after, ts = before ++ t :: after ∧ t.kind = .comma ∧
        nesting opened before = some [] := by
  induction ts generalizing opened with
  | nil => simp [splitAtCommas]
  | cons t ts ih =>
    rw [nesting_cons] at h
    obtain ⟨opened', hnest, h⟩ := Option.bind_eq_some_iff.1 h
    have hdepth : depthAfter opened.length t.key.1 = opened'.length := length_nest hnest
    rw [List.map_cons, splitAtCommas]
    split
    · rename_i hcomma
      have hopened : opened = [] := List.length_eq_zero_iff.1 hcomma.2
      refine iff_of_false (by simp) (not_not.2 ⟨[], t, ts, rfl, hcomma.1, ?_⟩)
      rw [hopened]
      rfl
    · rename_i hcomma
      rw [hdepth]
      have hhead : (splitAtCommas opened'.length (ts.map Token.key)).modifyHead (t.key :: ·) =
          [t.key :: ts.map Token.key] ↔
            splitAtCommas opened'.length (ts.map Token.key) = [ts.map Token.key] := by
        cases splitAtCommas opened'.length (ts.map Token.key) <;> simp
      rw [hhead, ih h]
      refine not_congr ⟨?_, ?_⟩
      · rintro ⟨before, u, after, rfl, hu, hb⟩
        refine ⟨t :: before, u, after, rfl, hu, ?_⟩
        rw [nesting_cons, hnest, Option.bind_some, hb]
      · rintro ⟨before, u, after, he, hu, hb⟩
        cases before with
        | nil =>
          cases he
          cases hb
          exact absurd ⟨hu, rfl⟩ hcomma
        | cons b before =>
          cases he
          rw [nesting_cons, hnest, Option.bind_some] at hb
          exact ⟨before, u, after, rfl, hu, hb⟩

/-- Tokens that are split into one argument are this argument. -/
theorem splitAtCommas_eq_singleton {depth : Nat} {keys : List (TokenKind × String)}
    (h : (splitAtCommas depth keys).length ≤ 1) : splitAtCommas depth keys = [keys] := by
  induction keys generalizing depth with
  | nil => rfl
  | cons t keys ih =>
    rw [splitAtCommas] at h ⊢
    split
    · rename_i hcomma
      have := List.length_pos_iff.2 (splitAtCommas_ne_nil depth keys)
      rw [if_pos hcomma, List.length_cons] at h
      omega
    · rename_i hcomma
      rw [if_neg hcomma, List.length_modifyHead] at h
      rw [ih h]
      rfl

/-- Joined arguments are split into what each of them is split into. -/
theorem splitAtCommas_intercalate {groups : List (List Token)}
    (h : ∀ ts ∈ groups, nesting [] ts = some []) (hne : groups ≠ []) :
    splitAtCommas 0 (List.intercalate [Token.comma.key] (groups.map (List.map Token.key))) =
      (groups.map (List.map Token.key)).flatMap (splitAtCommas 0) := by
  induction groups with
  | nil => exact absurd rfl hne
  | cons ts groups ih =>
    rw [List.forall_mem_cons] at h
    cases groups with
    | nil => simp
    | cons us groups =>
      have hsplit := splitAtCommas_append h.1
        (List.intercalate [Token.comma.key] ((us :: groups).map (List.map Token.key)))
      rw [ih h.2 (List.cons_ne_nil _ _)] at hsplit
      simpa [List.intercalate_cons_cons] using hsplit

theorem length_le_length_splitAtCommas (groups : List (List (TokenKind × String))) :
    groups.length ≤ (groups.flatMap (splitAtCommas 0)).length := by
  induction groups with
  | nil => rfl
  | cons keys groups ih =>
    have := List.length_pos_iff.2 (splitAtCommas_ne_nil 0 keys)
    rw [List.flatMap_cons, List.length_append, List.length_cons]
    omega

/-- Splitting all arguments changes nothing exactly if each of them is one argument. -/
theorem flatMap_splitAtCommas_eq_iff (groups : List (List (TokenKind × String))) :
    groups.flatMap (splitAtCommas 0) = groups ↔ ∀ keys ∈ groups, splitAtCommas 0 keys = [keys] := by
  induction groups with
  | nil => simp
  | cons keys groups ih =>
    rw [List.forall_mem_cons, List.flatMap_cons]
    constructor
    · intro he
      have hone : splitAtCommas 0 keys = [keys] := by
        have hlength := congrArg List.length he
        have := length_le_length_splitAtCommas groups
        rw [List.length_append, List.length_cons] at hlength
        exact splitAtCommas_eq_singleton (by omega)
      rw [hone] at he
      exact ⟨hone, ih.1 (List.append_cancel_left he)⟩
    · rintro ⟨hone, hrest⟩
      rw [hone, ih.2 hrest]
      rfl

/-- Joined arguments are split into themselves exactly if none has a comma outside of its brackets. -/
theorem splitAtCommas_intercalate_eq_iff {groups : List (List Token)}
    (h : ∀ ts ∈ groups, nesting [] ts = some []) (hne : groups ≠ []) :
    splitAtCommas 0 (List.intercalate [Token.comma.key] (groups.map (List.map Token.key))) =
      groups.map (List.map Token.key) ↔ ∀ ts ∈ groups, ¬HasOuterComma ts := by
  rw [splitAtCommas_intercalate h hne, flatMap_splitAtCommas_eq_iff, List.forall_mem_map]
  exact forall₂_congr fun ts hts => splitAtCommas_eq_singleton_iff (h ts hts)

end XslLowering.Expression
