import Mathlib.Tactic.Common
import Mathlib.Tactic.FinCases
import XslLowering.Expression.Lexer
import XslLowering.Text.Search

/-!
# The texts of tokens

What the lexer splits off, said without the lexer:

* `TokenText`: the texts that a token of some kind can have;
* `EndsBefore`: whether a token with some text ends where the text after it begins, or would go on
  into it (`goesOn`). At most two characters are looked at, the second only after a colon.

`tokenText_of_lexeme?` and `lexeme?_of_tokenText` say that the lexer splits off a text exactly if it
is the text of a token that ends there. `isSolid_of_tokenText` says that blanks and quotes stand in no
token but a literal, and `eq_singleton_of_mem_loners` that brackets and braces are tokens of their own.
-/

namespace XslLowering.Expression

open Text

/-! ## Classes of characters -/

theorem isNameChar_of_isNameStart {c : Char} (h : isNameStart c = true) : isNameChar c = true := by
  simp only [isNameStart, Bool.or_eq_true] at h
  rcases h with h | h <;> simp [isNameChar, isAlphanumeric, h]

theorem isDigit_bounds {c : Char} (h : c.isDigit = true) : 48 ≤ c.toNat ∧ c.toNat ≤ 57 := by
  simp only [Char.isDigit, Bool.and_eq_true, decide_eq_true_eq, ge_iff_le,
    UInt32.le_iff_toNat_le] at h
  exact h

theorem isAlpha_bounds {c : Char} (h : c.isAlpha = true) :
    (65 ≤ c.toNat ∧ c.toNat ≤ 90) ∨ (97 ≤ c.toNat ∧ c.toNat ≤ 122) := by
  have hletter : (decide (c.val ≥ 'A'.val ∧ c.val ≤ 'Z'.val) ||
      (decide (c.val ≥ 'a'.val) && decide (c.val ≤ 'z'.val))) = true := h
  simp only [Bool.or_eq_true, Bool.and_eq_true, decide_eq_true_eq, ge_iff_le,
    UInt32.le_iff_toNat_le] at hletter
  exact hletter

theorem isDigit_eq_false_of_isNameStart {c : Char} (h : isNameStart c = true) :
    c.isDigit = false := by
  refine Bool.eq_false_iff.2 fun hd => ?_
  obtain ⟨h₁, h₂⟩ := isDigit_bounds hd
  simp only [isNameStart, isAlphabetic, show c.toNat < 128 by omega, ↓reduceIte,
    Bool.or_eq_true, beq_iff_eq] at h
  rcases h with h | rfl
  · have := isAlpha_bounds h
    omega
  · exact absurd hd (by decide)

/-- A character that starts a name is none of the fixed characters of other tokens. -/
theorem ne_of_isNameStart {c d : Char} (h : isNameStart c = true) (hd : isNameStart d = false) :
    c ≠ d := by
  rintro rfl
  simp [hd] at h

theorem ne_of_isDigit {c d : Char} (h : c.isDigit = true) (hd : d.isDigit = false) : c ≠ d := by
  rintro rfl
  simp [hd] at h

theorem isSpace_cases {c : Char} (h : isSpace c = true) :
    c = ' ' ∨ c = '\t' ∨ c = '\r' ∨ c = '\n' := by
  simpa only [isSpace, Bool.or_eq_true, beq_iff_eq, or_assoc] using h

theorem isQuote_cases {c : Char} (h : isQuote c = true) : c = '\x27' ∨ c = '\x22' := by
  simpa only [isQuote, Bool.or_eq_true, beq_iff_eq] using h

theorem isNameStart_eq_false_of_isQuote {c : Char} (h : isQuote c = true) :
    isNameStart c = false := by
  rcases isQuote_cases h with rfl | rfl <;> decide

theorem isQuote_eq_false_of_isNameStart {c : Char} (h : isNameStart c = true) :
    isQuote c = false :=
  Bool.eq_false_iff.2 fun hq => by simp [isNameStart_eq_false_of_isQuote hq] at h

theorem fixedToken?_of_isNameStart {c : Char} (h : isNameStart c = true) (cs : List Char) :
    fixedToken? c cs = none := by
  unfold fixedToken?
  split <;> first | rfl | exact absurd h (by decide)

/-! ## Texts -/

/-- A name without a colon. -/
inductive SimpleName : List Char → Prop
  | mk {c : Char} {cs : List Char} : isNameStart c = true → (∀ d ∈ cs, isNameChar d = true) →
    SimpleName (c :: cs)

/-- A name with or without a qualifier, or all names with one qualifier. -/
inductive QualifiedName : List Char → Prop
  | simple {name : List Char} : SimpleName name → QualifiedName name
  | qualified {qualifier name : List Char} : SimpleName qualifier → SimpleName name →
    QualifiedName (qualifier ++ ':' :: name)
  | wildcard {qualifier : List Char} : SimpleName qualifier → QualifiedName (qualifier ++ [':', '*'])

/-- The tokens that have one text only. -/
def fixedTexts : List (TokenKind × List Char) :=
  [(.doubleSlash, ['/', '/']), (.slash, ['/']), (.axisSeparator, [':', ':']), (.dotDot, ['.', '.']),
    (.dot, ['.']), (.atSign, ['@']), (.comma, [',']), (.leftParen, ['(']), (.rightParen, [')']),
    (.leftBracket, ['[']), (.rightBracket, [']']), (.star, ['*']), (.operator, ['!', '=']),
    (.operator, ['<', '=']), (.operator, ['>', '=']), (.operator, ['|', '|']), (.operator, ['=']),
    (.operator, ['<']), (.operator, ['>']), (.operator, ['+']), (.operator, ['-']),
    (.operator, ['|']), (.operator, ['!'])]

/-- A character that starts no token of more than itself, unless it is a colon or a dollar sign. -/
def isStray (c : Char) : Bool :=
  !isSpace c && !isQuote c && !c.isDigit && !isNameStart c && (fixedToken? c []).isNone

/-- The texts that a token of each kind can have. -/
inductive TokenText : TokenKind → List Char → Prop
  | literal {quote : Char} {content : List Char} : isQuote quote = true → quote ∉ content →
    TokenText .stringLiteral (quote :: (content ++ [quote]))
  | whole {digits : List Char} : digits ≠ [] → (∀ d ∈ digits, d.isDigit = true) →
    TokenText .numberLiteral digits
  | decimal {whole fraction : List Char} : (∀ d ∈ whole, d.isDigit = true) →
    (∀ d ∈ fraction, d.isDigit = true) → (whole ≠ [] ∨ fraction ≠ []) →
    TokenText .numberLiteral (whole ++ '.' :: fraction)
  | varRef {name : List Char} : QualifiedName name → TokenText .varRef ('$' :: name)
  | name {name : List Char} : QualifiedName name → TokenText .name name
  | fixed {kind : TokenKind} {text : List Char} : (kind, text) ∈ fixedTexts → TokenText kind text
  | stray {c : Char} : isStray c = true → TokenText .unknown [c]

/-- Whether a token goes on with a character `c` that has `next` after it. -/
def goesOn (kind : TokenKind) (text : List Char) (c : Char) (next : Option Char) : Bool :=
  match kind with
  | .name | .varRef =>
    !text.contains '*' && (isNameChar c ||
      !text.contains ':' && c == ':' && next.any fun d => isNameStart d || d == '*')
  | .numberLiteral => c.isDigit || c == '.' && !text.contains '.'
  | .slash => c == '/'
  | .dot => c == '.' || c.isDigit
  | .operator => c == '=' && (text == ['!'] || text == ['<'] || text == ['>']) ||
    c == '|' && text == ['|']
  | .unknown => c == ':' && text == [':'] || isNameStart c && text == ['$']
  | _ => false

/-- A token with this text ends before the text `rest`. -/
def EndsBefore (kind : TokenKind) (text : List Char) : List Char → Prop
  | [] => True
  | c :: cs => goesOn kind text c cs.head? = false

/-! ## Runs of characters -/

theorem head_dropWhile {α : Type} {p : α → Bool} {l : List α} {a : α}
    (h : a ∈ (l.dropWhile p).head?) : p a = false := by
  have := List.head?_dropWhile_not p l
  rw [Option.mem_def.1 h] at this
  exact this

/-! ## Names -/

theorem SimpleName.isNameChar {name : List Char} (h : SimpleName name) :
    ∀ c ∈ name, isNameChar c = true := by
  obtain ⟨hc, hcs⟩ := h
  exact List.forall_mem_cons.2 ⟨isNameChar_of_isNameStart hc, hcs⟩

theorem SimpleName.not_mem {name : List Char} (h : SimpleName name) {c : Char}
    (hc : Expression.isNameChar c = false) : c ∉ name := fun hm => by
  simp [h.isNameChar c hm] at hc

theorem simpleName_of_simpleName? {cs name rest : List Char}
    (h : simpleName? cs = some (name, rest)) :
    SimpleName name ∧ ∀ c ∈ rest.head?, isNameChar c = false := by
  cases cs with
  | nil => cases h
  | cons c cs =>
    simp only [simpleName?] at h
    split at h
    · rename_i hc
      cases h
      exact ⟨.mk hc fun d hd => List.all_eq_true.1 List.all_takeWhile d hd, fun d => head_dropWhile⟩
    · cases h

theorem simpleName?_eq_none {cs : List Char} (h : simpleName? cs = none) :
    ∀ c ∈ cs.head?, isNameStart c = false := by
  cases cs with
  | nil => simp
  | cons c cs =>
    simp only [simpleName?] at h
    split at h
    · cases h
    · rename_i hc
      simpa using hc

theorem simpleName?_append_rest {name rest : List Char} (h : SimpleName name)
    (hr : ∀ c ∈ rest.head?, isNameChar c = false) :
    simpleName? (name ++ rest) = some (name, rest) := by
  obtain ⟨hc, hcs⟩ := h
  rw [List.cons_append, simpleName?, if_pos hc, takeWhile_append hcs hr, dropWhile_append hcs hr]

/-- A colon is drawn into a name only together with what follows it. -/
theorem goesOn_simple {name : List Char} (h : SimpleName name) (c : Char) (next : Option Char) :
    goesOn .name name c next =
      (isNameChar c || c == ':' && next.any fun d => isNameStart d || d == '*') := by
  simp [goesOn, h.not_mem (show isNameChar '*' = false by decide),
    h.not_mem (show isNameChar ':' = false by decide)]

theorem goesOn_qualified {qualifier name : List Char} (hq : SimpleName qualifier)
    (hn : SimpleName name) (c : Char) (next : Option Char) :
    goesOn .name (qualifier ++ ':' :: name) c next = isNameChar c := by
  simp [goesOn, hq.not_mem (show isNameChar '*' = false by decide),
    hn.not_mem (show isNameChar '*' = false by decide)]

theorem goesOn_wildcard (qualifier : List Char) (c : Char) (next : Option Char) :
    goesOn .name (qualifier ++ [':', '*']) c next = false := by
  simp [goesOn]

theorem endsBefore_of_head {kind : TokenKind} {text rest : List Char}
    (h : ∀ c ∈ rest.head?, ∀ next, goesOn kind text c next = false) :
    EndsBefore kind text rest := by
  cases rest with
  | nil => trivial
  | cons c cs => exact h c rfl _

theorem qualifiedName_of_qualifiedName? {cs name rest : List Char}
    (h : qualifiedName? cs = some (name, rest)) :
    QualifiedName name ∧ EndsBefore .name name rest := by
  simp only [qualifiedName?] at h
  split at h
  · cases h
  rename_i name' rest' hn
  obtain ⟨hs, hr⟩ := simpleName_of_simpleName? hn
  split at h
  · rename_i after
    split at h
    · rename_i localName rest'' hl
      cases h
      obtain ⟨hls, hlr⟩ := simpleName_of_simpleName? hl
      refine ⟨.qualified hs hls, endsBefore_of_head fun c hc next => ?_⟩
      rw [goesOn_qualified hs hls, hlr c hc]
    · rename_i hl
      split at h
      · cases h
        exact ⟨.wildcard hs, endsBefore_of_head fun c _ next => goesOn_wildcard ..⟩
      · rename_i hstar
        cases h
        refine ⟨.simple hs, ?_⟩
        show goesOn .name name ':' after.head? = false
        rw [goesOn_simple hs]
        cases after with
        | nil => decide
        | cons c cs =>
          have hc : isNameStart c = false := simpleName?_eq_none hl c rfl
          have hne : c ≠ '*' := fun e => hstar cs (by rw [e])
          simp [hc, hne]
          decide
  · rename_i hcolon
    cases h
    refine ⟨.simple hs, ?_⟩
    cases rest with
    | nil => trivial
    | cons c cs =>
      have hne : c ≠ ':' := fun e => hcolon cs (by rw [e])
      show goesOn .name name c cs.head? = false
      rw [goesOn_simple hs, hr c rfl]
      simp [hne]

theorem qualifiedName?_append_rest {name rest : List Char} (h : QualifiedName name)
    (hr : EndsBefore .name name rest) : qualifiedName? (name ++ rest) = some (name, rest) := by
  cases h with
  | simple hs =>
    cases rest with
    | nil =>
      have hn : simpleName? (name ++ []) = some (name, []) := simpleName?_append_rest hs (by simp)
      simp only [qualifiedName?, hn]
    | cons c cs =>
      have hr : goesOn .name name c cs.head? = false := hr
      rw [goesOn_simple hs, Bool.or_eq_false_iff] at hr
      have hn : simpleName? (name ++ c :: cs) = some (name, c :: cs) :=
        simpleName?_append_rest hs (by simpa using hr.1)
      simp only [qualifiedName?, hn]
      split
      · rename_i after he
        cases he
        cases cs with
        | nil => rfl
        | cons d ds =>
          have hd : isNameStart d = false ∧ d ≠ '*' := by simpa using hr.2
          simp [simpleName?, hd.1, hd.2]
      · rfl
  | @qualified qualifier name hq hn =>
    have hr : ∀ c ∈ rest.head?, isNameChar c = false := by
      intro c hc
      cases rest with
      | nil => cases hc
      | cons d ds =>
        cases hc
        have hr : goesOn .name (qualifier ++ ':' :: name) c ds.head? = false := hr
        rwa [goesOn_qualified hq hn] at hr
    have hp : simpleName? (qualifier ++ ':' :: (name ++ rest)) =
        some (qualifier, ':' :: (name ++ rest)) := simpleName?_append_rest hq (by simp; decide)
    simp [qualifiedName?, hp, simpleName?_append_rest hn hr]
  | @wildcard qualifier hq =>
    have hp : simpleName? (qualifier ++ ':' :: '*' :: rest) = some (qualifier, ':' :: '*' :: rest) :=
      simpleName?_append_rest hq (by simp; decide)
    have hs : simpleName? ('*' :: rest) = none := by
      rw [simpleName?, if_neg (by decide)]
    simp [qualifiedName?, hp, hs]

/-! ## All tokens -/

theorem tokenText_of_literal? {quote : Char} {cs : List Char} {l : Lexeme}
    (hq : isQuote quote = true) (h : literal? quote cs = some l) :
    TokenText l.kind l.text ∧ EndsBefore l.kind l.text l.rest := by
  unfold literal? at h
  split at h
  · cases h
  rename_i closing rest hd
  cases h
  have hclosing : closing = quote := by
    have := head_dropWhile (p := (· != quote)) (l := cs) (a := closing) (by rw [hd]; rfl)
    simpa using this
  subst hclosing
  refine ⟨.literal hq fun hm => ?_, endsBefore_of_head fun c _ next => rfl⟩
  simpa using List.all_eq_true.1 (List.all_takeWhile (p := (· != closing)) (l := cs)) _ hm

theorem tokenText_number {c : Char} (hc : c.isDigit = true) (cs : List Char) :
    TokenText (number c cs).kind (number c cs).text ∧
      EndsBefore (number c cs).kind (number c cs).text (number c cs).rest := by
  have hw : ∀ d ∈ c :: cs.takeWhile Char.isDigit, d.isDigit = true :=
    List.forall_mem_cons.2 ⟨hc, fun d hd => List.all_eq_true.1 List.all_takeWhile d hd⟩
  have hpoint : '.' ∉ c :: cs.takeWhile Char.isDigit := fun hm => absurd (hw _ hm) (by decide)
  unfold number
  split
  · rename_i rest hd
    refine ⟨.decimal hw (fun d hd => List.all_eq_true.1 List.all_takeWhile d hd) (.inl (by simp)),
      endsBefore_of_head fun d hd next => ?_⟩
    simp [goesOn, head_dropWhile hd]
  · rename_i rest hrest
    refine ⟨.whole (by simp) hw, endsBefore_of_head fun d hd next => ?_⟩
    have hne : d ≠ '.' := by
      rintro rfl
      obtain ⟨ds, he⟩ := List.head?_eq_some_iff.1 hd
      exact hrest ds he
    simp [goesOn, head_dropWhile hd, hne]

theorem mem_fixedTexts_of_fixedToken? {c : Char} {cs : List Char} {kind : TokenKind} {size : Nat}
    (h : fixedToken? c cs = some (kind, size)) : (kind, (c :: cs).take size) ∈ fixedTexts := by
  unfold fixedToken? at h
  split at h <;> cases h <;> simp [fixedTexts]

theorem head_ne_of_forall {cs : List Char} {c d : Char} (h : ∀ ds, cs = d :: ds → False)
    (hc : c ∈ cs.head?) : c ≠ d := by
  rintro rfl
  obtain ⟨ds, he⟩ := List.head?_eq_some_iff.1 hc
  exact h ds he

/-- A fixed token is as long as it can be; a point before a digit would start a number. -/
theorem endsBefore_of_fixedToken? {c : Char} {cs : List Char} {kind : TokenKind} {size : Nat}
    (h : fixedToken? c cs = some (kind, size)) (hdot : (c == '.' && startsWithDigit cs) = false) :
    EndsBefore kind ((c :: cs).take size) ((c :: cs).drop size) := by
  have not_digit (hc : c = '.') : ∀ e ∈ cs.head?, e.isDigit = false := by
    intro e he
    obtain ⟨ds, rfl⟩ := List.head?_eq_some_iff.1 he
    simpa [hc, startsWithDigit] using hdot
  unfold fixedToken? at h
  split at h <;> cases h <;> refine endsBefore_of_head fun e he next => ?_
  case h_2 hne => simp [goesOn, head_ne_of_forall hne he]
  case h_5 hne => simp [goesOn, head_ne_of_forall hne he, not_digit rfl e he]
  case h_18 hne | h_19 hne | h_22 hne | h_23 hne => simp [goesOn, head_ne_of_forall hne he]
  all_goals simp [goesOn]

theorem fixedToken?_nil_of_eq_none {c : Char} {cs : List Char} (h : fixedToken? c cs = none) :
    fixedToken? c [] = none := by
  unfold fixedToken? at h
  split at h <;> cases h
  unfold fixedToken?
  split <;> simp_all

theorem qualifiedName?_eq_none {cs : List Char} (h : qualifiedName? cs = none) :
    ∀ c ∈ cs.head?, isNameStart c = false := by
  refine simpleName?_eq_none ?_
  simp only [qualifiedName?] at h
  split at h
  · assumption
  · split at h
    · split at h
      · cases h
      · split at h <;> cases h
    · cases h

theorem tokenText_otherLexeme {c : Char} {cs : List Char} (hs : isSpace c = false)
    (hq : isQuote c = false) (hd : c.isDigit = false)
    (hdot : (c == '.' && startsWithDigit cs) = false)
    (hvar : c = '$' → qualifiedName? cs = none) :
    TokenText (otherLexeme c cs).kind (otherLexeme c cs).text ∧
      EndsBefore (otherLexeme c cs).kind (otherLexeme c cs).text (otherLexeme c cs).rest := by
  unfold otherLexeme
  split
  · rename_i kind size h
    exact ⟨.fixed (mem_fixedTexts_of_fixedToken? h), endsBefore_of_fixedToken? h hdot⟩
  rename_i hfixed
  split
  · rename_i name rest h
    obtain ⟨hn, he⟩ := qualifiedName_of_qualifiedName? h
    exact ⟨.name hn, he⟩
  rename_i hname
  have hstart : isNameStart c = false := qualifiedName?_eq_none hname c rfl
  refine ⟨.stray (by simp [isStray, hs, hq, hd, hstart, fixedToken?_nil_of_eq_none hfixed]),
    endsBefore_of_head fun d hd next => ?_⟩
  have hcolon : ¬ (d = ':' ∧ c = ':') := by
    rintro ⟨rfl, rfl⟩
    obtain ⟨ds, rfl⟩ := List.head?_eq_some_iff.1 hd
    simp [fixedToken?] at hfixed
  have hdollar : ¬ (isNameStart d = true ∧ c = '$') := by
    rintro ⟨h₁, h₂⟩
    simp [qualifiedName?_eq_none (hvar h₂) d hd] at h₁
  simpa [goesOn, Decidable.imp_iff_not_or] using And.intro hcolon hdollar

/-- What is split off has the text of a token, and ends where the rest begins. -/
theorem tokenText_of_lexeme? {c : Char} {cs : List Char} {l : Lexeme} (hs : isSpace c = false)
    (h : lexeme? c cs = some l) :
    TokenText l.kind l.text ∧ EndsBefore l.kind l.text l.rest := by
  unfold lexeme? at h
  split at h
  · rename_i hq
    exact tokenText_of_literal? hq h
  rename_i hq
  split at h
  · rename_i hd
    cases h
    exact tokenText_number hd cs
  rename_i hd
  split at h
  · rename_i hdot
    cases h
    simp only [Bool.and_eq_true, beq_iff_eq] at hdot
    have hne : cs.takeWhile Char.isDigit ≠ [] := by
      cases cs with
      | nil => simp [startsWithDigit] at hdot
      | cons d ds => simp [show d.isDigit = true from hdot.2]
    have htext : TokenText .numberLiteral ([] ++ '.' :: cs.takeWhile Char.isDigit) :=
      .decimal (by simp) (fun d hd => List.all_eq_true.1 List.all_takeWhile d hd) (.inr hne)
    refine ⟨htext, endsBefore_of_head fun d hd next => ?_⟩
    simp [goesOn, head_dropWhile hd]
  rename_i hdot
  have hq : isQuote c = false := by simpa using hq
  have hd : c.isDigit = false := by simpa using hd
  have hdot : (c == '.' && startsWithDigit cs) = false := by simpa using hdot
  split at h
  · rename_i hdollar
    split at h
    · rename_i name rest hn
      cases h
      obtain ⟨hn, he⟩ := qualifiedName_of_qualifiedName? hn
      refine ⟨.varRef hn, ?_⟩
      cases rest with
      | nil => trivial
      | cons e es => simpa [EndsBefore, goesOn] using he
    · rename_i hn
      cases h
      exact tokenText_otherLexeme hs hq hd hdot fun _ => hn
  · rename_i hdollar
    cases h
    exact tokenText_otherLexeme hs hq hd hdot fun e => absurd e (by simpa using hdollar)

theorem lexeme?_literal {quote : Char} {content : List Char} (hq : isQuote quote = true)
    (hc : quote ∉ content) (rest : List Char) :
    lexeme? quote (content ++ quote :: rest) =
      some ⟨.stringLiteral, quote :: (content ++ [quote]), rest⟩ := by
  have hp : ∀ d ∈ content, (d != quote) = true := fun d hd => by
    simpa using fun e : d = quote => hc (e ▸ hd)
  have hr : ∀ d ∈ (quote :: rest).head?, (d != quote) = false := by simp
  rw [lexeme?, if_pos hq, literal?, dropWhile_append hp hr, takeWhile_append hp hr]

theorem lexeme?_digit {c : Char} (h : c.isDigit = true) (cs : List Char) :
    lexeme? c cs = some (number c cs) := by
  have hq : isQuote c = false := by
    simp [isQuote, ne_of_isDigit h (show '\x27'.isDigit = false by decide),
      ne_of_isDigit h (show '\x22'.isDigit = false by decide)]
  simp [lexeme?, hq, h]

theorem lexeme?_whole {c : Char} {cs rest : List Char} (h : ∀ d ∈ c :: cs, d.isDigit = true)
    (hr : EndsBefore .numberLiteral (c :: cs) rest) :
    lexeme? c (cs ++ rest) = some ⟨.numberLiteral, c :: cs, rest⟩ := by
  obtain ⟨hc, hcs⟩ := List.forall_mem_cons.1 h
  have hpoint : '.' ∉ c :: cs := fun hm => absurd (h _ hm) (by decide)
  have hrest : ∀ d ∈ rest.head?, d.isDigit = false ∧ d ≠ '.' := by
    intro d hd
    obtain ⟨ds, rfl⟩ := List.head?_eq_some_iff.1 hd
    have hr : goesOn .numberLiteral (c :: cs) d ds.head? = false := hr
    simp only [goesOn, List.contains_eq_mem, hpoint, Bool.or_eq_false_iff] at hr
    exact ⟨hr.1, by simpa using hr.2⟩
  rw [lexeme?_digit hc, number, dropWhile_append hcs fun d hd => (hrest d hd).1,
    takeWhile_append hcs fun d hd => (hrest d hd).1]
  split
  · exact absurd rfl (hrest '.' rfl).2
  · rfl

theorem lexeme?_decimal {whole fraction rest : List Char} (hw : ∀ d ∈ whole, d.isDigit = true)
    (hf : ∀ d ∈ fraction, d.isDigit = true) (hne : whole ≠ [] ∨ fraction ≠ [])
    (hr : EndsBefore .numberLiteral (whole ++ '.' :: fraction) rest) :
    ∃ c cs, whole ++ '.' :: fraction ++ rest = c :: cs ∧ isSpace c = false ∧
      lexeme? c cs = some ⟨.numberLiteral, whole ++ '.' :: fraction, rest⟩ := by
  have hrest : ∀ d ∈ rest.head?, d.isDigit = false := by
    intro d hd
    obtain ⟨ds, rfl⟩ := List.head?_eq_some_iff.1 hd
    have hr : goesOn .numberLiteral (whole ++ '.' :: fraction) d ds.head? = false := hr
    simpa [goesOn] using hr
  cases whole with
  | nil =>
    obtain ⟨d, ds, rfl⟩ := List.exists_cons_of_ne_nil (hne.resolve_left (by simp))
    refine ⟨'.', d :: ds ++ rest, rfl, by decide, ?_⟩
    have hd : startsWithDigit (d :: ds ++ rest) = true := hf d (by simp)
    rw [lexeme?, if_neg (by decide), if_neg (by decide), if_pos (by rw [hd]; rfl),
      takeWhile_append hf hrest, dropWhile_append hf hrest]
    rfl
  | cons c cs =>
    obtain ⟨hc, hcs⟩ := List.forall_mem_cons.1 hw
    refine ⟨c, cs ++ '.' :: (fraction ++ rest), by simp, ?_, ?_⟩
    · refine Bool.eq_false_iff.2 fun h => ?_
      rcases isSpace_cases h with rfl | rfl | rfl | rfl <;> exact absurd hc (by decide)
    · have hp : ∀ d ∈ ('.' :: (fraction ++ rest)).head?, d.isDigit = false := by simp
      simp only [lexeme?_digit hc, number, dropWhile_append hcs hp, takeWhile_append hcs hp,
        takeWhile_append hf hrest, dropWhile_append hf hrest, List.cons_append]

theorem lexeme?_varRef {name rest : List Char} (h : QualifiedName name)
    (hr : EndsBefore .varRef ('$' :: name) rest) :
    lexeme? '$' (name ++ rest) = some ⟨.varRef, '$' :: name, rest⟩ := by
  have hr : EndsBefore .name name rest := by
    cases rest with
    | nil => trivial
    | cons c cs => simpa [EndsBefore, goesOn] using hr
  rw [lexeme?, if_neg (by decide), if_neg (by decide), if_neg (by simp), if_pos (by decide),
    qualifiedName?_append_rest h hr]

theorem QualifiedName.not_mem {name : List Char} (h : QualifiedName name) {c : Char}
    (hc : isNameChar c = false) (hs : c ≠ ':' ∧ c ≠ '*') : c ∉ name := by
  cases h with
  | simple hn => exact hn.not_mem hc
  | qualified hq hn => simp [hq.not_mem hc, hn.not_mem hc, hs.1]
  | wildcard hq => simp [hq.not_mem hc, hs.1, hs.2]

theorem QualifiedName.head {name : List Char} (h : QualifiedName name) :
    ∃ c cs, name = c :: cs ∧ isNameStart c = true := by
  cases h with
  | simple h => exact h.casesOn fun hc _ => ⟨_, _, rfl, hc⟩
  | qualified h _ => exact h.casesOn fun hc _ => ⟨_, _, rfl, hc⟩
  | wildcard h => exact h.casesOn fun hc _ => ⟨_, _, rfl, hc⟩

theorem lexeme?_name {c : Char} {cs rest : List Char} (h : QualifiedName (c :: cs))
    (hr : EndsBefore .name (c :: cs) rest) :
    lexeme? c (cs ++ rest) = some ⟨.name, c :: cs, rest⟩ := by
  obtain ⟨d, ds, he, hc⟩ := h.head
  cases he
  rw [lexeme?, if_neg (by simp [isQuote_eq_false_of_isNameStart hc]),
    if_neg (by simp [isDigit_eq_false_of_isNameStart hc]),
    if_neg (by simp [ne_of_isNameStart hc (show isNameStart '.' = false by decide)]),
    if_neg (by simp [ne_of_isNameStart hc (show isNameStart '$' = false by decide)]),
    otherLexeme, fixedToken?_of_isNameStart hc, ← List.cons_append,
    qualifiedName?_append_rest h hr]

theorem fixedToken?_of_mem {p : TokenKind × List Char} (h : p ∈ fixedTexts) {c : Char}
    {cs rest : List Char} (hc : p.2 = c :: cs) (hr : EndsBefore p.1 p.2 rest) :
    fixedToken? c (cs ++ rest) = some (p.1, p.2.length) := by
  fin_cases h <;> cases hc <;> try rfl
  -- What is left are the tokens that one more character makes longer.
  all_goals
    cases rest with
    | nil => rfl
    | cons d ds =>
      simp only [EndsBefore, goesOn] at hr
      simp_all [fixedToken?]

theorem lexeme?_fixed {kind : TokenKind} {text rest : List Char} (h : (kind, text) ∈ fixedTexts)
    (hr : EndsBefore kind text rest) :
    ∃ c cs, text ++ rest = c :: cs ∧ isSpace c = false ∧ lexeme? c cs = some ⟨kind, text, rest⟩ := by
  have hchars : ∀ p ∈ fixedTexts, ∃ c cs, p.2 = c :: cs ∧ isSpace c = false ∧
      isQuote c = false ∧ c.isDigit = false ∧ c ≠ '$' ∧
      (c = '.' → p.1 = .dot ∧ cs = [] ∨ p.1 = .dotDot ∧ cs = ['.']) := by
    intro p hp
    fin_cases hp <;> exact ⟨_, _, rfl, by decide⟩
  obtain ⟨c, cs, he, hs, hq, hd, hdollar, hdot⟩ := hchars _ h
  have he : text = c :: cs := he
  subst he
  refine ⟨c, cs ++ rest, rfl, hs, ?_⟩
  have hnum : (c == '.' && startsWithDigit (cs ++ rest)) = false := by
    refine Bool.eq_false_iff.2 fun hn => ?_
    simp only [Bool.and_eq_true, beq_iff_eq] at hn
    rcases hdot hn.1 with ⟨hk, hnil⟩ | ⟨hk, hpoint⟩
    · have hk : kind = .dot := hk
      subst hk hnil
      cases rest with
      | nil => simp [startsWithDigit] at hn
      | cons d ds =>
        have hdd : d.isDigit = true := hn.2
        simp [EndsBefore, goesOn, hdd] at hr
    · subst hpoint
      exact absurd hn.2 (by simp [startsWithDigit])
  have hfixed := fixedToken?_of_mem h rfl hr
  rw [lexeme?, if_neg (by simp [hq]), if_neg (by simp [hd]), if_neg (by simp [hnum]),
    if_neg (by simpa using hdollar), otherLexeme, hfixed]
  simp

theorem qualifiedName?_of_head {cs : List Char} (h : ∀ c ∈ cs.head?, isNameStart c = false) :
    qualifiedName? cs = none := by
  have hs : simpleName? cs = none := by
    cases cs with
    | nil => rfl
    | cons c cs => rw [simpleName?, if_neg (by simp [h c rfl])]
  simp [qualifiedName?, hs]

theorem lexeme?_stray {c : Char} {rest : List Char} (h : isStray c = true)
    (hr : EndsBefore .unknown [c] rest) : lexeme? c rest = some ⟨.unknown, [c], rest⟩ := by
  simp only [isStray, Bool.and_eq_true, Bool.not_eq_true', Option.isNone_iff_eq_none] at h
  obtain ⟨⟨⟨⟨-, hq⟩, hd⟩, hn⟩, hnil⟩ := h
  have hfixed : fixedToken? c rest = none := by
    unfold fixedToken?
    split
    case h_3 => simp [EndsBefore, goesOn] at hr
    case h_24 => rfl
    all_goals exact absurd hnil (by decide)
  have hother : otherLexeme c rest = ⟨.unknown, [c], rest⟩ := by
    rw [otherLexeme, hfixed, qualifiedName?_of_head (by simpa using hn)]
  have hdot : c ≠ '.' := by
    rintro rfl
    exact absurd hnil (by decide)
  have hvar : c = '$' → qualifiedName? rest = none := by
    rintro rfl
    refine qualifiedName?_of_head fun d hd => ?_
    obtain ⟨ds, rfl⟩ := List.head?_eq_some_iff.1 hd
    simpa [EndsBefore, goesOn] using hr
  rw [lexeme?, if_neg (by simp [hq]), if_neg (by simp [hd]), if_neg (by simp [hdot])]
  split
  · rename_i hdollar
    rw [hvar (by simpa using hdollar), hother]
  · rw [hother]

/-- A text of a token is split off again before every rest that it ends before. -/
theorem lexeme?_of_tokenText {kind : TokenKind} {text rest : List Char} (h : TokenText kind text)
    (hr : EndsBefore kind text rest) :
    ∃ c cs, text ++ rest = c :: cs ∧ isSpace c = false ∧ lexeme? c cs = some ⟨kind, text, rest⟩ := by
  have not_space {c : Char} (hc : isNameStart c = true) : isSpace c = false :=
    Bool.eq_false_iff.2 fun h => by
      rcases isSpace_cases h with rfl | rfl | rfl | rfl <;> exact absurd hc (by decide)
  cases h with
  | @literal quote content hq hc =>
    refine ⟨quote, content ++ quote :: rest, by simp, ?_, lexeme?_literal hq hc rest⟩
    rcases isQuote_cases hq with rfl | rfl <;> decide
  | whole hne hd =>
    obtain ⟨c, cs, rfl⟩ := List.exists_cons_of_ne_nil hne
    refine ⟨c, cs ++ rest, rfl, Bool.eq_false_iff.2 fun h => ?_, lexeme?_whole hd hr⟩
    have hc : c.isDigit = true := hd c (by simp)
    rcases isSpace_cases h with rfl | rfl | rfl | rfl <;> exact absurd hc (by decide)
  | decimal hw hf hne => exact lexeme?_decimal hw hf hne hr
  | varRef hn => exact ⟨'$', _, rfl, by decide, lexeme?_varRef hn hr⟩
  | name hn =>
    obtain ⟨c, cs, rfl, hc⟩ := hn.head
    exact ⟨c, cs ++ rest, rfl, not_space hc, lexeme?_name hn hr⟩
  | fixed hm => exact lexeme?_fixed hm hr
  | @stray c hc =>
    have hs : isSpace c = false := by
      simp only [isStray, Bool.and_eq_true, Bool.not_eq_true'] at hc
      exact hc.1.1.1.1
    exact ⟨c, rest, rfl, hs, lexeme?_stray hc hr⟩

/-! ## The characters of a token -/

/-- The characters that tokens are made of, those of names and stray ones apart. -/
def marks : List Char :=
  ['/', ':', '.', '@', ',', '(', ')', '[', ']', '*', '!', '=', '<', '>', '|', '+', '-', '$']

theorem ne_of_isNameChar {c d : Char} (h : isNameChar c = true) (hd : isNameChar d = false) :
    c ≠ d := by
  rintro rfl
  simp [hd] at h

theorem isNameChar_of_isDigit {c : Char} (h : c.isDigit = true) : isNameChar c = true := by
  obtain ⟨-, h₂⟩ := isDigit_bounds h
  have hn : isNumeric c = true := by simp [isNumeric, h, show c.toNat < 128 by omega]
  simp [isNameChar, isAlphanumeric, hn]

theorem QualifiedName.isNameChar_or {name : List Char} (h : QualifiedName name) {c : Char}
    (hc : c ∈ name) : isNameChar c = true ∨ c ∈ marks := by
  by_contra hn
  simp only [not_or, Bool.not_eq_true] at hn
  refine h.not_mem hn.1 ⟨?_, ?_⟩ hc <;>
  · rintro rfl
    exact hn.2 (by decide)

/-- A token that is no literal is made of characters of names and of marks, or it is stray. -/
theorem chars_of_tokenText {kind : TokenKind} {text : List Char} (h : TokenText kind text)
    (hk : kind ≠ .stringLiteral) :
    (∃ c, text = [c] ∧ isStray c = true) ∨ ∀ c ∈ text, isNameChar c = true ∨ c ∈ marks := by
  have digits {ds : List Char} (hds : ∀ d ∈ ds, d.isDigit = true) :
      ∀ c ∈ ds, isNameChar c = true ∨ c ∈ marks := fun c hc => .inl (isNameChar_of_isDigit (hds c hc))
  cases h with
  | literal => exact absurd rfl hk
  | whole _ hd => exact .inr (digits hd)
  | decimal hw hf _ =>
    exact .inr (List.forall_mem_append.2 ⟨digits hw, List.forall_mem_cons.2 ⟨.inr (by decide), digits hf⟩⟩)
  | varRef hq => exact .inr (List.forall_mem_cons.2 ⟨.inr (by decide), fun c => hq.isNameChar_or⟩)
  | name hq => exact .inr fun c => hq.isNameChar_or
  | fixed hm =>
    have hmarks : fixedTexts.all (fun p => p.2.all marks.contains) = true := by decide
    have htext := List.all_eq_true.1 (List.all_eq_true.1 hmarks _ hm)
    exact .inr fun c hc => .inr (List.contains_iff_mem.1 (htext c hc))
  | @stray c hc => exact .inl ⟨c, rfl, hc⟩

/-- A character that is neither a blank nor a quote. -/
def isSolid (c : Char) : Bool := !isSpace c && !isQuote c

theorem isSolid_of_isNameChar {c : Char} (h : isNameChar c = true) : isSolid c = true := by
  simp [isSolid, isSpace, isQuote, ne_of_isNameChar h (show isNameChar ' ' = false by decide),
    ne_of_isNameChar h (show isNameChar '\t' = false by decide),
    ne_of_isNameChar h (show isNameChar '\r' = false by decide),
    ne_of_isNameChar h (show isNameChar '\n' = false by decide),
    ne_of_isNameChar h (show isNameChar '\x27' = false by decide),
    ne_of_isNameChar h (show isNameChar '\x22' = false by decide)]

/-- Blanks and quotes stand only in literals. -/
theorem isSolid_of_tokenText {kind : TokenKind} {text : List Char} (h : TokenText kind text)
    (hk : kind ≠ .stringLiteral) : ∀ c ∈ text, isSolid c = true := by
  rcases chars_of_tokenText h hk with ⟨c, rfl, hc⟩ | hchars
  · simp only [isStray, Bool.and_eq_true] at hc
    rw [List.forall_mem_singleton, isSolid, hc.1.1.1.1, hc.1.1.1.2]
    rfl
  · intro c hc
    rcases hchars c hc with hname | hmark
    · exact isSolid_of_isNameChar hname
    · have hmarks : marks.all isSolid = true := by decide
      exact List.all_eq_true.1 hmarks c hmark

/-- The characters that are tokens of their own wherever they stand outside of literals. -/
def loners : List Char := ['(', ')', '[', ']', '\x7b', '\x7d']

theorem eq_singleton_of_mem_loners {kind : TokenKind} {text : List Char} (h : TokenText kind text)
    (hk : kind ≠ .stringLiteral) {c : Char} (hc : c ∈ loners) (hm : c ∈ text) : text = [c] := by
  have hclasses : loners.all (fun c => !isNameChar c && !c.isDigit && c != ':' && c != '*' &&
      c != '$' && c != '.' && fixedTexts.all fun p => p.2 == [c] || !p.2.contains c) = true := by
    decide
  have hclass := List.all_eq_true.1 hclasses c hc
  simp only [Bool.and_eq_true, Bool.not_eq_true', bne_iff_ne, ne_eq, and_assoc] at hclass
  obtain ⟨hname, hdigit, hcolon, hstar, hdollar, hdot, hfixed⟩ := hclass
  have not_digit {ds : List Char} (hds : ∀ d ∈ ds, d.isDigit = true) : c ∉ ds := fun hd => by
    simp [hds c hd] at hdigit
  have not_name {name : List Char} (hn : QualifiedName name) : c ∉ name :=
    hn.not_mem hname ⟨hcolon, hstar⟩
  cases h with
  | literal => exact absurd rfl hk
  | whole _ hd => exact absurd hm (not_digit hd)
  | decimal hw hf _ => simp [not_digit hw, not_digit hf, hdot] at hm
  | varRef hn => simp [not_name hn, hdollar] at hm
  | name hn => exact absurd hm (not_name hn)
  | fixed hf => simpa [hm] using List.all_eq_true.1 hfixed _ hf
  | stray _ => rw [List.mem_singleton.1 hm]

end XslLowering.Expression
