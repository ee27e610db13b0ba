import XslLowering.Proofs.Expression.Rendering

/-!
# The first fault of an expression

What can be wrong with an expression, said of its characters alone. A quote outside of literals starts
a literal that goes on to the next quote of its kind, and brackets count outside of literals:

* `WellNested`: every literal is closed and the brackets are well nested;
* `LeavesOpen`: the brackets that are open at the end of a text in which nothing is wrong so far;
* `FirstFault`: the first thing that is wrong, and the error that reports it.

Reading finds a first fault (`verdict_of_scan`, which follows the tokens with `LeavesOpen`), and there
is no other one: going through the characters (`survey`) comes to each of them
(`surveyFault?_of_firstFault`). `tokenize_fails_at_first_fault` puts the two together.
-/

namespace XslLowering.Expression

open Text

/-! ## What can be wrong -/

/-- The brackets that belong together. -/
def bracketPairs : List (Char × Char) := [('(', ')'), ('[', ']')]

/-- A character that is neither a quote nor a bracket. -/
def isOrdinary (c : Char) : Bool := !isQuote c && !(['(', ')', '[', ']'].contains c)

/-- Every literal is closed, and the brackets outside of literals are well nested. -/
inductive WellNested : List Char → Prop
  | nil : WellNested []
  | ordinary {c : Char} {cs : List Char} : isOrdinary c = true → WellNested cs → WellNested (c :: cs)
  | literal {quote : Char} {content cs : List Char} : isQuote quote = true → quote ∉ content →
    WellNested cs → WellNested (quote :: (content ++ quote :: cs))
  | group {left right : Char} {inside cs : List Char} : (left, right) ∈ bracketPairs →
    WellNested inside → WellNested cs → WellNested (left :: (inside ++ right :: cs))

/-- Nothing is wrong in a text so far, and at its end these brackets are open, the innermost first. -/
inductive LeavesOpen : List Char → List Bracket → Prop
  | nothing {cs : List Char} : WellNested cs → LeavesOpen cs []
  | bracket {before inside : List Char} {left right : Char} {outer : List Bracket} :
    LeavesOpen before outer → (left, right) ∈ bracketPairs → WellNested inside →
    LeavesOpen (before ++ left :: inside) (⟨left, (String.ofList before).utf8ByteSize⟩ :: outer)

/-- What is wrong first in an expression, from the left, with the error that says so. That a bracket
is left open shows only at the end. -/
inductive FirstFault (source : String) : Error → Prop
  | unclosedLiteral {before after : List Char} {quote : Char} {opened : List Bracket} :
    source.toList = before ++ quote :: after → LeavesOpen before opened → isQuote quote = true →
    quote ∉ after →
    FirstFault source (.unterminatedLiteral source (String.ofList before).utf8ByteSize)
  | strayClosing {before after : List Char} {left right : Char} {opened : List Bracket} :
    source.toList = before ++ right :: after → LeavesOpen before opened →
    (left, right) ∈ bracketPairs → (∀ innermost ∈ opened.head?, innermost.delimiter ≠ left) →
    FirstFault source (.unbalancedBracket source right (String.ofList before).utf8ByteSize)
  | unclosedBracket {innermost : Bracket} {outer : List Bracket} :
    LeavesOpen source.toList (innermost :: outer) →
    FirstFault source (.unbalancedBracket source innermost.delimiter innermost.offset)

theorem bracketPairs_cases {left right : Char} (h : (left, right) ∈ bracketPairs) :
    left = '(' ∧ right = ')' ∨ left = '[' ∧ right = ']' := by
  simpa [bracketPairs] using h

theorem isQuote_of_isOrdinary {c : Char} (h : isOrdinary c = true) : isQuote c = false := by
  simp only [isOrdinary, Bool.and_eq_true, Bool.not_eq_true'] at h
  exact h.1

/-! ## Texts put together -/

theorem WellNested.append {cs ds : List Char} (hc : WellNested cs) (hd : WellNested ds) :
    WellNested (cs ++ ds) := by
  induction hc with
  | nil => exact hd
  | ordinary hc _ ih => exact .ordinary hc ih
  | literal hq hm _ ih =>
    rw [List.cons_append, List.append_assoc, List.cons_append]
    exact .literal hq hm ih
  | group hp hinside _ _ ih =>
    rw [List.cons_append, List.append_assoc, List.cons_append]
    exact .group hp hinside ih

theorem wellNested_of_ordinary {cs : List Char} (h : ∀ c ∈ cs, isOrdinary c = true) :
    WellNested cs := by
  induction cs with
  | nil => exact .nil
  | cons c cs ih =>
    rw [List.forall_mem_cons] at h
    exact .ordinary h.1 (ih h.2)

theorem LeavesOpen.wellNested {cs : List Char} (h : LeavesOpen cs []) : WellNested cs := by
  cases h with
  | nothing h => exact h

theorem LeavesOpen.append {cs ds : List Char} {opened : List Bracket} (hc : LeavesOpen cs opened)
    (hd : WellNested ds) : LeavesOpen (cs ++ ds) opened := by
  cases hc with
  | nothing hc => exact .nothing (hc.append hd)
  | bracket hb hp hinside =>
    rw [List.append_assoc, List.cons_append]
    exact .bracket hb hp (hinside.append hd)

theorem LeavesOpen.opening {cs : List Char} {opened : List Bracket} (h : LeavesOpen cs opened)
    {left right : Char} (hp : (left, right) ∈ bracketPairs) :
    LeavesOpen (cs ++ [left]) (⟨left, byteLength cs⟩ :: opened) := by
  rw [← utf8ByteSize_ofList]
  exact .bracket h hp .nil

theorem LeavesOpen.closing {cs : List Char} {innermost : Bracket} {outer : List Bracket}
    (h : LeavesOpen cs (innermost :: outer)) {right : Char}
    (hp : (innermost.delimiter, right) ∈ bracketPairs) : LeavesOpen (cs ++ [right]) outer := by
  cases h with
  | bracket hb _ hinside =>
    rw [List.append_assoc, List.cons_append]
    exact hb.append (.group hp hinside .nil)

/-! ## Reading tokens -/

theorem isOrdinary_of_isSpace {c : Char} (h : isSpace c = true) : isOrdinary c = true := by
  rcases isSpace_cases h with rfl | rfl | rfl | rfl <;> decide

theorem wellNested_blank {blanks : List Char} (h : ∀ b ∈ blanks, isSpace b = true) :
    WellNested blanks :=
  wellNested_of_ordinary fun b hb => isOrdinary_of_isSpace (h b hb)

/-- A bracket is read as one unless it stands in a literal. -/
theorem bracket?_of_toList {t : Token} (h : t.HasText) {c : Char} (hc : c ∈ ['(', ')', '[', ']'])
    (ht : t.text.toList = [c]) : t.bracket? ≠ none := by
  have hkind {k : TokenKind} (hl : lexeme? c [] = some ⟨k, [c], []⟩) : t.kind = k :=
    congrArg Prod.fst (key_eq_of_hasText h hl ht)
  simp only [List.mem_cons, List.not_mem_nil, or_false] at hc
  rcases hc with rfl | rfl | rfl | rfl <;> simp [Token.bracket?, hkind rfl]

/-- There are no brackets in a token that is none, or it is a literal. -/
theorem Token.HasText.wellNested {t : Token} (h : t.HasText) (hb : t.bracket? = none) :
    WellNested t.text.toList := by
  by_cases hk : t.kind = .stringLiteral
  · obtain ⟨quote, content, hq, hm, he⟩ := exists_quote_of_hasText h hk
    exact he ▸ .literal hq hm .nil
  · refine wellNested_of_ordinary fun c hc => ?_
    have hsolid := isSolid_of_tokenText h hk c hc
    have hbracket : c ∉ ['(', ')', '[', ']'] := fun hm => by
      have hloner : c ∈ loners := List.mem_append_left ['\x7b', '\x7d'] hm
      exact bracket?_of_toList h hm (eq_singleton_of_mem_loners h hk hloner hc) hb
    simp only [isSolid, Bool.and_eq_true, Bool.not_eq_true'] at hsolid
    simp [isOrdinary, hsolid.2, hbracket]

/-- What has been found when the tokens of an expression were read, with `checked` the outcome for
its brackets and `unclosed` the offset of a quote that is never closed. -/
def Verdict (source : String) (checked : Except Bracket (List Bracket)) (unclosed : Option Nat) : Prop :=
  match checked, unclosed with
  | .error b, _ => FirstFault source (.unbalancedBracket source b.delimiter b.offset)
  | .ok _, some offset => FirstFault source (.unterminatedLiteral source offset)
  | .ok opened, none => LeavesOpen source.toList opened

section

variable {source : String} {before after : List Char} {opened : List Bracket} {t : Token}
  {ts : List Token} {b : Bracket} {unclosed : Option Nat}

theorem verdict_opening (hb : t.bracket? = some b) (hleft : b.delimiter ∈ ['(', '['])
    (ho : b.offset = byteLength before) (hopened : LeavesOpen before opened)
    (hrest : ∀ inner, LeavesOpen (before ++ [b.delimiter]) inner →
      Verdict source (closeBrackets inner ts) unclosed) :
    Verdict source (closeBrackets opened (t :: ts)) unclosed := by
  have hpair : ∃ right, (b.delimiter, right) ∈ bracketPairs := by
    simpa [bracketPairs, exists_or] using hleft
  have hleft : (b.delimiter == '(' || b.delimiter == '[') = true := by simpa using hleft
  obtain ⟨right, hpair⟩ := hpair
  have hinner := hopened.opening hpair
  rw [← ho] at hinner
  simp only [closeBrackets, hb, hleft, ↓reduceIte]
  exact hrest _ hinner

/-- A closing bracket ends the innermost group, or it is a fault. -/
theorem verdict_closing (hb : t.bracket? = some b) (hright : b.delimiter ∈ [')', ']'])
    (ho : b.offset = byteLength before) (hopened : LeavesOpen before opened)
    (he : source.toList = before ++ b.delimiter :: after)
    (hrest : ∀ outer, LeavesOpen (before ++ [b.delimiter]) outer →
      Verdict source (closeBrackets outer ts) unclosed) :
    Verdict source (closeBrackets opened (t :: ts)) unclosed := by
  simp only [List.mem_cons, List.not_mem_nil, or_false] at hright
  have hpair : (opening b.delimiter, b.delimiter) ∈ bracketPairs := by
    rcases hright with h | h <;> rw [h] <;> decide
  have hleft : (b.delimiter == '(' || b.delimiter == '[') = false := by
    rcases hright with h | h <;> rw [h] <;> decide
  have hfault (hinnermost : ∀ innermost ∈ opened.head?, innermost.delimiter ≠ opening b.delimiter) :
      Verdict source (.error b) unclosed := by
    rw [Verdict, ho, ← utf8ByteSize_ofList]
    exact .strayClosing he hopened hpair hinnermost
  simp only [closeBrackets, hb, hleft, Bool.false_eq_true, ↓reduceIte]
  cases opened with
  | nil => exact hfault (by simp)
  | cons innermost outer =>
    simp only [beq_iff_eq]
    split
    · rename_i hmatch
      exact hrest outer (hopened.closing (hmatch ▸ hpair))
    · rename_i hmatch
      exact hfault (by simpa using hmatch)

/-- Reading goes on from a text without a fault: it finds the first one, or none. -/
theorem verdict_of_scan {cs : List Char} (he : source.toList = before ++ cs)
    (hopened : LeavesOpen before opened) (h : scan (byteLength before) cs = (ts, unclosed)) :
    Verdict source (closeBrackets opened ts) unclosed := by
  induction ts generalizing before cs opened with
  | nil =>
    rcases scan_eq_nil h with ⟨rfl, hblank⟩ | ⟨blanks, quote, rest, rfl, hblank, hq, hm, rfl⟩
    · show LeavesOpen source.toList opened
      exact he ▸ hopened.append (wellNested_blank hblank)
    · rw [← byteLength_append, ← utf8ByteSize_ofList]
      rw [← List.append_assoc] at he
      exact .unclosedLiteral he (hopened.append (wellNested_blank hblank)) hq hm
  | cons t ts ih =>
    obtain ⟨blanks, rest, rfl, hblank, ho, -, ht, -, hrest⟩ := scan_eq_cons h
    have hopened := hopened.append (wellNested_blank hblank)
    have hnext : source.toList = before ++ blanks ++ t.text.toList ++ rest := by simp [he]
    rw [← byteLength_append, ← byteLength_append] at hrest
    cases hb : t.bracket? with
    | none =>
      rw [closeBrackets, hb]
      exact ih hnext (hopened.append (ht.wellNested hb)) hrest
    | some b =>
      obtain ⟨htext, hoffset, hside⟩ := bracket?_eq_some ht hb
      rw [ho, Option.getD_some, ← byteLength_append] at hoffset
      rw [htext] at hnext hrest
      rcases hside with hleft | hright
      · exact verdict_opening hb hleft hoffset hopened fun inner hinner => ih hnext hinner hrest
      · exact verdict_closing hb hright hoffset hopened (by simpa using hnext) fun outer houter =>
          ih hnext houter hrest

end

/-- Reading an expression gives its tokens if nothing is wrong, and else the first fault. -/
theorem outcome_tokenize (source : String) :
    (∃ ts, tokenize source = .ok ts ∧ WellNested source.toList) ∨
      ∃ e, tokenize source = .error e ∧ FirstFault source e := by
  unfold tokenize
  generalize hscan : scan 0 source.toList = read
  obtain ⟨ts, unclosed⟩ := read
  have hverdict : Verdict source (closeBrackets [] ts) unclosed :=
    verdict_of_scan (List.nil_append _).symm (.nothing .nil) hscan
  dsimp only
  generalize closeBrackets [] ts = checked at hverdict ⊢
  cases checked with
  | error b => exact .inr ⟨_, rfl, hverdict⟩
  | ok opened =>
    cases unclosed with
    | some offset => exact .inr ⟨_, rfl, hverdict⟩
    | none =>
      cases opened with
      | nil => exact .inl ⟨ts, rfl, LeavesOpen.wellNested hverdict⟩
      | cons innermost outer => exact .inr ⟨_, rfl, .unclosedBracket hverdict⟩

/-! ## No other first fault -/

/-- Goes through the characters of a text that starts at `offset`, with `quote` the quote of the
literal that it starts in. Gives the quote of the literal that it ends in and the brackets that are
open there, or fails with a closing bracket that does not match. -/
def survey (opened : List Bracket) (quote : Option Bracket) (offset : Nat) :
    List Char → Except Bracket (Option Bracket × List Bracket)
  | [] => .ok (quote, opened)
  | c :: cs =>
    match quote with
    | some q => survey opened (if c = q.delimiter then none else some q) (offset + c.utf8Size) cs
    | none =>
      if isQuote c then survey opened (some ⟨c, offset⟩) (offset + c.utf8Size) cs
      else if isOrdinary c then survey opened none (offset + c.utf8Size) cs
      else if c = '(' ∨ c = '[' then survey (⟨c, offset⟩ :: opened) none (offset + c.utf8Size) cs
      else if opened.head?.any (·.delimiter == opening c) then
        survey opened.tail none (offset + c.utf8Size) cs
      else .error ⟨c, offset⟩

theorem survey_quoted {quote : Bracket} {content : List Char} (h : quote.delimiter ∉ content)
    (opened : List Bracket) (offset : Nat) (rest : List Char) :
    survey opened (some quote) offset (content ++ rest) =
      survey opened (some quote) (offset + byteLength content) rest := by
  induction content generalizing offset with
  | nil => rfl
  | cons c content ih =>
    rw [List.mem_cons, not_or] at h
    rw [List.cons_append, survey, if_neg (Ne.symm h.1), ih h.2, byteLength_cons, Nat.add_assoc]

theorem survey_left {left right : Char} (h : (left, right) ∈ bracketPairs) (opened : List Bracket)
    (offset : Nat) (cs : List Char) :
    survey opened none offset (left :: cs) =
      survey (⟨left, offset⟩ :: opened) none (offset + left.utf8Size) cs := by
  rcases bracketPairs_cases h with ⟨rfl, rfl⟩ | ⟨rfl, rfl⟩ <;> rfl

theorem survey_right {left right : Char} (h : (left, right) ∈ bracketPairs) (opened : List Bracket)
    (offset : Nat) (cs : List Char) :
    survey opened none offset (right :: cs) =
      if opened.head?.any (·.delimiter == left) then
        survey opened.tail none (offset + right.utf8Size) cs
      else .error ⟨right, offset⟩ := by
  rcases bracketPairs_cases h with ⟨rfl, rfl⟩ | ⟨rfl, rfl⟩ <;> rfl

/-- What is well nested leaves everything as it was. -/
theorem survey_append {cs : List Char} (h : WellNested cs) (opened : List Bracket) (offset : Nat)
    (rest : List Char) :
    survey opened none offset (cs ++ rest) = survey opened none (offset + byteLength cs) rest := by
  induction h generalizing opened offset rest with
  | nil => rfl
  | @ordinary c cs hc _ ih =>
    simp only [List.cons_append, survey, isQuote_of_isOrdinary hc, hc, Bool.false_eq_true, ↓reduceIte,
      ih, byteLength_cons, Nat.add_assoc]
  | @literal quote content cs hq hm _ ih =>
    have hquoted := @survey_quoted ⟨quote, offset⟩ content hm opened (offset + quote.utf8Size)
      (quote :: (cs ++ rest))
    simp only [List.cons_append, List.append_assoc, survey, hq, ↓reduceIte, hquoted, ih,
      byteLength_cons, byteLength_append, Nat.add_assoc]
  | @group left right inside cs hp _ _ ihinside ih =>
    rw [List.cons_append, List.append_assoc, List.cons_append, survey_left hp, ihinside,
      survey_right hp, if_pos (by simp), List.tail_cons, ih]
    simp only [byteLength_cons, byteLength_append, Nat.add_assoc]

theorem survey_of_leavesOpen {cs : List Char} {opened : List Bracket} (h : LeavesOpen cs opened)
    (rest : List Char) :
    survey [] none 0 (cs ++ rest) = survey opened none (byteLength cs) rest := by
  induction h generalizing rest with
  | nothing h => rw [survey_append h, Nat.zero_add]
  | bracket _ hp hinside ih =>
    rw [List.append_assoc, ih, List.cons_append, survey_left hp, survey_append hinside,
      utf8ByteSize_ofList, byteLength_append, byteLength_cons, Nat.add_assoc]

/-- The fault that is found by going through the characters. -/
def surveyFault? (source : String) : Option Error :=
  match survey [] none 0 source.toList with
  | .error b => some (.unbalancedBracket source b.delimiter b.offset)
  | .ok (some quote, _) => some (.unterminatedLiteral source quote.offset)
  | .ok (none, innermost :: _) =>
    some (.unbalancedBracket source innermost.delimiter innermost.offset)
  | .ok (none, []) => none

theorem surveyFault?_of_wellNested {source : String} (h : WellNested source.toList) :
    surveyFault? source = none := by
  have hsurvey := survey_append h [] 0 []
  rw [List.append_nil] at hsurvey
  rw [surveyFault?, hsurvey]
  rfl

theorem surveyFault?_of_firstFault {source : String} {e : Error} (h : FirstFault source e) :
    surveyFault? source = some e := by
  cases h with
  | @unclosedLiteral before after quote opened he hopened hq hm =>
    have hsurvey : survey [] none 0 source.toList =
        .ok (some ⟨quote, byteLength before⟩, opened) := by
      have hquoted := @survey_quoted ⟨quote, byteLength before⟩ after hm opened
        (byteLength before + quote.utf8Size) []
      rw [List.append_nil] at hquoted
      simp only [he, survey_of_leavesOpen hopened, survey, hq, ↓reduceIte, hquoted]
    rw [surveyFault?, hsurvey, utf8ByteSize_ofList]
  | @strayClosing before after left right opened he hopened hp hinnermost =>
    have hsurvey : survey [] none 0 source.toList = .error ⟨right, byteLength before⟩ := by
      rw [he, survey_of_leavesOpen hopened, survey_right hp, if_neg]
      simpa [Option.any_eq_true] using hinnermost
    rw [surveyFault?, hsurvey, utf8ByteSize_ofList]
  | @unclosedBracket innermost outer hopened =>
    have hsurvey := survey_of_leavesOpen hopened []
    rw [List.append_nil] at hsurvey
    rw [surveyFault?, hsurvey]
    rfl

/-- An expression can be read if and only if its literals are closed and its brackets are well nested.
Otherwise the error is the first fault. -/
theorem tokenize_fails_at_first_fault (source : String) :
    ((∃ ts, tokenize source = .ok ts) ↔ WellNested source.toList) ∧
      ∀ e, tokenize source = .error e ↔ FirstFault source e := by
  rcases outcome_tokenize source with ⟨ts, hts, hnested⟩ | ⟨e, he, hfault⟩
  · refine ⟨⟨fun _ => hnested, fun _ => ⟨ts, hts⟩⟩, fun e => ⟨fun he => ?_, fun hfault => ?_⟩⟩
    · cases hts.symm.trans he
    · cases (surveyFault?_of_wellNested hnested).symm.trans (surveyFault?_of_firstFault hfault)
  · refine ⟨⟨fun ⟨ts, hts⟩ => ?_, fun hnested => ?_⟩, fun e' => ⟨fun he' => ?_, fun hfault' => ?_⟩⟩
    · cases he.symm.trans hts
    · cases (surveyFault?_of_wellNested hnested).symm.trans (surveyFault?_of_firstFault hfault)
    · cases he.symm.trans he'
      exact hfault
    · cases (surveyFault?_of_firstFault hfault).symm.trans (surveyFault?_of_firstFault hfault')
      exact he

example : tokenize "f(]'" = .error (.unbalancedBracket "f(]'" ']' 2) := by decide +kernel

end XslLowering.Expression
