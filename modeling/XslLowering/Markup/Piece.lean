import XslLowering.Document.Node
import XslLowering.Markup.Doctype
import XslLowering.Markup.Error
import XslLowering.Markup.Tag

/-!
# Pieces of markup

`pieces` splits markup into tags, texts, references and everything else that markup is made of. The
splitting is lenient: a tag is whatever stands between angle brackets, and the name in it may be
anything.

`next_suffix` says that what follows a piece is the end of the text; so the pieces, put together,
are the text, as far as it can be split (`flatten_pieces`).
-/

namespace XslLowering.Markup

open Text

/-- What a piece of markup is. -/
inductive Event where
  /-- A start tag, by what stands between the angle brackets. -/
  | opening (content : List Char)
  /-- The tag of an element without content, by what stands before its slash. -/
  | empty (content : List Char)
  /-- An end tag, by its name. -/
  | closing (name : List Char)
  | text
  | reference
  | raw (kind : RawKind)
deriving DecidableEq

/-- A character of plain text. -/
def isTextChar (c : Char) : Bool := c != '<' && c != '&'

/-- Whether an instruction with this content is the declaration of the document. -/
def isDeclaration (content : List Char) : Bool :=
  content == "xml".toList ||
    match stripLead "xml".toList content with
    | some (c :: _) => isSpace c
    | _ => false

/-- Whether the text after `<?`, which is not closed, was meant as the declaration. -/
def startsDeclaration (cs : List Char) : Bool :=
  match stripLead "xml".toList cs with
  | some (c :: _) => isSpace c || c == '?'
  | some [] => true
  | none => false

/-- What follows the text of a reference, given what stands after its `&`. -/
def nextReference (cs : List Char) : Except Fault (Event × List Char) :=
  match cs.dropWhile fun c => c != '&' && c != '<' && c != ';' with
  | ';' :: rest => .ok (.reference, rest)
  | _ => .error .unclosedReference

/-- The instruction or declaration after `<?`. -/
def nextInstruction (cs : List Char) : Except Fault (Event × List Char) :=
  if ['>'].isPrefixOf cs then .error .unclosedInstruction
  else
    match splitAtSeq ['?', '>'] cs with
    | some (content, rest) =>
      .ok (.raw (if isDeclaration content then .declaration else .instruction), rest)
    | none =>
      .error (if startsDeclaration cs then .unclosedDeclaration else .unclosedInstruction)

/-- Whether a text starts with `DOCTYPE`, in letters of any case. -/
def startsDoctype (cs : List Char) : Bool := (cs.take 7).map Char.toUpper == "DOCTYPE".toList

/-- The document type declaration after `<!`. -/
def nextDoctype (cs : List Char) : Except Fault (Event × List Char) :=
  match doctypeRest cs with
  | none => .error .unclosedDoctype
  | some rest =>
    if startsDoctype cs then
      let content := (cs.take (cs.length - rest.length - 1)).drop 7
      if content.all isSpace then .error .missingDoctypeName else .ok (.raw .doctype, rest)
    else .error .unclosedDoctype

/-- A raw piece that starts with `lead` and ends with `tail`. -/
def nextDelimited (kind : RawKind) (unclosed : Fault) (lead tail cs : List Char) :
    Except Fault (Event × List Char) :=
  match stripLead lead cs with
  | none => .error unclosed
  | some inner =>
    match afterSeq tail inner with
    | some rest => .ok (.raw kind, rest)
    | none => .error unclosed

/-- The piece after `<!`. -/
def nextBang (cs : List Char) : Except Fault (Event × List Char) :=
  match cs with
  | '[' :: _ => nextDelimited .cdata .unclosedCData "[CDATA[".toList "]]>".toList cs
  | '-' :: _ => nextDelimited .comment .unclosedComment "--".toList "-->".toList cs
  | 'D' :: _ => nextDoctype cs
  | 'd' :: _ => nextDoctype cs
  | _ => .error .invalidBang

/-- The fault of a tag that ends with these quotes open. -/
def unclosed : Option Char → Fault
  | none => .unclosedTag
  | some quote => if quote == '\x27' then .unclosedSingleQuoted else .unclosedDoubleQuoted

/-- The start tag or empty tag with this content. -/
def tagEvent (content : List Char) : Event :=
  if content.getLast? = some '/' then .empty content.dropLast else .opening content

/-- The tag after `<`. -/
def nextTag (cs : List Char) : Except Fault (Event × List Char) :=
  match splitAtGt none cs with
  | .error quote => .error (unclosed quote)
  | .ok (content, rest) =>
    match content with
    | '/' :: name => .ok (.closing (endTagName name), rest)
    | _ => .ok (tagEvent content, rest)

/-- The first piece of a text that starts with `c`, and what follows it. -/
def next (c : Char) (cs : List Char) : Except Fault (Event × List Char) :=
  if c == '&' then nextReference cs
  else if c == '<' then
    match cs with
    | '!' :: rest => nextBang rest
    | '?' :: rest => nextInstruction rest
    | _ => nextTag cs
  else .ok (.text, cs.dropWhile isTextChar)

/-! ## What follows a piece is the end of the text -/

theorem afterSeq_suffix {seq cs rest : List Char} (h : afterSeq seq cs = some rest) :
    rest <:+ cs := by
  obtain ⟨⟨before, after⟩, hs, rfl⟩ := Option.map_eq_some_iff.1 h
  exact ⟨before ++ seq, (splitAtSeq_eq_some hs).symm⟩

theorem splitAtGt_suffix {quote : Option Char} {cs before after : List Char}
    (h : splitAtGt quote cs = .ok (before, after)) : after <:+ cs :=
  ⟨before ++ ['>'], by simp [splitAtGt_eq_ok h]⟩

theorem stripLead_suffix {lead cs rest : List Char} (h : stripLead lead cs = some rest) :
    rest <:+ cs :=
  ⟨lead, (stripLead_eq_some h).symm⟩

theorem afterSubsetMarkup_suffix {cs rest : List Char} (h : afterSubsetMarkup cs = some rest) :
    rest <:+ cs := by
  unfold afterSubsetMarkup at h
  split at h
  · exact (afterSeq_suffix h).trans (List.drop_suffix ..)
  · split at h
    · exact (afterSeq_suffix h).trans (List.drop_suffix ..)
    · split at h
      · split at h
        · next hs =>
          cases h
          exact splitAtGt_suffix hs
        · cases h
      · exact afterSeq_suffix h

theorem subsetRest_suffix {cs rest : List Char} (h : subsetRest cs = some rest) : rest <:+ cs := by
  fun_induction subsetRest cs with
  | case1 => cases h
  | case2 c cs _ => exact (afterSeq_suffix h).trans (List.suffix_cons ..)
  | case3 c cs _ _ cs' hs ih =>
    exact (ih h).trans ((afterSubsetMarkup_suffix hs).trans (List.suffix_cons ..))
  | case4 => cases h
  | case5 c cs _ _ ih => exact (ih h).trans (List.suffix_cons ..)

theorem doctypeRest_suffix {cs rest : List Char} (h : doctypeRest cs = some rest) :
    rest <:+ cs := by
  fun_induction doctypeRest cs with
  | case1 => cases h
  | case2 c cs _ =>
    cases h
    exact List.suffix_cons ..
  | case3 c cs _ _ => exact (subsetRest_suffix h).trans (List.suffix_cons ..)
  | case4 => cases h
  | case5 c cs _ _ _ closing cs' hd ih =>
    have : cs' <:+ cs := (List.suffix_cons closing cs').trans (hd ▸ List.dropWhile_suffix _)
    exact (ih h).trans (this.trans (List.suffix_cons ..))
  | case6 c cs _ _ _ ih => exact (ih h).trans (List.suffix_cons ..)

theorem nextReference_suffix {cs rest : List Char} {e : Event}
    (h : nextReference cs = .ok (e, rest)) : rest <:+ cs := by
  unfold nextReference at h
  split at h
  · next hd =>
    cases h
    exact (List.suffix_cons ';' rest).trans (hd ▸ List.dropWhile_suffix _)
  · cases h

theorem nextInstruction_suffix {cs rest : List Char} {e : Event}
    (h : nextInstruction cs = .ok (e, rest)) : rest <:+ cs := by
  unfold nextInstruction at h
  split at h
  · cases h
  · split at h
    · next hs =>
      cases h
      exact ⟨_, (splitAtSeq_eq_some hs).symm⟩
    · cases h

theorem nextDoctype_suffix {cs rest : List Char} {e : Event}
    (h : nextDoctype cs = .ok (e, rest)) : rest <:+ cs := by
  unfold nextDoctype at h
  split at h
  · cases h
  · next hd =>
    split at h
    · simp only at h
      split at h
      · cases h
      · cases h
        exact doctypeRest_suffix hd
    · cases h

theorem nextDelimited_suffix {kind : RawKind} {fault : Fault} {lead tail cs rest : List Char}
    {e : Event} (h : nextDelimited kind fault lead tail cs = .ok (e, rest)) : rest <:+ cs := by
  unfold nextDelimited at h
  split at h
  · cases h
  · next hl =>
    split at h
    · next ht =>
      cases h
      exact (afterSeq_suffix ht).trans (stripLead_suffix hl)
    · cases h

theorem nextBang_suffix {cs rest : List Char} {e : Event} (h : nextBang cs = .ok (e, rest)) :
    rest <:+ cs := by
  unfold nextBang at h
  split at h
  · exact nextDelimited_suffix h
  · exact nextDelimited_suffix h
  · exact nextDoctype_suffix h
  · exact nextDoctype_suffix h
  · cases h

theorem nextTag_suffix {cs rest : List Char} {e : Event} (h : nextTag cs = .ok (e, rest)) :
    rest <:+ cs := by
  unfold nextTag at h
  split at h
  · cases h
  · next hs =>
    split at h <;> cases h <;> exact splitAtGt_suffix hs

theorem next_suffix {c : Char} {cs rest : List Char} {e : Event} (h : next c cs = .ok (e, rest)) :
    rest <:+ cs := by
  unfold next at h
  split at h
  · exact nextReference_suffix h
  · split at h
    · split at h
      · exact (nextBang_suffix h).trans (List.suffix_cons ..)
      · exact (nextInstruction_suffix h).trans (List.suffix_cons ..)
      · exact nextTag_suffix h
    · cases h
      exact List.dropWhile_suffix _

/-! ## All pieces -/

/-- A piece of markup and its text. -/
structure Piece where
  event : Event
  markup : List Char
deriving DecidableEq

/-- Splits a text into pieces, up to the first fault if there is one. -/
def pieces (cs : List Char) : List Piece × Option Fault :=
  match cs with
  | [] => ([], none)
  | c :: rest =>
    match _h : next c rest with
    | .error fault => ([], some fault)
    | .ok (event, after) =>
      let (others, fault) := pieces after
      (⟨event, (c :: rest).take (rest.length + 1 - after.length)⟩ :: others, fault)
termination_by cs.length
decreasing_by
  have := (next_suffix _h).length_le
  simp
  omega

/-- Without a fault nothing of the text is lost. -/
theorem flatten_pieces {cs : List Char} (h : (pieces cs).2 = none) :
    (pieces cs).1.flatMap (·.markup) = cs := by
  fun_induction pieces cs with
  | case1 => rfl
  | case2 => cases h
  | case3 c cs event after hn others fault hp ih =>
    obtain ⟨before, rfl⟩ := next_suffix hn
    rw [hp] at ih
    simp only at h ih
    rw [List.flatMap_cons, ih h]
    simp [show before.length + after.length + 1 - after.length = before.length + 1 by omega]

/-- Cuts a text into parts with the sizes in bytes of the given pieces. The first piece whose part
would end inside a character has none, and there the cutting ends. -/
def cutLike : List Piece → List Char → List (Event × List Char) × Option Event
  | [], _ => ([], none)
  | p :: ps, cs =>
    match splitBytes? (byteLength p.markup) cs with
    | none => ([], some p.event)
    | some (part, rest) =>
      let (parts, severed) := cutLike ps rest
      ((p.event, part) :: parts, severed)

/-- Cut like its own pieces, a text gives them back. -/
theorem cutLike_flatten (ps : List Piece) (tail : List Char) :
    cutLike ps (ps.flatMap (·.markup) ++ tail) = (ps.map fun p => (p.event, p.markup), none) := by
  induction ps with
  | nil => rfl
  | cons p ps ih =>
    rw [List.flatMap_cons, List.append_assoc, cutLike, splitBytes?_append, List.map_cons]
    simp only [ih]

end XslLowering.Markup
