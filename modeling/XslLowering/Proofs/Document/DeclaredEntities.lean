import XslLowering.Proofs.Document.WrittenTags
import XslLowering.Proofs.Document.DocumentOrder

/-!
# Documents without declared entities

`parseUndeclared` reads a document as if no declaration of its document types counted.

* `attributesFrom_mono`: what can be read without declared entities is read alike with them;
* `internalEntities_eq_empty`: a document type without declarations gives no replacement texts;
* `parseUndeclared_eq_ok_iff`: so both readings give the same document exactly if all attributes can
  be read without declared entities (`PlainTags`);
* `plainTags_of_parse`: they can if no document type in the document gives replacement texts, since
  then the reader never knows any (`Reading.exists_entities_eq_empty`).
-/

namespace XslLowering.Markup

open Text

/-! ## Values without declared entities -/

theorem resolveReference_mono {resolve : String → Option String} (hr : Respects resolve) {start : Nat}
    {body text : List Char} (h : resolveReference predefined start body = .ok text) :
    resolveReference resolve start body = .ok text := by
  unfold resolveReference at h ⊢
  split at h
  · exact h
  · split at h
    · rename_i replacement hp
      simp only [hr _ _ hp]
      exact h
    · cases h

/-- What can be resolved without declarations is resolved alike with them. -/
theorem unescapeFrom_mono {resolve : String → Option String} (hr : Respects resolve) {total : Nat}
    {cs texts : List Char} (h : unescapeFrom predefined total cs = .ok texts) :
    unescapeFrom resolve total cs = .ok texts := by
  fun_induction unescapeFrom predefined total cs generalizing texts with
  | case1 => rw [unescapeFrom, h]
  | case2 c rest hc after hafter ih =>
    obtain rfl : c = '&' := eq_of_beq hc
    obtain ⟨body, rfl, hbody, hsemicolon⟩ := exists_of_dropWhile_eq_cons hafter
    rw [takeWhile_append hbody (not_head?_cons hsemicolon _)] at h
    rw [unescapeFrom_body hbody]
    cases htext : resolveReference predefined (total - byteLength (body ++ ';' :: after)) body with
    | error fault =>
      rw [htext] at h
      cases h
    | ok text =>
      cases hrest : unescapeFrom predefined total after with
      | error fault =>
        rw [htext, hrest] at h
        cases h
      | ok others =>
        rw [htext, hrest] at h
        rw [resolveReference_mono hr htext, ih hrest]
        exact h
  | case3 c rest hc => cases h
  | case4 c rest hc ih =>
    cases hrest : unescapeFrom predefined total rest with
    | error fault =>
      rw [hrest] at h
      cases h
    | ok others =>
      rw [hrest] at h
      cases h
      exact unescapeFrom_plain (by simpa using hc) (ih hrest)

theorem attributesFrom_mono {resolve : String → Option String} (hr : Respects resolve) {total : Nat}
    {seen : List (List Char × Nat)} {cs : List Char} {attributes : List Attribute}
    (h : attributesFrom predefined total seen cs = .ok attributes) :
    attributesFrom resolve total seen cs = .ok attributes := by
  fun_induction attributesFrom predefined total seen cs generalizing attributes with
  | case1 seen cs hd =>
    rw [attributesFrom]
    split
    · exact h
    · rename_i hcons
      rw [hd] at hcons
      cases hcons
  | case2 => cases h
  | case3 => cases h
  | case4 => cases h
  | case5 seen cs c rest hd a hread value hvalue others hothers ih =>
    rw [attributesFrom]
    split
    · rename_i hnil
      rw [hd] at hnil
      cases hnil
    · rename_i hcons
      rw [hd] at hcons
      cases hcons
      split
      · rename_i hfault
        rw [hread] at hfault
        cases hfault
      · rename_i hok
        rw [hread] at hok
        cases hok
        rw [show unescape resolve a.value = .ok value from unescapeFrom_mono hr hvalue, ih hothers]
        exact h

/-! ## Declarations with replacement texts -/

theorem findAll_eq_nil_iff {α : Type} {match? : List Char → Option (α × List Char)}
    {cs : List Char} :
    findAll match? cs = [] ↔ ∀ c rest, c :: rest <:+ cs → match? (c :: rest) = none := by
  induction cs with
  | nil =>
    rw [findAll]
    refine ⟨fun _ c rest hs => ?_, fun _ => rfl⟩
    cases List.suffix_nil.1 hs
  | cons c cs ih =>
    rw [findAll]
    split
    · rename_i a after hm
      refine ⟨fun h => ?_, fun h => ?_⟩
      · split at h <;> cases h
      · have hnone := h c cs (List.suffix_refl _)
        rw [hm] at hnone
        cases hnone
    · rename_i hm
      rw [ih]
      refine ⟨fun h d rest hs => ?_, fun h d rest hs => h d rest (hs.trans (List.suffix_cons c cs))⟩
      rcases List.suffix_cons_iff.1 hs with heq | hs
      · rw [heq, hm]
      · exact h d rest hs

theorem nameWhile?_eq_none_iff {p : Char → Bool} {cs : List Char} :
    nameWhile? p cs = none ↔ ∀ c, cs.head? = some c → p c = false := by
  cases cs with
  | nil => simp [nameWhile?]
  | cons c cs => cases hc : p c <;> simp [nameWhile?, hc]

/-- A declaration by a replacement text is a declaration. -/
theorem internalDeclaration?_eq_none {cs : List Char} (h : declaration? cs = none) :
    internalDeclaration? cs = none := by
  cases hk : afterEntityKeyword? cs with
  | none => simp [internalDeclaration?, hk]
  | some rest =>
    have hany : nameWhile? isEntityNameChar rest = none := by
      simp only [declaration?, hk, Option.bind_eq_bind, Option.bind_some,
        Option.orElse_eq_orElse] at h
      cases hp : parameterName? rest with
      | none => rwa [hp] at h
      | some name =>
        rw [hp] at h
        cases h
    have hname : nameWhile? (fun c => isEntityNameChar c && c != '%') rest = none := by
      rw [nameWhile?_eq_none_iff] at hany ⊢
      intro c hc
      rw [hany c hc, Bool.false_and]
    simp [internalDeclaration?, hk, hname]

theorem internalEntities_eq_empty {doctype : String} (h : declaredEntities doctype = []) :
    internalEntities doctype = ∅ := by
  unfold declaredEntities at h
  unfold internalEntities
  split at h
  · rfl
  · rename_i subset hsubset
    rw [List.map_eq_nil_iff, findAll_eq_nil_iff] at h
    have hnone : findAll internalDeclaration? (stripComments subset) = [] :=
      findAll_eq_nil_iff.2 fun c rest hs => internalDeclaration?_eq_none (h c rest hs)
    simp only [hnone, List.foldl_nil]

end XslLowering.Markup

namespace XslLowering.Document

open Markup

/-! ## Reading without declared entities -/

namespace Reading

/-- The reading in which no entity is declared. -/
def undeclared (r : Reading) : Reading := { r with entities := ∅ }

/-- Takes in all pieces while nothing is ever declared. -/
def stepsUndeclared (r : Reading) : List (Event × List Char) → Attempt Error Reading
  | [] => return r
  | (event, markup) :: rest => do
    let r ← r.undeclared.step event markup
    r.stepsUndeclared rest

end Reading

/-- Reads a document as if it declared no entities. -/
def parseUndeclared (source : String) : Attempt Error Document := do
  let cs := source.toList
  let (parts, fault) := pieces (body cs)
  let (cuts, severed) := cutLike parts cs
  let reading ← Reading.start.stepsUndeclared cuts
  Attempt.ofExcept (reading.conclude severed fault)

/-- The attributes of a tag can be read without declared entities. -/
def PlainTag (event : Event) : Prop :=
  ∀ content, event = .opening content ∨ event = .empty content →
    ∃ attributes, readAttributes predefined content = .ok attributes

/-- All attributes of a source can be read without declared entities. -/
def PlainTags (source : String) : Prop :=
  ∀ piece ∈ (pieces (body source.toList)).1, PlainTag piece.event

namespace Reading

theorem resolve_undeclared (r : Reading) : r.undeclared.resolve = predefined := by
  funext name
  rw [resolve, show r.undeclared.entities.get? name = none from rfl, Option.or_none]

theorem readElement_undeclared (r : Reading) {content : List Char} {attributes : List Attribute}
    (h : readAttributes predefined content = .ok attributes) :
    r.readElement content = r.undeclared.readElement content := by
  have hmono : readAttributes r.resolve content = .ok attributes :=
    attributesFrom_mono r.respects_resolve h
  rw [readElement, readElement, hmono, resolve_undeclared, h]

theorem exists_of_readElement {r : Reading} {content : List Char} {e : Element}
    (h : r.readElement content = .ok e) : ∃ attributes, readAttributes r.resolve content = .ok attributes := by
  unfold readElement at h
  split at h
  · exact ⟨_, ‹_›⟩
  · cases h
  · cases h

theorem plainTag_of_step {r r' : Reading} {event : Event} {markup : List Char} (he : r.entities = ∅)
    (h : (r.step event markup).result = .ok r') : PlainTag event := by
  have hresolve : r.resolve = predefined := by
    rw [← r.resolve_undeclared, undeclared, ← he]
  rintro content (rfl | rfl)
  · obtain ⟨e, hread, -⟩ := Attempt.exists_of_result_bind h
    rw [← hresolve]
    exact exists_of_readElement hread
  · obtain ⟨e, hread, -⟩ := Attempt.exists_of_result_bind h
    rw [← hresolve]
    exact exists_of_readElement hread

theorem close_undeclared (r : Reading) (name : String) :
    (r.undeclared.close name).map undeclared = (r.close name).map undeclared := by
  obtain ⟨document, opened, entities⟩ := r
  cases opened with
  | nil => rfl
  | cons innermost outer =>
    have hclose (table : Dictionary String) :
        (Reading.mk document (innermost :: outer) table).close name =
          if (document.name? innermost).getD "" == name then .ok ⟨document, outer, table⟩
          else .error (.markup (.mismatchedEnd ((document.name? innermost).getD "") name)) := rfl
    rw [undeclared, hclose, hclose]
    split <;> rfl

theorem conclude_undeclared (r : Reading) (severed : Option Event) (fault : Option Fault) :
    r.undeclared.conclude severed fault = r.conclude severed fault := by
  rcases severed with _ | event
  · cases fault <;> rfl
  · cases event with
    | closing name =>
      rw [conclude, conclude]
      rcases map_eq_map_cases (r.close_undeclared (String.ofList name)) with
        ⟨e, h₁, h₂⟩ | ⟨closed, closed', h₁, h₂, -⟩
      · rw [h₁, h₂]
      · rw [h₁, h₂]
        rfl
    | opening content => rfl
    | empty content => rfl
    | text => rfl
    | reference => rfl
    | raw kind => rfl

/-- Only attributes are read differently with declared entities. -/
theorem step_undeclared (r : Reading) {event : Event} (hp : PlainTag event) (markup : List Char) :
    (r.undeclared.step event markup).result.map undeclared =
      (r.step event markup).result.map undeclared := by
  cases event with
  | opening content =>
    obtain ⟨attributes, hread⟩ := hp content (.inl rfl)
    rw [step, step, Attempt.result_bind, Attempt.result_bind, Attempt.result_ofExcept,
      Attempt.result_ofExcept, r.readElement_undeclared hread]
    cases r.undeclared.readElement content <;> rfl
  | empty content =>
    obtain ⟨attributes, hread⟩ := hp content (.inr rfl)
    rw [step, step, Attempt.result_bind, Attempt.result_bind, Attempt.result_ofExcept,
      Attempt.result_ofExcept, r.readElement_undeclared hread]
    cases r.undeclared.readElement content <;> rfl
  | closing name =>
    exact r.close_undeclared (String.ofList name)
  | text =>
    simp only [step]
    cases unescape predefined markup <;> rfl
  | reference =>
    simp only [step]
    cases unescape predefined markup <;> rfl
  | raw kind =>
    simp only [step]
    split <;> rfl

theorem steps_undeclared {r₁ r₂ : Reading} (hr : r₁.undeclared = r₂.undeclared)
    {parts : List (Event × List Char)} (hp : ∀ p ∈ parts, PlainTag p.1) :
    (r₁.stepsUndeclared parts).result.map undeclared = (r₂.steps parts).result.map undeclared := by
  induction parts generalizing r₁ r₂ with
  | nil => exact congrArg Except.ok hr
  | cons p parts ih =>
    obtain ⟨hplain, hparts⟩ := List.forall_mem_cons.1 hp
    rw [stepsUndeclared, steps, Attempt.result_bind, Attempt.result_bind, hr]
    rcases map_eq_map_cases (r₂.step_undeclared hplain p.2) with ⟨e, h₁, h₂⟩ | ⟨r, r', h₁, h₂, hsame⟩
    · rw [h₁, h₂]
      rfl
    · rw [h₁, h₂]
      exact ih hsame hparts

theorem plainTags_of_stepsUndeclared {r r' : Reading} {parts : List (Event × List Char)}
    (h : (r.stepsUndeclared parts).result = .ok r') : ∀ p ∈ parts, PlainTag p.1 := by
  induction parts generalizing r with
  | nil => nofun
  | cons p parts ih =>
    obtain ⟨next, hnext, hs⟩ := Attempt.exists_of_result_bind h
    exact List.forall_mem_cons.2 ⟨plainTag_of_step rfl hnext, ih hs⟩

/-! ## What declares entities -/

/-- Markup that was read stays. -/
theorem kind_step {r r' : Reading} (hr : r.Growing) {event : Event} {markup : List Char}
    (hs : (r.step event markup).result = .ok r') {id : NodeId} {kind : RawKind} {text : String}
    (hk : r.document.kind id = .raw kind text) : r'.document.kind id = .raw kind text := by
  have happend (new : NodeKind) : (r.append new).document.kind id = .raw kind text := by
    have hne : id ≠ r.document.nodes.size := Nat.ne_of_lt (lt_size_of_kind_ne (by simp [hk]))
    show (r.document.append r.current new).kind id = _
    rw [kind_append hr.current_lt, if_neg hne, hk]
  rcases step_cases hs with ⟨content, e, -, -, rfl⟩ | ⟨content, e, -, -, rfl⟩ |
    ⟨name, innermost, outer, -, -, rfl⟩ | ⟨content, -, -, rfl⟩ | ⟨fault, -, -, rfl⟩ | ⟨kind', -, rfl⟩
  · exact happend _
  · exact happend _
  · exact hk
  · show (r.document.appendText r.current (String.ofList content)).kind id = _
    rcases appendText_cases r.document r.current (String.ofList content) with he | ⟨x, existing, hx, he⟩
    · rw [he]
      exact happend _
    · rw [he, kind_replaceText hx, if_neg, hk]
      rintro rfl
      rw [hk] at hx
      cases hx
  · exact happend _
  · exact happend _

theorem kind_steps {r r' : Reading} (hr : r.Growing) {parts : List (Event × List Char)}
    (hs : (r.steps parts).result = .ok r') {id : NodeId} {kind : RawKind} {text : String}
    (hk : r.document.kind id = .raw kind text) : r'.document.kind id = .raw kind text := by
  induction parts generalizing r with
  | nil =>
    cases hs
    exact hk
  | cons p parts ih =>
    obtain ⟨next, hnext, hs⟩ := Attempt.exists_of_result_bind hs
    exact ih (hr.step hnext) hs (kind_step hr hnext hk)

/-- The table of entities is that of the last document type, which stands in the document. -/
theorem entities_step {r r' : Reading} (hr : r.Growing) {event : Event} {markup : List Char}
    (hs : (r.step event markup).result = .ok r') :
    r'.entities = r.entities ∨ ∃ id text, r'.document.kind id = .raw .doctype text ∧
      r'.entities = internalEntities text := by
  rcases step_cases hs with ⟨content, e, -, -, rfl⟩ | ⟨content, e, -, -, rfl⟩ |
    ⟨name, innermost, outer, -, -, rfl⟩ | ⟨content, -, -, rfl⟩ | ⟨fault, -, -, rfl⟩ | ⟨kind, -, rfl⟩
  · exact .inl rfl
  · exact .inl rfl
  · exact .inl rfl
  · exact .inl rfl
  · exact .inl rfl
  · by_cases hkind : kind = .doctype
    · refine .inr ⟨r.document.nodes.size, String.ofList markup, ?_, if_pos hkind⟩
      show (r.document.append r.current (.raw kind (String.ofList markup))).kind _ = _
      rw [kind_append hr.current_lt, if_pos rfl, hkind]
    · exact .inl (if_neg hkind)

/-- The table of entities stays empty while no document type gives replacement texts. -/
theorem exists_entities_eq_empty {r r' : Reading} (hr : r.Growing) (he : r.entities = ∅)
    {first rest : List (Event × List Char)} (hs : (r.steps (first ++ rest)).result = .ok r')
    (hd : ∀ id text, r'.document.kind id = .raw .doctype text → internalEntities text = ∅) :
    ∃ m : Reading, (r.steps first).result = .ok m ∧ (m.steps rest).result = .ok r' ∧
      m.entities = ∅ := by
  induction first generalizing r with
  | nil => exact ⟨r, rfl, hs, he⟩
  | cons p first ih =>
    obtain ⟨next, hnext, hs⟩ := Attempt.exists_of_result_bind hs
    have hgrowing := hr.step hnext
    -- A document type that fills the table here still stands in the document at the end.
    have hempty : next.entities = ∅ := by
      rcases entities_step hr hnext with hsame | ⟨id, text, hkind, htable⟩
      · rw [hsame, he]
      · rw [htable, hd id text (kind_steps hgrowing hs hkind)]
    obtain ⟨m, hm, hrest, hm'⟩ := ih hgrowing hempty hs
    refine ⟨m, ?_, hrest, hm'⟩
    rw [steps, Attempt.result_bind, hnext]
    exact hm

theorem plainTags_of_steps {r r' : Reading} (hr : r.Growing) (he : r.entities = ∅)
    {parts : List (Event × List Char)} (hs : (r.steps parts).result = .ok r')
    (hd : ∀ id text, r'.document.kind id = .raw .doctype text → internalEntities text = ∅) :
    ∀ p ∈ parts, PlainTag p.1 := by
  intro p hp
  obtain ⟨first, rest, rfl⟩ := List.append_of_mem hp
  obtain ⟨m, -, hs, hm⟩ := exists_entities_eq_empty hr he hs hd
  obtain ⟨next, hnext, -⟩ := Attempt.exists_of_result_bind hs
  exact plainTag_of_step hm hnext

end Reading

/-- The parts of a text have the kinds of the first pieces. -/
theorem map_fst_cutLike_isPrefix (ps : List Piece) (cs : List Char) :
    (cutLike ps cs).1.map Prod.fst <+: ps.map (·.event) := by
  induction ps generalizing cs with
  | nil => exact List.nil_prefix
  | cons p ps ih =>
    rw [cutLike]
    split
    · exact List.nil_prefix
    · exact (List.prefix_cons_inj _).2 (ih _)

theorem map_fst_cutLike {ps : List Piece} {cs : List Char} (h : (cutLike ps cs).2 = none) :
    (cutLike ps cs).1.map Prod.fst = ps.map (·.event) := by
  induction ps generalizing cs with
  | nil => rfl
  | cons p ps ih =>
    rw [cutLike] at h ⊢
    split at h
    · cases h
    · exact congrArg (p.event :: ·) (ih h)

theorem PlainTags.plainTag_of_mem_cutLike {source : String} (h : PlainTags source) :
    ∀ p ∈ (cutLike (pieces (body source.toList)).1 source.toList).1, PlainTag p.1 := by
  intro p hp
  have hmem : p.1 ∈ (pieces (body source.toList)).1.map (·.event) :=
    (map_fst_cutLike_isPrefix _ _).subset (List.mem_map_of_mem hp)
  obtain ⟨piece, hpiece, he⟩ := List.mem_map.1 hmem
  exact he ▸ h piece hpiece

theorem plainTags_of_cutLike {source : String}
    (hsevered : (cutLike (pieces (body source.toList)).1 source.toList).2 = none)
    (h : ∀ p ∈ (cutLike (pieces (body source.toList)).1 source.toList).1, PlainTag p.1) :
    PlainTags source := by
  intro piece hpiece
  have hmem : piece.event ∈
      (cutLike (pieces (body source.toList)).1 source.toList).1.map Prod.fst :=
    map_fst_cutLike hsevered ▸ List.mem_map_of_mem hpiece
  obtain ⟨p, hp, he⟩ := List.mem_map.1 hmem
  exact he ▸ h p hp

/-- If all tags are plain, then declared entities make no difference. -/
theorem result_parseUndeclared {source : String} (h : PlainTags source) :
    (parseUndeclared source).result = (parse source).result := by
  have hsteps := @Reading.steps_undeclared Reading.start Reading.start rfl _ h.plainTag_of_mem_cutLike
  simp only [parseUndeclared, parse, Attempt.result_bind]
  rcases map_eq_map_cases hsteps with ⟨e, h₁, h₂⟩ | ⟨r, r', h₁, h₂, hsame⟩
  · simp only [h₁, h₂, bind, Except.bind]
  · simp only [h₁, h₂, bind, Except.bind, Attempt.result_ofExcept]
    rw [← r.conclude_undeclared, hsame, r'.conclude_undeclared]

theorem parseUndeclared_eq_ok_iff {source : String} {d : Document} :
    (parseUndeclared source).result = .ok d ↔ (parse source).result = .ok d ∧ PlainTags source := by
  constructor
  · intro h
    obtain ⟨r, hsteps, hconclude⟩ := Attempt.exists_of_result_bind h
    have hplain := plainTags_of_cutLike (Reading.conclude_eq_ok hconclude).1
      (Reading.plainTags_of_stepsUndeclared hsteps)
    exact ⟨(result_parseUndeclared hplain).symm.trans h, hplain⟩
  · rintro ⟨h, hplain⟩
    rw [result_parseUndeclared hplain, h]

/-- A document whose document types give no replacement texts is read without declared entities. -/
theorem plainTags_of_parse {source : String} {d : Document} (h : (parse source).result = .ok d)
    (hd : ∀ id text, d.kind id = .raw .doctype text → internalEntities text = ∅) :
    PlainTags source := by
  obtain ⟨-, hsevered, r, -, rfl, hsteps⟩ := exists_steps_of_parse h
  exact plainTags_of_cutLike hsevered
    (Reading.plainTags_of_steps Reading.growing_start rfl hsteps hd)

end XslLowering.Document
