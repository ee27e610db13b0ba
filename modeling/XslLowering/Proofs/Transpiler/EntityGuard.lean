import XslLowering.Proofs.Document.DeclaredEntities
import XslLowering.Proofs.Transpiler.Idempotence

/-!
# The guard against declared entities

A transpiler that does not allow declared entities refuses the documents whose document type, at the
top, declares some (`outcome_process_of_refused`).

* `parseUndeclared_of_transpileText`: what it accepts was read without declared entities, if it has
  no other document types or they give no replacement texts;
* `not_parseUndeclared_inner_doctype`: a document type inside an element is expanded and accepted.
-/

namespace XslLowering

theorem Edit.outcome_onFirst {σ τ ε α : Type} (x : Edit σ ε α) (s : σ) (u : τ) :
    (x.onFirst : Edit (σ × τ) ε α).outcome (s, u) = (((x.outcome s).1, u), (x.outcome s).2) := rfl

namespace Transpiler

open Document

variable {t : Transpiler} {d : Document}

theorem result_checkEntities (t : Transpiler) (d : Document) :
    (t.checkEntities d).result =
      if t.settings.disableEntities && !d.declaredEntities.isEmpty then .error .containsEntities
      else .ok () := by
  unfold checkEntities
  split <;> rfl

/-- A document with declared entities is refused, and left as it is. -/
theorem outcome_process_of_refused (ht : t.settings.disableEntities = true)
    (hd : d.declaredEntities ≠ []) : t.process.outcome d = (d, .error .containsEntities) := by
  have hcheck : (t.checkEntities d).result = .error .containsEntities := by
    rw [result_checkEntities, ht, if_pos (by simpa using hd)]
  simp [process, hcheck]

theorem declaredEntities_of_process (ht : t.settings.disableEntities = true) {output : String}
    (h : (t.process.outcome d).2 = .ok output) : d.declaredEntities = [] := by
  by_cases hd : d.declaredEntities = []
  · exact hd
  · rw [outcome_process_of_refused ht hd] at h
    cases h

theorem outcome_transpileRoot_of_none {files : Files} {c : Cache} (h : t.cacheKey? files d = none) :
    (t.transpileRoot files).outcome (d, c) =
      (((t.process.outcome d).1, c), (t.process.outcome d).2) := by
  simp [transpileRoot, h, Edit.outcome_onFirst]

/-- A text belongs to no file, so nothing is kept for it. -/
theorem exists_of_transpileText {source output : String}
    (h : (t.transpileText source).result = .ok output) :
    ∃ d, (parse source).result = .ok d ∧ (t.process.outcome d).2 = .ok output := by
  obtain ⟨d, hd, h⟩ := Attempt.exists_of_result_bind h
  have hparse : (parse source).result = .ok d := mapError_eq_ok.1 hd
  have hkey : t.cacheKey? .empty d = none := by
    rw [cacheKey?, uri_of_parse hparse]
    split <;> rfl
  have hroot : ((t.transpileRoot .empty).outcome (d, Cache.empty)).2 = .ok output := h
  rw [outcome_transpileRoot_of_none hkey] at hroot
  exact ⟨d, hparse, hroot⟩

/-- What a transpiler with the guard accepts was read without declared entities if every attribute
can be read so; and that is so if no document type but the one at the top, which the guard looks at,
gives replacement texts. -/
theorem parseUndeclared_of_transpileText (ht : t.settings.disableEntities = true)
    {source output : String} (h : (t.transpileText source).result = .ok output) :
    ∃ d, (parse source).result = .ok d ∧
      ((parseUndeclared source).result = .ok d ↔ PlainTags source) ∧
      ((∀ id markup, d.kind id = .raw .doctype markup →
          d.doctype? = some markup ∨ Markup.internalEntities markup = ∅) →
        (parseUndeclared source).result = .ok d) := by
  obtain ⟨d, hd, hprocess⟩ := exists_of_transpileText h
  have hiff : (parseUndeclared source).result = .ok d ↔ PlainTags source :=
    parseUndeclared_eq_ok_iff.trans (and_iff_right hd)
  refine ⟨d, hd, hiff, fun hdoctypes => hiff.2 (plainTags_of_parse hd fun id markup hk => ?_)⟩
  rcases hdoctypes id markup hk with hfirst | hempty
  · have hnone := declaredEntities_of_process ht hprocess
    rw [Document.declaredEntities, hfirst] at hnone
    exact Markup.internalEntities_eq_empty hnone
  · exact hempty

set_option maxRecDepth 4000 in
/-- A document type whose only declaration is commented out. -/
theorem parseUndeclared_commented_declaration :
    ∃ output d, (standard.transpileText
        "<!DOCTYPE r [<!-- <!ENTITY e 'x'> -->]><r a='&lt;&#10;'/>").result = .ok output ∧
      (parse "<!DOCTYPE r [<!-- <!ENTITY e 'x'> -->]><r a='&lt;&#10;'/>").result = .ok d ∧
      (parseUndeclared "<!DOCTYPE r [<!-- <!ENTITY e 'x'> -->]><r a='&lt;&#10;'/>").result = .ok d := by
  have hd : (parse "<!DOCTYPE r [<!-- <!ENTITY e 'x'> -->]><r a='&lt;&#10;'/>").result =
      .ok ⟨#[⟨.document, none, [1, 2]⟩,
        ⟨.raw .doctype "<!DOCTYPE r [<!-- <!ENTITY e 'x'> -->]>", some 0, []⟩,
        ⟨.element ⟨"r", [⟨"a", "<\n"⟩]⟩, some 0, []⟩], none⟩ := by decide +kernel
  have houtput : (standard.transpileText
      "<!DOCTYPE r [<!-- <!ENTITY e 'x'> -->]><r a='&lt;&#10;'/>").result =
        .ok "<!DOCTYPE r [<!-- <!ENTITY e 'x'> -->]><r a=\x22&lt;&#10;\x22/>" := by decide +kernel
  obtain ⟨d, hparse, -, hplain⟩ := parseUndeclared_of_transpileText (by decide) houtput
  refine ⟨_, d, houtput, hparse, hplain ?_⟩
  cases hd.symm.trans hparse
  intro id markup hk
  rcases id with _ | _ | _ | id
  · cases hk
  · cases hk
    exact .inl (by decide +kernel)
  · cases hk
  · cases hk

set_option maxRecDepth 4000 in
/-- The guard does not see a document type inside an element. -/
theorem not_parseUndeclared_inner_doctype :
    ∃ output d, standard.settings.disableEntities = true ∧
      (standard.transpileText "<r><!DOCTYPE r [<!ENTITY e 'boom'>]><a t='&e;'/></r>").result =
        .ok output ∧
      (parse "<r><!DOCTYPE r [<!ENTITY e 'boom'>]><a t='&e;'/></r>").result = .ok d ∧
      (parseUndeclared "<r><!DOCTYPE r [<!ENTITY e 'boom'>]><a t='&e;'/></r>").result ≠ .ok d := by
  have hd : (parse "<r><!DOCTYPE r [<!ENTITY e 'boom'>]><a t='&e;'/></r>").result =
      .ok ⟨#[⟨.document, none, [1]⟩, ⟨.element ⟨"r", []⟩, some 0, [2, 3]⟩,
        ⟨.raw .doctype "<!DOCTYPE r [<!ENTITY e 'boom'>]>", some 1, []⟩,
        ⟨.element ⟨"a", [⟨"t", "boom"⟩]⟩, some 1, []⟩], none⟩ := by decide +kernel
  have houtput : (standard.transpileText "<r><!DOCTYPE r [<!ENTITY e 'boom'>]><a t='&e;'/></r>").result =
      .ok "<r><!DOCTYPE r [<!ENTITY e 'boom'>]><a t=\x22boom\x22/></r>" := by decide +kernel
  refine ⟨_, _, rfl, houtput, hd, ?_⟩
  decide +kernel

end Transpiler

end XslLowering
