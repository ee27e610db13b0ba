import XslLowering.Proofs.Transpiler.SharedCache

/-!
# The output for a document, and the document afterwards

A transpiler that is asked for a document gives its text, and changes the document too.

* `outcome_process_cases`: where the text is computed, it is the text of the changed document, and a
  failure changes nothing;
* `transpileRoot_agrees_unless_kept`: so the two agree, unless the text was kept. Then the text is
  that of an earlier request, and the document stays as it is.
-/

namespace XslLowering.Transpiler

/-- Transpiling succeeds, or it leaves the document as it was. -/
theorem outcome_transpile_cases (t : Transpiler) (d : Document) :
    (∃ d', t.transpile.outcome d = (d', .ok ())) ∨
    ∃ e, t.transpile.outcome d = (d, .error e) := by
  cases hroot : d.documentElement? with
  | none => exact .inl ⟨d, by simp [transpile, hroot]⟩
  | some root =>
    cases hsteps : ((t.steps root).exec d).result with
    | error e => exact .inr ⟨e, by simp [transpile, hroot, hsteps]⟩
    | ok d' => exact .inl ⟨d', by simp [transpile, hroot, hsteps]⟩

/-- What is written is the document as it is then. A document that is refused, or that cannot be
transpiled, stays as it was. -/
theorem outcome_process_cases (t : Transpiler) (d : Document) :
    (∃ d', t.transpile.outcome d = (d', .ok ()) ∧ t.process.outcome d = (d', .ok d'.toMarkup)) ∨
    ∃ e, t.process.outcome d = (d, .error e) := by
  cases hcheck : (t.checkEntities d).result with
  | error e => exact .inr ⟨e, by simp [process, hcheck]⟩
  | ok u =>
    rcases outcome_transpile_cases t d with ⟨d', htranspile⟩ | ⟨e, htranspile⟩
    · exact .inl ⟨d', htranspile, by simp [process, hcheck, htranspile]⟩
    · exact .inr ⟨e, by simp [process, hcheck, htranspile]⟩

/-- After any requests, what is kept for a document was computed for one of them. -/
theorem exists_request_of_kept {requests : List Request} {t : Transpiler} {files : Files}
    {d : Document} {output : String}
    (hkept : t.kept? files d (serveAll requests .empty) = some output) :
    ∃ r ∈ requests, r.key? = t.cacheKey? files d ∧ r.fresh = .ok output := by
  obtain ⟨key, hkey, hget⟩ := Option.bind_eq_some_iff.1 hkept
  obtain ⟨before, r, after, rfl, hstores⟩ := exists_stores hget
  obtain ⟨hrkey, hfresh⟩ := hstores.key?_and_fresh
  exact ⟨r, List.mem_append_right _ List.mem_cons_self, hrkey.trans hkey.symm, hfresh⟩

/-- A failure leaves the document and the cache as they were. Otherwise the output is the text of the
document as transpiling it has left it, unless an output was kept for the document: then that is
given, which was computed for an earlier request with the same key, and the document and the cache
stay as they were. -/
theorem transpileRoot_agrees_unless_kept (t : Transpiler) (files : Files) (d : Document)
    (c : Cache) :
    (∃ e, (t.transpileRoot files).outcome (d, c) = ((d, c), .error e)) ∨
    (∃ d', t.kept? files d c = none ∧ t.transpile.outcome d = (d', .ok ()) ∧
      (t.transpileRoot files).outcome (d, c) =
        ((d', t.keepFor files d d'.toMarkup c), .ok d'.toMarkup)) ∨
    (∃ output, t.kept? files d c = some output ∧
      (t.transpileRoot files).outcome (d, c) = ((d, c), .ok output) ∧
      ∀ requests, c = serveAll requests .empty →
        ∃ r ∈ requests, r.key? = t.cacheKey? files d ∧ r.fresh = .ok output) := by
  cases hkept : t.kept? files d c with
  | some output =>
    refine .inr (.inr ⟨output, rfl, outcome_transpileRoot_of_kept hkept, ?_⟩)
    intro requests hc
    exact exists_request_of_kept (hc ▸ hkept)
  | none =>
    rcases outcome_process_cases t d with ⟨d', htranspile, hprocess⟩ | ⟨e, hprocess⟩
    · exact .inr (.inl ⟨d', rfl, htranspile, outcome_transpileRoot_of_kept_none hkept hprocess⟩)
    · exact .inl ⟨e, outcome_transpileRoot_of_kept_none hkept hprocess⟩

/-- A stylesheet of a version above the one that is written. -/
def newerStylesheet : Files :=
  oneFile "a.xsl" "<x:stylesheet xmlns:x='http://www.w3.org/1999/XSL/Transform' version='2.0'/>"

theorem load_newerStylesheet : (Document.load newerStylesheet "a.xsl").result =
    .ok ⟨#[⟨.document, none, [1]⟩, ⟨.element ⟨"x:stylesheet",
      [⟨"xmlns:x", "http://www.w3.org/1999/XSL/Transform"⟩, ⟨"version", "2.0"⟩]⟩, some 0, []⟩],
      some "a.xsl"⟩ := by
  decide +kernel

set_option maxRecDepth 4000 in
/-- Once the output for a file is kept, the document in it gets that output, and stays as it is. -/
theorem document_behind_kept_output :
    ∃ d d' c output, (Document.load newerStylesheet "a.xsl").result = .ok d ∧
      c = serveAll [.file standardCaching newerStylesheet "a.xsl"] .empty ∧
      ((standardCaching.transpileRoot newerStylesheet).outcome (d, c)).1.1 = d' ∧
      ((standardCaching.transpileRoot newerStylesheet).outcome (d, c)).2 = .ok output ∧
      d'.toMarkup ≠ output := by
  refine ⟨_, _, _, "<x:stylesheet xmlns:x=\"http://www.w3.org/1999/XSL/Transform\" version=\"1.0\"/>",
    load_newerStylesheet, rfl, rfl, ?_, ?_⟩
  all_goals decide +kernel

end XslLowering.Transpiler
