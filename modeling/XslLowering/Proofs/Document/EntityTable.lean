import XslLowering.Proofs.Document.DeclaredEntities
import XslLowering.Proofs.Document.Traversal

/-!
# The table of entities

Attributes are read with a table of the replacement texts that the document type gives. Whether a
document declares entities is found out later, by another search through the same document type. The
two searches need not find the same names, since a find of one may reach over the start of a find of
the other. But where one of them finds anything, the other one does too.

* `SoleDoctype.doctype?`: a document with one document type, at the top, is asked about that one;
* `entity_searches_agree`: if it then is said to declare nothing, its table was empty all the time.
-/

namespace XslLowering.Document

open Markup

/-- The document type at `id` stands at the top of a document, and is the only one in it. -/
structure SoleDoctype (d : Document) (id : NodeId) (markup : String) : Prop where
  kind_eq : d.kind id = .raw .doctype markup
  at_top : d.parent? id = some root
  only {other : NodeId} {text : String} : d.kind other = .raw .doctype text → other = id

namespace SoleDoctype

variable {d : Document} {id : NodeId} {markup : String} (h : d.SoleDoctype id markup)

include h

theorem text_eq {other : NodeId} {text : String} (hk : d.kind other = .raw .doctype text) :
    text = markup := by
  obtain rfl := h.only hk
  cases hk.symm.trans h.kind_eq
  rfl

theorem doctype? (hd : d.Ordered) : d.doctype? = some markup := by
  have hchild : id ∈ d.children root := hd.mem_children_iff.2 h.at_top
  rw [Document.doctype?]
  cases hfound : (d.children root).findSome? _ with
  | none =>
    have hnone := List.findSome?_eq_none_iff.1 hfound id hchild
    simp [h.kind_eq] at hnone
  | some text =>
    obtain ⟨other, -, hother⟩ := List.exists_of_findSome?_eq_some hfound
    split at hother
    · rename_i hk
      cases hother
      rw [h.text_eq hk]
    · cases hother

end SoleDoctype

/-- A document type that gives replacement texts declares entities. So if a document has one document
type, at the top, and is said to declare no entities, then no state of the reader had any, and all
attributes are what they are without declared entities. -/
theorem entity_searches_agree :
    (∀ doctype : String, (internalEntities doctype).entries ≠ [] →
      Markup.declaredEntities doctype ≠ []) ∧
    ∀ (source : String) (d : Document) (id : NodeId) (markup : String),
      (parse source).result = .ok d → d.SoleDoctype id markup → d.declaredEntities = [] →
      (∀ parts, parts <+: (cutLike (pieces (body source.toList)).1 source.toList).1 →
        ∃ r : Reading, (Reading.start.steps parts).result = .ok r ∧ r.entities = ∅) ∧
      (parseUndeclared source).result = .ok d := by
  refine ⟨fun doctype hentries hnone => ?_, fun source d id markup hparse hsole hnone => ?_⟩
  · rw [internalEntities_eq_empty hnone] at hentries
    exact hentries rfl
  · -- The only document type is the one that was asked about.
    have hempty : ∀ other text, d.kind other = .raw .doctype text → internalEntities text = ∅ := by
      intro other text hk
      rw [Document.declaredEntities, hsole.doctype? (ordered_of_parse hparse)] at hnone
      rw [hsole.text_eq hk]
      exact internalEntities_eq_empty hnone
    refine ⟨?_, parseUndeclared_eq_ok_iff.2 ⟨hparse, plainTags_of_parse hparse hempty⟩⟩
    rintro parts ⟨rest, hparts⟩
    obtain ⟨-, -, last, -, rfl, hsteps⟩ := exists_steps_of_parse hparse
    rw [← hparts] at hsteps
    obtain ⟨r, hr, -, htable⟩ :=
      Reading.exists_entities_eq_empty Reading.growing_start rfl hsteps hempty
    exact ⟨r, hr, htable⟩

set_option maxRecDepth 4000 in
/-- A find of one search that reaches over the start of a find of the other, and a document whose only
declaration is commented out. -/
theorem entity_searches_agree_on_swallowed_start :
    (internalEntities "<!DOCTYPE r [<!ENTITY x<!ENTITY y 'v'>]>").entries = [("y", "v")] ∧
    Markup.declaredEntities "<!DOCTYPE r [<!ENTITY x<!ENTITY y 'v'>]>" = ["x<!ENTITY"] ∧
    Markup.declaredEntities "<!DOCTYPE r [<!ENTITY x<!ENTITY y 'v'>]>" ≠ [] ∧
    ∃ d, (parse "<!DOCTYPE r [<!ENTITY><!--<!ENTITY e 'x'>-->]><r a='&lt;'/>").result = .ok d ∧
      d.SoleDoctype 1 "<!DOCTYPE r [<!ENTITY><!--<!ENTITY e 'x'>-->]>" ∧ d.declaredEntities = [] ∧
      (parseUndeclared "<!DOCTYPE r [<!ENTITY><!--<!ENTITY e 'x'>-->]><r a='&lt;'/>").result =
        .ok d := by
  have hentries : (internalEntities "<!DOCTYPE r [<!ENTITY x<!ENTITY y 'v'>]>").entries =
      [("y", "v")] := by decide +kernel
  have hd : (parse "<!DOCTYPE r [<!ENTITY><!--<!ENTITY e 'x'>-->]><r a='&lt;'/>").result =
      .ok ⟨#[⟨.document, none, [1, 2]⟩,
        ⟨.raw .doctype "<!DOCTYPE r [<!ENTITY><!--<!ENTITY e 'x'>-->]>", some 0, []⟩,
        ⟨.element ⟨"r", [⟨"a", "<"⟩]⟩, some 0, []⟩], none⟩ := by decide +kernel
  have hsole : SoleDoctype ⟨#[⟨.document, none, [1, 2]⟩,
        ⟨.raw .doctype "<!DOCTYPE r [<!ENTITY><!--<!ENTITY e 'x'>-->]>", some 0, []⟩,
        ⟨.element ⟨"r", [⟨"a", "<"⟩]⟩, some 0, []⟩], none⟩ 1
      "<!DOCTYPE r [<!ENTITY><!--<!ENTITY e 'x'>-->]>" := by
    refine ⟨rfl, rfl, fun {other text} hk => ?_⟩
    rcases other with _ | _ | _ | other
    · cases hk
    · rfl
    · cases hk
    · cases hk
  refine ⟨hentries, by decide +kernel, entity_searches_agree.1 _ (by simp [hentries]), _, hd, hsole,
    ?_, (entity_searches_agree.2 _ _ _ _ hd hsole ?_).2⟩
  all_goals decide +kernel

end XslLowering.Document
