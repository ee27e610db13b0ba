import XslLowering.Proofs.Cache.Interleaving
import XslLowering.Proofs.Transpiler.EntityGuard

/-!
# Transpilers that share a cache

Several transpilers can keep what they write in one cache, under the paths of files. A `Request` asks
one of them for a document or a file; `Request.serve` answers it.

* `outcome_transpileRoot_of_kept`, `outcome_transpileRoot_of_kept_none`: what is kept for a document is
  given, and otherwise the document is processed;
* `Request.get?_serve`: what a request leaves in the cache;
* `exists_stores`: after any requests, what is kept was stored by one of them;
* `guarded_document_after_requests`: so the guard against declared entities holds of whatever is
  computed, and an answer from the cache can be traced back to the request that stored it.
-/

namespace XslLowering

namespace Cache

/-- What is under a key after a fetch was there before, or is what the fetch has computed. The
computation itself does not use the cache. -/
theorem get?_outcome_fetch {σ ε : Type} {s s' : σ} {c : Cache} {compute : Edit (σ × Cache) ε String}
    {result : Except ε String} (hc : compute.outcome (s, c) = ((s', c), result)) (key k : String) :
    ((fetch key compute).outcome (s, c)).1.2.get? k =
      (c.get? k).or (if key = k then result.toOption else none) := by
  cases hget : c.get? key with
  | some value =>
    rw [outcome_fetch_of_some hget]
    by_cases hk : key = k
    · rw [← hk, hget, Option.some_or]
    · rw [if_neg hk, Option.or_none]
  | none =>
    rw [outcome_fetch_of_none hget, hc]
    cases result with
    | error e => simp [Except.toOption]
    | ok value =>
      rw [Edit.andThen_ok, outcome_keep]
      exact get?_store_or c key value k

end Cache

namespace Transpiler

/-! ## What is kept for a document -/

/-- What is kept for a document in a cache. -/
def kept? (t : Transpiler) (files : Files) (d : Document) (c : Cache) : Option String :=
  (t.cacheKey? files d).bind c.get?

/-- The cache once an output for a document was computed. -/
def keepFor (t : Transpiler) (files : Files) (d : Document) (output : String) (c : Cache) : Cache :=
  (t.cacheKey? files d).elim c (c.store · output)

theorem outcome_transpileRoot_of_some {t : Transpiler} {files : Files} {d : Document} {c : Cache}
    {key : String} (h : t.cacheKey? files d = some key) :
    (t.transpileRoot files).outcome (d, c) = (Cache.fetch key t.process.onFirst).outcome (d, c) := by
  simp [transpileRoot, h]

/-- Where nothing is kept, the document is processed; the output is kept if it has a key. -/
theorem outcome_transpileRoot_of_kept_none {t : Transpiler} {files : Files} {d d' : Document}
    {c : Cache} {result : Except Error String} (hkept : t.kept? files d c = none)
    (hprocess : t.process.outcome d = (d', result)) :
    (t.transpileRoot files).outcome (d, c) =
      ((d', result.toOption.elim c (t.keepFor files d · c)), result) := by
  cases hkey : t.cacheKey? files d with
  | none =>
    rw [outcome_transpileRoot_of_none hkey, hprocess]
    cases result with
    | error e => rfl
    | ok output => simp [keepFor, hkey, Except.toOption]
  | some key =>
    have hget : c.get? key = none := by
      rw [kept?, hkey] at hkept
      exact hkept
    have hcompute : t.process.onFirst.outcome (d, c) = ((d', c), result) := by
      rw [Edit.outcome_onFirst, hprocess]
    rw [outcome_transpileRoot_of_some hkey, Cache.outcome_fetch_of_none hget, hcompute]
    cases result with
    | error e => rfl
    | ok output => simp [Cache.outcome_keep, hget, keepFor, hkey, Except.toOption]

/-- What is kept is given, and nothing else happens. -/
theorem outcome_transpileRoot_of_kept {t : Transpiler} {files : Files} {d : Document} {c : Cache}
    {output : String} (hkept : t.kept? files d c = some output) :
    (t.transpileRoot files).outcome (d, c) = ((d, c), .ok output) := by
  obtain ⟨key, hkey, hget⟩ := Option.bind_eq_some_iff.1 hkept
  rw [outcome_transpileRoot_of_some hkey, Cache.outcome_fetch_of_some hget]

/-! ## Requests -/

/-- What a transpiler can be asked for. -/
inductive Request where
  /-- A document that was read before, while these files are there. -/
  | document (t : Transpiler) (files : Files) (d : Document)
  /-- The document in one of these files. -/
  | file (t : Transpiler) (files : Files) (path : String)

namespace Request

def transpiler : Request → Transpiler
  | .document t _ _ => t
  | .file t _ _ => t

/-- The key under which the answer is kept. -/
def key? : Request → Option String
  | .document t files d => t.cacheKey? files d
  | .file t _ path => if t.caching then some path else none

/-- The document that is asked for. -/
def input? : Request → Option Document
  | .document _ _ d => some d
  | .file _ files path => (Document.load files path).result.toOption

/-- The answer without a cache. -/
def fresh : Request → Except Error String
  | .document t _ d => (t.process.outcome d).2
  | .file t files path => (t.processFile files path).result

/-- The cache afterwards, and the answer. -/
def serve : Request → Cache → Cache × Except Error String
  | .document t files d, c =>
    (((t.transpileRoot files).outcome (d, c)).1.2, ((t.transpileRoot files).outcome (d, c)).2)
  | .file t files path, c =>
    (((t.transpileFile files path).outcome ((), c)).1.2, ((t.transpileFile files path).outcome ((), c)).2)

/-- After a request there is under a key what was there before, or else, if the key is that of the
request, the answer without a cache. -/
theorem get?_serve (r : Request) (c : Cache) (key : String) :
    (r.serve c).1.get? key =
      (c.get? key).or (if r.key? = some key then r.fresh.toOption else none) := by
  cases r with
  | document t files d =>
    rw [serve, key?]
    cases hkey : t.cacheKey? files d with
    | none => simp [outcome_transpileRoot_of_none hkey]
    | some k =>
      rw [outcome_transpileRoot_of_some hkey,
        Cache.get?_outcome_fetch (Edit.outcome_onFirst t.process d c)]
      simp [fresh]
  | file t files path =>
    rw [serve, key?]
    by_cases hcaching : t.caching = true
    · have hfile : (t.transpileFile files path).outcome ((), c) =
          (Cache.fetch path (Edit.ofAttempt (t.processFile files path))).outcome ((), c) := by
        simp [transpileFile, hcaching]
      rw [hfile, Cache.get?_outcome_fetch (Edit.outcome_ofAttempt (t.processFile files path) ((), c))]
      simp [fresh, hcaching]
    · simp [transpileFile, hcaching]

/-- A request stores a value: nothing was kept under the key before it, and the value is kept there
after it. -/
structure Stores (r : Request) (c : Cache) (key value : String) : Prop where
  get?_before : c.get? key = none
  get?_after : (r.serve c).1.get? key = some value

/-- A request stores its own answer, under its own key. -/
theorem Stores.key?_and_fresh {r : Request} {c : Cache} {key value : String}
    (h : r.Stores c key value) : r.key? = some key ∧ r.fresh = .ok value := by
  have hafter := h.get?_after
  rw [get?_serve, h.get?_before, Option.none_or] at hafter
  split at hafter
  · rename_i hkey
    cases hfresh : r.fresh with
    | error e =>
      rw [hfresh] at hafter
      cases hafter
    | ok output =>
      rw [hfresh] at hafter
      cases hafter
      exact ⟨hkey, rfl⟩
  · cases hafter

/-- What is computed for a request is computed from the document it asks for. -/
theorem exists_input_of_fresh {r : Request} {output : String} (h : r.fresh = .ok output) :
    ∃ d, r.input? = some d ∧ (r.transpiler.process.outcome d).2 = .ok output := by
  cases r with
  | document t files d => exact ⟨d, rfl, h⟩
  | file t files path =>
    obtain ⟨d, hload, hprocess⟩ := Attempt.exists_of_result_bind h
    refine ⟨d, ?_, hprocess⟩
    rw [input?, show (Document.load files path).result = .ok d from mapError_eq_ok.1 hload]
    rfl

end Request

/-- The cache after requests that were served one after the other. -/
def serveAll (requests : List Request) (c : Cache) : Cache :=
  requests.foldl (fun c r => (r.serve c).1) c

/-- What is kept after requests was there before, or one of them has stored it. -/
theorem exists_stores_or {requests : List Request} {c : Cache} {key value : String}
    (h : (serveAll requests c).get? key = some value) :
    c.get? key = some value ∨ ∃ before r after, requests = before ++ r :: after ∧
      r.Stores (serveAll before c) key value := by
  induction requests generalizing c with
  | nil => exact .inl h
  | cons r requests ih =>
    rcases ih h with hget | ⟨before, r', after, rfl, hstores⟩
    · cases hold : c.get? key with
      | none => exact .inr ⟨[], r, requests, rfl, hold, hget⟩
      | some old =>
        rw [Request.get?_serve, hold, Option.some_or] at hget
        exact .inl hget
    · exact .inr ⟨r :: before, r', after, rfl, hstores⟩

/-- After any requests, what is kept was stored by one of them. -/
theorem exists_stores {requests : List Request} {key value : String}
    (h : (serveAll requests .empty).get? key = some value) :
    ∃ before r after, requests = before ++ r :: after ∧
      r.Stores (serveAll before .empty) key value :=
  (exists_stores_or h).resolve_left fun hempty => nomatch hempty

/-- Asked for a document with declared entities, a transpiler with the guard refuses it, if nothing is
kept for the document. If something is, it gives that. In both cases the document and the cache stay as
they are. What is kept was stored by an earlier request, with the document's key, which has computed it
from a document of its own; if the guard was on there, then from one without declared entities. -/
theorem guarded_document_after_requests (requests : List Request) {t : Transpiler} {files : Files}
    {d : Document} (ht : t.settings.disableEntities = true) (hd : d.declaredEntities ≠ []) :
    (t.kept? files d (serveAll requests .empty) = none →
      (t.transpileRoot files).outcome (d, serveAll requests .empty) =
        ((d, serveAll requests .empty), .error .containsEntities)) ∧
    ∀ output, t.kept? files d (serveAll requests .empty) = some output →
      (t.transpileRoot files).outcome (d, serveAll requests .empty) =
        ((d, serveAll requests .empty), .ok output) ∧
      ∃ key before r after earlier, t.cacheKey? files d = some key ∧
        requests = before ++ r :: after ∧ r.Stores (serveAll before .empty) key output ∧
        r.input? = some earlier ∧ (r.transpiler.process.outcome earlier).2 = .ok output ∧
        (r.transpiler.settings.disableEntities = true → earlier.declaredEntities = []) := by
  refine ⟨fun hkept => ?_, fun output hkept => ⟨outcome_transpileRoot_of_kept hkept, ?_⟩⟩
  · exact outcome_transpileRoot_of_kept_none hkept (outcome_process_of_refused ht hd)
  · obtain ⟨key, hkey, hget⟩ := Option.bind_eq_some_iff.1 hkept
    obtain ⟨before, r, after, hrequests, hstores⟩ := exists_stores hget
    obtain ⟨-, hfresh⟩ := hstores.key?_and_fresh
    obtain ⟨earlier, hinput, hprocess⟩ := Request.exists_input_of_fresh hfresh
    exact ⟨key, before, r, after, earlier, hkey, hrequests, hstores, hinput, hprocess,
      fun hguard => declaredEntities_of_process hguard hprocess⟩

/-- The transpiler with standard settings, and a cache. -/
def standardCaching : Transpiler := { standard with caching := true }

/-- A directory with one file. -/
def oneFile (name content : String) : Files := ⟨[([name], .file content.toUTF8)]⟩

/-- A directory whose one file declares an entity. -/
def declaringFiles : Files := oneFile "a.xsl" "<!DOCTYPE r [<!ENTITY e 'boom'>]><r/>"

/-- The document in that file. -/
def declaring : Document :=
  ⟨#[⟨.document, none, [1, 2]⟩, ⟨.raw .doctype "<!DOCTYPE r [<!ENTITY e 'boom'>]>", some 0, []⟩,
    ⟨.element ⟨"r", []⟩, some 0, []⟩], some "a.xsl"⟩

theorem load_declaring : (Document.load declaringFiles "a.xsl").result = .ok declaring := by
  decide +kernel

set_option maxRecDepth 4000 in
/-- A file that has changed since its answer was kept: the answer comes from what it was before. Without
that request, the document in the file is refused. -/
theorem guarded_document_after_change :
    ∃ d, (Document.load declaringFiles "a.xsl").result = .ok d ∧
      standardCaching.settings.disableEntities = true ∧ d.declaredEntities ≠ [] ∧
      ((standardCaching.transpileRoot declaringFiles).outcome (d, .empty)).2 =
        .error .containsEntities ∧
      ((standardCaching.transpileRoot declaringFiles).outcome
        (d, serveAll [.file standardCaching (oneFile "a.xsl" "<r/>") "a.xsl"] .empty)).2 = .ok "<r/>" ∧
      ∃ key before r after earlier,
        standardCaching.cacheKey? declaringFiles d = some key ∧
        [Request.file standardCaching (oneFile "a.xsl" "<r/>") "a.xsl"] = before ++ r :: after ∧
        r.Stores (serveAll before .empty) key "<r/>" ∧ r.input? = some earlier ∧
        (r.transpiler.process.outcome earlier).2 = .ok "<r/>" ∧
        (r.transpiler.settings.disableEntities = true → earlier.declaredEntities = []) := by
  have hguard : standardCaching.settings.disableEntities = true := rfl
  have hdeclared : declaring.declaredEntities ≠ [] := by decide +kernel
  have hnone : standardCaching.kept? declaringFiles declaring (serveAll [] .empty) = none := by
    decide +kernel
  have hkept : standardCaching.kept? declaringFiles declaring
      (serveAll [.file standardCaching (oneFile "a.xsl" "<r/>") "a.xsl"] .empty) = some "<r/>" := by
    decide +kernel
  have hrefused := (guarded_document_after_requests [] hguard hdeclared).1 hnone
  obtain ⟨hgiven, hstored⟩ := (guarded_document_after_requests _ hguard hdeclared).2 "<r/>" hkept
  exact ⟨declaring, load_declaring, hguard, hdeclared, congrArg Prod.snd hrefused,
    congrArg Prod.snd hgiven, hstored⟩

set_option maxRecDepth 4000 in
/-- Although the guard is on, an answer is given for a document that declares an entity. -/
theorem declared_entities_answered_from_cache :
    ∃ d, (Document.load declaringFiles "a.xsl").result = .ok d ∧
      standardCaching.settings.disableEntities = true ∧ d.declaredEntities ≠ [] ∧
      ((Request.document standardCaching declaringFiles d).serve
        (serveAll [.file standardCaching (oneFile "a.xsl" "<r/>") "a.xsl"] .empty)).2 = .ok "<r/>" := by
  refine ⟨_, load_declaring, rfl, ?_, ?_⟩
  all_goals decide +kernel

end Transpiler

end XslLowering
